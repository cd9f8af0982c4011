import WordStack.Numeral
import WordStack.Proofs.Lowercase

/-! Texts that differ in the case of ASCII letters.

Writing an ASCII capital small changes no class of characters that is asked for
here: not whitespace, digits, signs, or what bears on the case of neighbours. So
it is of no account to how a text is lowered, in whatever script the rest of it is
(`lower_map_toLower`), nor to whether it is a numeral and which
(`readCell_map_toLower`). -/
namespace WordStack
namespace Text

/-! ### One character -/

/-- The capitals among the ASCII letters. -/
def plainCapitals : Text :=
  ['A', 'B', 'C', 'D', 'E', 'F', 'G', 'H', 'I', 'J', 'K', 'L', 'M', 'N', 'O', 'P', 'Q', 'R', 'S',
   'T', 'U', 'V', 'W', 'X', 'Y', 'Z']

theorem toNat_of_isUpper {c : Char} (upper : c.isUpper = true) :
    0x41 ≤ c.toNat ∧ c.toNat ≤ 0x5A := by
  have range : c.val ≥ 'A'.val ∧ c.val ≤ 'Z'.val := of_decide_eq_true upper
  simp only [ge_iff_le, UInt32.le_iff_toNat_le] at range
  exact range

theorem toLower_of_not_isUpper {c : Char} (small : c.isUpper = false) : c.toLower = c := by
  have outside : ¬ (c.val ≥ 'A'.val ∧ c.val ≤ 'Z'.val) := of_decide_eq_false small
  exact dif_neg outside

theorem toLower_eq_self_or (c : Char) : c.toLower = c ∨ c ∈ plainCapitals := by
  by_cases upper : c.isUpper = true
  · have range := toNat_of_isUpper upper
    have listed : ∀ point < 0x5B, 0x41 ≤ point → Char.ofNat point ∈ plainCapitals := by decide
    have member := listed c.toNat (by omega) range.1
    rw [Char.ofNat_toNat] at member
    exact .inr member
  · exact .inl (toLower_of_not_isUpper (Bool.eq_false_iff.2 upper))

/-- What does not tell the ASCII capitals from their small letters does not see the case of ASCII
letters at all. -/
theorem apply_toLower {α : Type} [DecidableEq α] {f : Char → α}
    (blind : (plainCapitals.all fun c => f c.toLower = f c) = true) (c : Char) :
    f c.toLower = f c := by
  rcases toLower_eq_self_or c with same | capital
  · rw [same]
  · exact of_decide_eq_true (List.all_eq_true.1 blind c capital)

theorem isSpace_toLower (c : Char) : isSpace c.toLower = isSpace c :=
  apply_toLower (by decide +kernel) c

theorem isBlank_toLower (c : Char) : isBlank c.toLower = isBlank c :=
  apply_toLower (by decide +kernel) c

theorem isDecimal_toLower (c : Char) : isDecimal c.toLower = isDecimal c :=
  apply_toLower (by decide +kernel) c

theorem isDigit_toLower (c : Char) : c.toLower.isDigit = c.isDigit :=
  apply_toLower (f := Char.isDigit) (by decide +kernel) c

theorem isIgnorable_toLower (c : Char) : isIgnorable c.toLower = isIgnorable c :=
  apply_toLower (by decide +kernel) c

theorem isCased_toLower (c : Char) : isCased c.toLower = isCased c :=
  apply_toLower (by decide +kernel) c

theorem smallLetter_toLower (c : Char) : smallLetter c.toLower = smallLetter c :=
  apply_toLower (by decide +kernel) c

/-- A character that is no ASCII letter is not the small letter of another one. -/
theorem toLower_eq_iff {c mark : Char} (other : mark.isAlpha = false) :
    c.toLower = mark ↔ c = mark := by
  have letters : (plainCapitals.all fun c => c.isAlpha && c.toLower.isAlpha) = true := by
    decide +kernel
  rcases toLower_eq_self_or c with same | capital
  · rw [same]
  · -- neither the capital nor its small letter is the mark
    have both := List.all_eq_true.1 letters c capital
    constructor
    · rintro rfl
      simp [other] at both
    · rintro rfl
      simp [other] at both

/-! ### Texts -/

theorem withPlainSpaces_map_toLower (text : Text) :
    withPlainSpaces (text.map Char.toLower) = (withPlainSpaces text).map Char.toLower := by
  simp only [withPlainSpaces, List.map_map]
  refine List.map_congr_left fun c _ => ?_
  simp only [Function.comp_apply, isBlank_toLower]
  split <;> rfl

theorem isDigitLed_map_toLower (text : Text) :
    isDigitLed (text.map Char.toLower) = isDigitLed text := by
  cases text with
  | nil => rfl
  | cons c text => exact isDecimal_toLower c

/-! ### Lowering -/

theorem meetsCased_map_toLower (neighbours : Text) :
    meetsCased (neighbours.map Char.toLower) = meetsCased neighbours := by
  have ignorable : (!isIgnorable ·) ∘ Char.toLower = (!isIgnorable ·) :=
    funext fun c => congrArg not (isIgnorable_toLower c)
  rw [meetsCased, List.find?_map, ignorable, meetsCased]
  cases neighbours.find? (!isIgnorable ·) with
  | none => rfl
  | some c => exact isCased_toLower c

theorem endsWord_map_toLower (before after : Text) :
    endsWord (before.map Char.toLower) (after.map Char.toLower) = endsWord before after := by
  rw [endsWord, meetsCased_map_toLower, meetsCased_map_toLower, endsWord]

theorem small_map_toLower (before : Text) (c : Char) (after : Text) :
    small (before.map Char.toLower) c.toLower (after.map Char.toLower) = small before c after := by
  have sigma : c.toLower = 'Σ' ↔ c = 'Σ' := toLower_eq_iff (by decide)
  have dotted : c.toLower = 'İ' ↔ c = 'İ' := toLower_eq_iff (by decide)
  simp only [small, endsWord_map_toLower, smallLetter_toLower, sigma, dotted]

theorem lowerFrom_map_toLower (before text : Text) :
    lowerFrom (before.map Char.toLower) (text.map Char.toLower) = lowerFrom before text := by
  induction text generalizing before with
  | nil => rfl
  | cons c text ih =>
    simp only [List.map_cons, lowerFrom, small_map_toLower]
    rw [← List.map_cons, ih]

/-- Lowering does not see the case of ASCII letters, whatever stands around them. -/
theorem lower_map_toLower (text : Text) : lower (text.map Char.toLower) = lower text :=
  lowerFrom_map_toLower [] text

end Text

/-! ### Numerals -/

namespace Numeral

theorem magnitude_map_toLower (digits : Text) :
    magnitude (digits.map Char.toLower) = magnitude digits := by
  have same : (!Char.isDigit ·) ∘ Char.toLower = (!Char.isDigit ·) :=
    funext fun c => congrArg not (Text.isDigit_toLower c)
  by_cases only : digits.any (!·.isDigit) = true
  · simp only [magnitude, List.any_map, same, only, or_true, if_true]
  · -- digits are no letters, so the text is the same
    have still : digits.map Char.toLower = digits := by
      refine (List.map_congr_left fun c member => ?_).trans (List.map_id digits)
      have digit : c.isDigit = true := by
        simpa using List.any_eq_false.1 (Bool.eq_false_iff.2 only) c member
      refine Text.toLower_of_not_isUpper (Bool.eq_false_iff.2 fun upper => ?_)
      have letter := Text.toNat_of_isUpper upper
      have figure := Text.toNat_of_isDigit digit
      omega
    rw [still]

theorem splitSign_map_toLower (text : Text) :
    splitSign (text.map Char.toLower) =
      ((splitSign text).1, (splitSign text).2.map Char.toLower) := by
  cases text with
  | nil => rfl
  | cons c digits =>
    have minus : c.toLower = '-' ↔ c = '-' := Text.toLower_eq_iff (by decide)
    have plus : c.toLower = '+' ↔ c = '+' := Text.toLower_eq_iff (by decide)
    by_cases negative : c = '-'
    · subst negative
      rfl
    · by_cases positive : c = '+'
      · subst positive
        rfl
      · simp [splitSign, minus, plus, negative, positive]

theorem readCell_map_toLower (text : Text) : readCell (text.map Char.toLower) = readCell text := by
  rw [readCell, splitSign_map_toLower, magnitude_map_toLower, readCell]

end Numeral
end WordStack
