import WordStack.Proofs.Checked
import WordStack.Proofs.Found

/-! Texts that a numeral leads.

A numeral of digits only is left to the numerals: it is no operator, begins no
declaration and names no command, and no word has its name. So every other stage
of a pass hands on a text that such a numeral leads, whether or not its value is
a cell. -/
namespace WordStack

namespace Text

/-- The first token is read without sign, and has digits only. -/
structure UnsignedLed (text : Text) : Prop where
  digits : ∀ c ∈ token text, c.isDigit = true
  unsigned : ∃ m, Numeral.readUnsigned (token text) = .ok (some m)

/-- The first token is read as a cell, and has digits only. -/
structure NumeralLed (text : Text) : Prop where
  digits : ∀ c ∈ token text, c.isDigit = true
  cell : ∃ n, Numeral.readCell (token text) = .ok (some n)

end Text

namespace Numeral
variable {digits : Text}

/-- Where there are only digits there is no sign. -/
theorem unsigned_of_isDigit (only : ∀ c ∈ digits, c.isDigit = true) :
    splitSign digits = (1, digits) ∧ dropPlus digits = digits := by
  cases digits with
  | nil => exact ⟨rfl, rfl⟩
  | cons c rest =>
    have digit := only c (List.mem_cons_self ..)
    have minus : c ≠ '-' := by
      rintro rfl
      exact absurd digit (by decide)
    have plus : c ≠ '+' := by
      rintro rfl
      exact absurd digit (by decide)
    simp [splitSign, dropPlus, minus, plus]

/-- Digits are read as a cell if they are read without sign and their value is not too great. -/
theorem readCell_digits_iff (only : ∀ c ∈ digits, c.isDigit = true) {n : Int} :
    readCell digits = .ok (some n) ↔
      ∃ m : Nat, readUnsigned digits = .ok (some m) ∧ (m : Int) = n ∧ m ≤ Cell.greatest := by
  have unsigned := unsigned_of_isDigit only
  simp only [readCell_eq_ok_iff, readUnsigned_eq_ok_iff, unsigned.1, unsigned.2, Int.one_mul]
  refine exists_congr fun m => ?_
  constructor
  · rintro ⟨read, rfl, range⟩
    simp only [Cell.IsCell] at range
    refine ⟨⟨read, ?_⟩, rfl, range.2⟩
    simp only [Cell.greatest] at range
    simp only [unsignedGreatest]
    omega
  · rintro ⟨⟨read, -⟩, rfl, small⟩
    refine ⟨read, rfl, ?_, small⟩
    simp only [Cell.least]
    omega

/-- Digits that are read without sign are not too many, though their value may be too great. -/
theorem readCell_of_readUnsigned (only : ∀ c ∈ digits, c.isDigit = true) {m : Nat}
    (unsigned : readUnsigned digits = .ok (some m)) :
    (∃ n, readCell digits = .ok (some n)) ∨ readCell digits = .ok none := by
  have signs := unsigned_of_isDigit only
  have read := (readUnsigned_eq_ok_iff.1 unsigned).1
  rw [signs.2] at read
  cases cell : readCell digits with
  | error e => simp [readCell, signs.1, read, Except.map] at cell
  | ok n? =>
    cases n? with
    | none => exact .inr rfl
    | some n => exact .inl ⟨n, rfl⟩

end Numeral

theorem Operator.ofSymbol?_of_isDigit {c : Char} (digit : c.isDigit = true) :
    ofSymbol? c = none := by
  unfold ofSymbol?
  split <;> first | rfl | exact absurd digit (by decide)

/-! ### What the recognisers make of it -/

namespace Text.UnsignedLed
variable {text : Text} (led : UnsignedLed text)
include led

theorem exists_cons : ∃ c rest, text = c :: rest ∧ c.isDigit = true := by
  obtain ⟨m, unsigned⟩ := led.unsigned
  cases text with
  | nil => simp at unsigned
  | cons c rest =>
    by_cases space : isSpace c = true
    · have tokenNil : token (c :: rest) = [] := token_of_isSpaceLed space
      simp [tokenNil] at unsigned
    · exact ⟨c, rest, rfl, led.digits c (by simp [token, space])⟩

theorem ne_nil : text ≠ [] := by
  obtain ⟨c, rest, rfl, -⟩ := led.exists_cons
  exact List.cons_ne_nil c rest

theorem not_isSpaceLed : isSpaceLed text = false := by
  obtain ⟨c, rest, rfl, digit⟩ := led.exists_cons
  exact isSpace_of_isDigit digit

theorem not_isGap : ¬ IsGap text := fun blank => by
  have first := isSpaceLed_of_isGap blank led.ne_nil
  rw [led.not_isSpaceLed] at first
  cases first

theorem operators : Operator.scan text = .ok (.miss text) := by
  obtain ⟨c, rest, rfl, digit⟩ := led.exists_cons
  exact Operator.scan_of_none (Operator.ofSymbol?_of_isDigit digit) rest

theorem declarations : Declaration.scan text = .ok (.miss []) := by
  obtain ⟨c, rest, rfl, digit⟩ := led.exists_cons
  refine Declaration.scan_of_ne ?_
  rintro rfl
  exact absurd digit (by decide)

theorem lower_token : lower (token text) = token text := by
  refine lower_of_lt fun c member => ?_
  have range := toNat_of_isDigit (led.digits c member)
  omega

theorem commands : Command.scan text = .ok (.miss []) := by
  obtain ⟨m, unsigned⟩ := led.unsigned
  have unknown : Command.ofName? (token text) = none := by
    refine List.find?_eq_none.2 fun command _ named => ?_
    obtain ⟨c, member, letter⟩ : ∃ c ∈ command.name, c.isDigit = false := by
      cases command <;> exact ⟨_, List.mem_cons_self .., rfl⟩
    rw [of_decide_eq_true named] at member
    rw [led.digits c member] at letter
    cases letter
  have read : Command.read (token text) = .ok none :=
    Command.read_eq_none_iff.2 ⟨unknown, m, unsigned⟩
  rw [Command.scan, if_neg led.ne_nil, led.lower_token, read]
  rfl

theorem get?_token {words : Dictionary} (checked : words.Checked) :
    words.get? (token text) = none := by
  refine checked.get?_of_isDigitLed ?_
  obtain ⟨c, rest, rfl, digit⟩ := led.exists_cons
  have letter := isSpace_of_isDigit digit
  simpa [token, letter, isDigitLed] using isDecimal_of_isDigit digit

end Text.UnsignedLed

section
variable {digits : Text} {m : Nat} (only : ∀ c ∈ digits, c.isDigit = true)
  (unsigned : Numeral.readUnsigned digits = .ok (some m))
include only unsigned

theorem Text.unsignedLed_append (source : Text) : UnsignedLed (digits ++ afterToken source) := by
  have token := (cut_afterToken (fun c member => isSpace_of_isDigit (only c member)) source).1
  exact ⟨token.symm ▸ only, m, token.symm ▸ unsigned⟩

/-- To the operators, the sign of a numeral is an operator, and leaves a numeral without sign. -/
theorem Operator.scan_of_signed {source : Text} {op : Operator}
    (first : Text.token source = op.symbol :: digits) :
    scan source = .ok (.hit op (digits ++ Text.afterToken source)) := by
  have led := Text.unsignedLed_append only unsigned source
  have whole : source = op.symbol :: (digits ++ Text.afterToken source) := by
    rw [← List.cons_append, ← first, Text.token_append_afterToken]
  exact scan_eq_hit_iff.2
    ⟨_, _, whole, ofSymbol?_symbol op, (Text.trimLeft_eq_self led.not_isSpaceLed).symm⟩

end

/-- Digits that are read as a cell are read without sign, too. -/
theorem Text.NumeralLed.unsigned {text : Text} (led : NumeralLed text) : UnsignedLed text where
  digits := led.digits
  unsigned := by
    obtain ⟨n, cell⟩ := led.cell
    obtain ⟨m, unsigned, -⟩ := (Numeral.readCell_digits_iff led.digits).1 cell
    exact ⟨m, unsigned⟩

end WordStack
