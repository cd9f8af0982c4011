import WordStack.Text.Decimal
import WordStack.Text.Lowercase

/-! What lowering a text does to its characters.

Only letters come of lowering capitals, and none of them is a capital again: the
tables are looked through once for this (`capitals_apart`, `capitals_once`). So
everything below the capital A stays as it is, signs and ASCII digits among it; so
do the decimal digits of every script, and nothing else becomes one; no whitespace,
control character or semicolon comes in; no text becomes empty; and a text that has
been lowered stays as it is when it is lowered again (`lower_lower`). -/
namespace WordStack.Text

/-! ### The tables -/

/-- A code point is moved, if at all, by a run of capitals that it is one of. -/
theorem offset_eq_zero_or (runs : List Capitals) (point : Nat) :
    offset runs point = 0 ∨ ∃ run ∈ runs, run.first ≤ point ∧ point ≤ run.last ∧
      (point - run.first) % run.step = 0 ∧ offset runs point = run.offset := by
  induction runs with
  | nil => exact .inl rfl
  | cons run rest ih =>
    by_cases before : point ≤ run.last
    · by_cases inside : run.first ≤ point ∧ (point - run.first) % run.step = 0
      · exact .inr ⟨run, List.mem_cons_self .., inside.1, before, inside.2, by
          simp only [offset, if_pos before, if_pos inside]⟩
      · exact .inl (by simp only [offset, if_pos before, if_neg inside])
    · simp only [offset, if_neg before]
      rcases ih with still | ⟨other, member, bounds⟩
      · exact .inl still
      · exact .inr ⟨other, List.mem_cons_of_mem _ member, bounds⟩

/-- Where a run of capitals moves a code point to. -/
def Capitals.letter (run : Capitals) (point : Nat) : Nat := (point + run.offset).toNat

theorem Capitals.letter_mono (run : Capitals) {point further : Nat} (before : point ≤ further) :
    run.letter point ≤ run.letter further := by
  simp only [letter]
  omega

/-- No small letter of the run lies between the two code points. -/
def Capitals.apart (run : Capitals) (first last : Nat) : Bool :=
  Nat.blt (run.letter run.last) first || Nat.blt last (run.letter run.first)

theorem Capitals.lt_of_apart {run : Capitals} {first last : Nat} (apart : run.apart first last = true) :
    run.letter run.last < first ∨ last < run.letter run.first := by
  simpa only [Capitals.apart, Bool.or_eq_true, Nat.blt_eq] using apart

/-- What small letters are not, apart from capitals: decimal digits, whitespace, control
characters, the semicolon, the two capitals that are lowered in their own way, and what is no
character at all. -/
def unlettered : Ranges :=
  decimals ++ (spaces ++ (controls ++
    [(0x003B, 0x003B), (0x0130, 0x0130), (0x03A3, 0x03A3), (0xD800, 0xDFFF)]))

theorem contains_alone {c mark : Char} :
    Ranges.contains [(mark.toNat, mark.toNat)] c.toNat = true ↔ c = mark := by
  simp only [Ranges.contains, Bool.if_false_right, Bool.and_eq_true, decide_eq_true_eq]
  constructor
  · intro range
    exact Char.toNat_inj.1 (Nat.le_antisymm range.1 range.2)
  · rintro rfl
    exact ⟨Nat.le_refl _, Nat.le_refl _⟩

/-- Neither capitals nor their small letters are below the capital A or past the last character,
and the small letters are apart from everything unlettered. -/
theorem capitals_apart : (capitals.all fun run =>
    Nat.ble 0x41 run.first && Nat.ble 0x41 (run.letter run.first) &&
      Nat.blt (run.letter run.last) 0x110000 &&
      unlettered.all fun range => run.apart range.1 range.2) = true := by
  decide +kernel

/-- No capital is a decimal digit. -/
theorem decimals_apart : (capitals.all fun run => decimals.all fun range =>
    Nat.blt run.last range.1 || Nat.blt range.2 run.first) = true := by
  decide +kernel

theorem apart_of_mem {run : Capitals} (member : run ∈ capitals) :
    0x41 ≤ run.first ∧ 0x41 ≤ run.letter run.first ∧ run.letter run.last < 0x110000 ∧
      ∀ range ∈ unlettered,
        run.letter run.last < range.1 ∨ range.2 < run.letter run.first := by
  have apart := List.all_eq_true.1 capitals_apart run member
  simp only [Bool.and_eq_true, Nat.ble_eq, Nat.blt_eq, List.all_eq_true] at apart
  obtain ⟨⟨⟨first, low⟩, high⟩, out⟩ := apart
  exact ⟨first, low, high, fun range listed => Capitals.lt_of_apart (out range listed)⟩

/-- The small letters of one run are apart from the capitals of any other, though they may stand
between these where capitals and small letters take turns. -/
theorem capitals_once : (capitals.all fun run => capitals.all fun other =>
    run.apart other.first other.last ||
      ((run.step == 2 || run.first == run.last) && other.step == 2 &&
        run.letter run.first % 2 != other.first % 2)) = true := by
  decide +kernel

/-! ### One character -/

/-- A character is its own small letter, or a run of capitals has moved it. -/
theorem smallLetter_eq_or (c : Char) : smallLetter c = c ∨
    ∃ run ∈ capitals, run.first ≤ c.toNat ∧ c.toNat ≤ run.last ∧
      (c.toNat - run.first) % run.step = 0 ∧ (smallLetter c).toNat = run.letter c.toNat := by
  rcases offset_eq_zero_or capitals c.toNat with still | ⟨run, member, first, last, turn, moved⟩
  · exact .inl (by simp [smallLetter, still])
  · refine .inr ⟨run, member, first, last, turn, ?_⟩
    obtain ⟨-, -, high, out⟩ := apart_of_mem member
    have surrogates := out (0xD800, 0xDFFF) (by decide)
    have low := run.letter_mono first
    have past := run.letter_mono last
    have valid : (run.letter c.toNat).isValidChar := by
      simp only [Nat.isValidChar]
      omega
    rw [smallLetter, moved]
    show (Char.ofNat (run.letter c.toNat)).toNat = _
    rw [Char.ofNat, dif_pos valid]
    rfl

theorem smallLetter_of_lt {c : Char} (low : c.toNat < 0x41) : smallLetter c = c := by
  rcases smallLetter_eq_or c with still | ⟨run, member, first, -⟩
  · exact still
  · have bound := (apart_of_mem member).1
    omega

/-- Lowering does not lead into what is unlettered. -/
theorem contains_of_smallLetter {ranges : Ranges} (listed : ∀ range ∈ ranges, range ∈ unlettered)
    {c : Char} (inside : ranges.contains (smallLetter c).toNat = true) :
    ranges.contains c.toNat = true := by
  rcases smallLetter_eq_or c with still | ⟨run, member, first, last, -, moved⟩
  · rwa [still] at inside
  · obtain ⟨range, found, low, high⟩ := Ranges.exists_of_contains inside
    have out := (apart_of_mem member).2.2.2 range (listed range found)
    have after := run.letter_mono first
    have before := run.letter_mono last
    omega

theorem isDecimal_of_smallLetter {c : Char} (digit : isDecimal (smallLetter c) = true) :
    isDecimal c = true :=
  contains_of_smallLetter (fun _ member => List.mem_append_left _ member) digit

theorem smallLetter_smallLetter (c : Char) : smallLetter (smallLetter c) = smallLetter c := by
  rcases smallLetter_eq_or (smallLetter c) with still | ⟨other, member', first', last', turn', -⟩
  · exact still
  · rcases smallLetter_eq_or c with still | ⟨run, member, first, last, turn, moved⟩
    · rw [still]
      exact still
    · -- a small letter that is a capital again would be one of another run
      exfalso
      have once := List.all_eq_true.1 (List.all_eq_true.1 capitals_once run member) other member'
      have low := (apart_of_mem member).2.1
      have after := run.letter_mono first
      have before := run.letter_mono last
      simp only [Bool.and_eq_true, Bool.or_eq_true, beq_iff_eq, bne_iff_ne] at once
      rcases once with out | ⟨⟨turns, turns'⟩, odd⟩
      · rcases Capitals.lt_of_apart out with short | long <;> omega
      · rw [turns'] at turn'
        simp only [Capitals.letter] at low moved odd
        rcases turns with two | alone
        · rw [two] at turn
          omega
        · omega

/-! ### Small characters -/

/-- A character that lowering leaves as it is, whatever stands around it. -/
structure IsSmall (c : Char) : Prop where
  notSigma : c ≠ 'Σ'
  notDotted : c ≠ 'İ'
  letter : smallLetter c = c

theorem IsSmall.small {c : Char} (isSmall : IsSmall c) (before after : Text) :
    small before c after = [c] := by
  rw [Text.small, if_neg isSmall.notSigma, if_neg isSmall.notDotted, isSmall.letter]

theorem isSmall_of_lt {c : Char} (low : c.toNat < 0x41) : IsSmall c where
  notSigma := by
    rintro rfl
    exact absurd low (by decide)
  notDotted := by
    rintro rfl
    exact absurd low (by decide)
  letter := smallLetter_of_lt low

theorem isSmall_of_isDecimal {c : Char} (digit : isDecimal c = true) : IsSmall c where
  notSigma := by
    rintro rfl
    exact absurd digit (by decide)
  notDotted := by
    rintro rfl
    exact absurd digit (by decide)
  letter := by
    rcases smallLetter_eq_or c with still | ⟨run, member, first, last, -⟩
    · exact still
    · obtain ⟨range, found, low, high⟩ := Ranges.exists_of_contains digit
      have apart := List.all_eq_true.1 (List.all_eq_true.1 decimals_apart run member) range found
      simp only [Bool.or_eq_true, Nat.blt_eq] at apart
      omega

theorem isSmall_smallLetter {c : Char} (sigma : c ≠ 'Σ') (dotted : c ≠ 'İ') :
    IsSmall (smallLetter c) := by
  have apart (mark : Char) (listed : (mark.toNat, mark.toNat) ∈ unlettered) (other : c ≠ mark) :
      smallLetter c ≠ mark := fun same =>
    other (contains_alone.1 (contains_of_smallLetter (by simpa using listed)
      (contains_alone.2 same)))
  exact ⟨apart 'Σ' (by decide) sigma, apart 'İ' (by decide) dotted, smallLetter_smallLetter c⟩

/-- What may come of lowering a character: its small letter, or one of those that come of the two
capitals apart. -/
theorem mem_small {before after : Text} {c d : Char} (member : d ∈ small before c after) :
    d ∈ ['ς', 'σ', 'i', '\u0307'] ∨ c ≠ 'Σ' ∧ c ≠ 'İ' ∧ d = smallLetter c := by
  unfold small at member
  split at member
  · rw [List.mem_singleton] at member
    split at member <;> simp [member]
  · rename_i sigma
    split at member
    · exact .inl (List.mem_append_right ['ς', 'σ'] member)
    · rename_i dotted
      exact .inr ⟨sigma, dotted, List.mem_singleton.1 member⟩

theorem isSmall_of_mem_small {before after : Text} {c d : Char}
    (member : d ∈ small before c after) : IsSmall d := by
  rcases mem_small member with special | ⟨sigma, dotted, rfl⟩
  · have alone : (['ς', 'σ', 'i', '\u0307'].all fun d =>
        d ≠ 'Σ' ∧ d ≠ 'İ' ∧ smallLetter d = d) = true := by decide +kernel
    obtain ⟨sigma, dotted, letter⟩ := of_decide_eq_true (List.all_eq_true.1 alone d special)
    exact ⟨sigma, dotted, letter⟩
  · exact isSmall_smallLetter sigma dotted

/-! ### Texts -/

theorem small_ne_nil (before : Text) (c : Char) (after : Text) : small before c after ≠ [] := by
  unfold small
  split
  · simp
  · split <;> simp

theorem lower_eq_nil_iff {text : Text} : lower text = [] ↔ text = [] := by
  cases text with
  | nil => simp
  | cons c text => simp [lower, lowerFrom, small_ne_nil]

theorem lowerFrom_of_isSmall {text : Text} (all : ∀ c ∈ text, IsSmall c) (before : Text) :
    lowerFrom before text = text := by
  induction text generalizing before with
  | nil => rfl
  | cons c text ih =>
    have first := all c (List.mem_cons_self ..)
    have rest := ih fun d member => all d (List.mem_cons_of_mem c member)
    simp only [lowerFrom, first.small, rest, List.singleton_append]

/-- A text without letters is lowered to itself. -/
theorem lower_of_lt {text : Text} (low : ∀ c ∈ text, c.toNat < 0x41) : lower text = text :=
  lowerFrom_of_isSmall (fun c member => isSmall_of_lt (low c member)) []

/-- Nothing comes in below the capital A. -/
theorem small_of_lt {before after : Text} {c : Char}
    (low : ∀ d ∈ small before c after, d.toNat < 0x41) : small before c after = [c] := by
  unfold small at low ⊢
  split at low
  · have sigma := low _ (List.mem_singleton_self _)
    split at sigma <;> exact absurd sigma (by decide)
  · rename_i sigma
    split at low
    · exact absurd (low 'i' (List.mem_cons_self ..)) (by decide)
    · rename_i dotted
      rw [if_neg sigma, if_neg dotted]
      rcases smallLetter_eq_or c with still | ⟨run, member, first, -, -, moved⟩
      · rw [still]
      · have high := Nat.le_trans (apart_of_mem member).2.1 (run.letter_mono first)
        have low' := low _ (List.mem_singleton_self _)
        omega

theorem lower_of_lower_lt {text : Text} (low : ∀ d ∈ lower text, d.toNat < 0x41) :
    lower text = text := by
  suffices kept : ∀ before, (∀ d ∈ lowerFrom before text, d.toNat < 0x41) →
      lowerFrom before text = text from kept [] low
  clear low
  induction text with
  | nil => exact fun _ _ => rfl
  | cons c text ih =>
    intro before low
    rw [lowerFrom, List.forall_mem_append] at low
    rw [lowerFrom, small_of_lt low.1, ih _ low.2, List.singleton_append]

theorem exists_of_mem_lowerFrom {before text : Text} {d : Char} (member : d ∈ lowerFrom before text) :
    ∃ before' c after, c ∈ text ∧ d ∈ small before' c after := by
  induction text generalizing before with
  | nil => cases member
  | cons c text ih =>
    rcases List.mem_append.1 member with here | later
    · exact ⟨before, c, text, List.mem_cons_self .., here⟩
    · obtain ⟨before', c', after, there, come⟩ := ih later
      exact ⟨before', c', after, List.mem_cons_of_mem c there, come⟩

/-- **What has been lowered stays as it is when it is lowered again.** -/
theorem lower_lower (text : Text) : lower (lower text) = lower text := by
  refine lowerFrom_of_isSmall (fun c member => ?_) []
  obtain ⟨before, d, after, -, come⟩ := exists_of_mem_lowerFrom member
  exact isSmall_of_mem_small come

/-- Nothing unlettered comes in by lowering a text. -/
theorem contains_of_mem_lower {ranges : Ranges} (listed : ∀ range ∈ ranges, range ∈ unlettered)
    {text : Text} {d : Char} (member : d ∈ lower text) (inside : ranges.contains d.toNat = true) :
    ∃ c ∈ text, ranges.contains c.toNat = true := by
  obtain ⟨before, c, after, there, come⟩ := exists_of_mem_lowerFrom member
  refine ⟨c, there, ?_⟩
  rcases mem_small come with special | ⟨-, -, rfl⟩
  · obtain ⟨range, found, low, high⟩ := Ranges.exists_of_contains inside
    have apart : (['ς', 'σ', 'i', '\u0307'].all fun d => unlettered.all fun range =>
        d.toNat < range.1 || range.2 < d.toNat) = true := by decide +kernel
    have out := List.all_eq_true.1 (List.all_eq_true.1 apart d special) range (listed range found)
    simp only [Bool.or_eq_true, decide_eq_true_eq] at out
    omega
  · exact contains_of_smallLetter listed inside

theorem exists_isBlank_of_mem_lower {text : Text} {d : Char} (member : d ∈ lower text)
    (blank : isBlank d = true) : ∃ c ∈ text, isBlank c = true := by
  rcases Bool.or_eq_true_iff.1 blank with space | control
  · have listed : ∀ range ∈ spaces, range ∈ unlettered := fun range member =>
      List.mem_append_right _ (List.mem_append_left _ member)
    obtain ⟨c, there, space⟩ := contains_of_mem_lower listed member space
    exact ⟨c, there, isBlank_of_isSpace space⟩
  · have listed : ∀ range ∈ controls, range ∈ unlettered := fun range member =>
      List.mem_append_right _ (List.mem_append_right _ (List.mem_append_left _ member))
    obtain ⟨c, there, control⟩ := contains_of_mem_lower listed member control
    exact ⟨c, there, Bool.or_eq_true_iff.2 (.inr control)⟩

theorem semicolon_mem_of_lower {text : Text} (member : ';' ∈ lower text) : ';' ∈ text := by
  have listed : ∀ range ∈ [(';'.toNat, ';'.toNat)], range ∈ unlettered := by decide
  obtain ⟨c, there, same⟩ := contains_of_mem_lower listed member (contains_alone.2 rfl)
  rwa [← contains_alone.1 same]

/-- Lowering a text neither takes a decimal digit from its front nor puts one there. -/
theorem isDigitLed_lower (text : Text) : isDigitLed (lower text) = isDigitLed text := by
  cases text with
  | nil => rfl
  | cons c text =>
    have first : (lower (c :: text)).head? = (small [] c text).head? := by
      have nonempty := small_ne_nil [] c text
      cases front : small [] c text with
      | nil => exact absurd front nonempty
      | cons d rest => simp [lower, lowerFrom, front]
    have digit : isDigitLed (c :: text) = isDecimal c := rfl
    rw [isDigitLed, first, digit]
    by_cases decimal : isDecimal c = true
    · rw [(isSmall_of_isDecimal decimal).small]
      rfl
    · rw [Bool.eq_false_iff.2 decimal, Bool.eq_false_iff]
      intro led
      unfold small at led
      split at led
      · split at led <;> exact absurd led (by decide)
      · split at led
        · exact absurd led (by decide)
        · exact decimal (isDecimal_of_smallLetter led)

end WordStack.Text
