import WordStack.Command
import WordStack.Operator
import WordStack.Proofs.Cutting
import WordStack.Proofs.Entering
import WordStack.Proofs.Lowercase

/-! What recognisers find, and what they refuse.

An item that is found fixes what is left behind it, and a text that is refused is
refused for few reasons. Of these only one has no kind: a numeral too long to
read. A declaration that is found has passed every check that entering it would
make. -/
namespace WordStack

namespace Numeral
variable {source rest text digits : Text} {n : Int} {m : Nat} {e : Error}

theorem magnitude_eq_ok_iff : magnitude digits = .ok (some m) ↔
    digits ≠ [] ∧ (∀ c ∈ digits, c.isDigit = true) ∧ digits.length ≤ digitLimit ∧
      m = value digits := by
  unfold magnitude
  split
  · rename_i noNumeral
    simp only [List.any_eq_true, Bool.not_eq_true'] at noNumeral
    simp only [reduceCtorEq, Except.ok.injEq, false_iff]
    rintro ⟨nonempty, only, -⟩
    rcases noNumeral with digitsNil | ⟨c, member, letter⟩
    · exact nonempty digitsNil
    · rw [only c member] at letter
      cases letter
  · rename_i numeral
    have numeral' : digits ≠ [] ∧ ∀ c ∈ digits, c.isDigit = true := by simpa using numeral
    split
    · rename_i long
      simp [Nat.not_le.2 long]
    · rename_i short
      simp only [Except.ok.injEq, Option.some.injEq]
      exact ⟨fun same => ⟨numeral'.1, numeral'.2, Nat.le_of_not_lt short, same.symm⟩,
        fun known => known.2.2.2.symm⟩

/-- A sign is an operator's symbol. -/
theorem splitSign_cases (text : Text) : splitSign text = (1, text) ∨
    ∃ op digits sign, text = Operator.symbol op :: digits ∧ splitSign text = (sign, digits) ∧
      (sign = 1 ∨ sign = -1) := by
  unfold splitSign
  split
  · exact .inr ⟨.subtract, _, -1, rfl, rfl, .inr rfl⟩
  · exact .inr ⟨.add, _, 1, rfl, rfl, .inl rfl⟩
  · exact .inl rfl

theorem readUnsigned_eq_ok_iff : readUnsigned text = .ok (some m) ↔
    magnitude (dropPlus text) = .ok (some m) ∧ m ≤ unsignedGreatest := by
  unfold readUnsigned
  cases magnitude (dropPlus text) with
  | error e => simp [Except.map]
  | ok value? => cases value? <;> simp +contextual [Except.map, Option.filter_eq_some_iff]

theorem readCell_eq_ok_iff : readCell text = .ok (some n) ↔
    ∃ m, magnitude (splitSign text).2 = .ok (some m) ∧ (splitSign text).1 * (m : Int) = n ∧
      Cell.IsCell n := by
  unfold readCell
  cases magnitude (splitSign text).2 with
  | error e => simp [Except.map]
  | ok value? => cases value? <;> simp [Except.map, Option.filter_eq_some_iff]

theorem scan_eq_hit_iff : scan source = .ok (.hit n rest) ↔
    readCell (Text.token source) = .ok (some n) ∧
      rest = Text.trimLeft (Text.afterToken source) := by
  unfold scan
  cases readCell (Text.token source) with
  | error e => simp [Except.map]
  | ok n? => cases n? <;> simp [Except.map, eq_comm]

theorem scan_eq_miss_iff : scan source = .ok (.miss rest) ↔
    readCell (Text.token source) = .ok none ∧ rest = Text.trim source := by
  unfold scan
  cases readCell (Text.token source) with
  | error e => simp [Except.map]
  | ok n? => cases n? <;> simp [Except.map, eq_comm]

theorem ne_nil_of_readCell (read : readCell text = .ok (some n)) : text ≠ [] := by
  rintro rfl
  cases read

theorem exists_of_magnitude_eq_error (refused : magnitude digits = .error e) :
    ∃ count, e = .longNumeral count := by
  unfold magnitude at refused
  split at refused
  · cases refused
  · split at refused <;> cases refused
    exact ⟨_, rfl⟩

theorem exists_of_readCell_eq_error (refused : readCell text = .error e) :
    ∃ count, e = .longNumeral count := by
  unfold readCell at refused
  cases found : magnitude (splitSign text).2 with
  | ok value? => simp [found, Except.map] at refused
  | error e' =>
    obtain rfl : e' = e := by simpa [found, Except.map] using refused
    exact exists_of_magnitude_eq_error found

theorem exists_of_readUnsigned_eq_error (refused : readUnsigned text = .error e) :
    ∃ count, e = .longNumeral count := by
  unfold readUnsigned at refused
  cases found : magnitude (dropPlus text) with
  | ok value? => simp [found, Except.map] at refused
  | error e' =>
    obtain rfl : e' = e := by simpa [found, Except.map] using refused
    exact exists_of_magnitude_eq_error found

/-- A numeral is refused only for its length. -/
theorem exists_of_scan_eq_error (refused : scan source = .error e) :
    ∃ count, e = .longNumeral count := by
  unfold scan at refused
  cases read : readCell (Text.token source) with
  | ok n? => cases n? <;> simp [read, Except.map] at refused
  | error e' =>
    obtain rfl : e' = e := by simpa [read, Except.map] using refused
    exact exists_of_readCell_eq_error read

end Numeral

namespace Operator
variable {source rest : Text} {op : Operator}

theorem scan_eq_hit_iff : scan source = .ok (.hit op rest) ↔
    ∃ c after, source = c :: after ∧ ofSymbol? c = some op ∧ rest = Text.trimLeft after := by
  cases source with
  | nil => simp [scan]
  | cons c after =>
    cases known : ofSymbol? c <;> simp [scan, known, eq_comm]

theorem scan_of_none {c : Char} (other : ofSymbol? c = none) (rest : Text) :
    scan (c :: rest) = .ok (.miss (c :: rest)) := by
  simp only [scan, other]

/-- No text is refused for want of an operator. -/
theorem scan_ne_error {e : Error} : scan source ≠ .error e := by
  cases source with
  | nil => simp [scan]
  | cons c source =>
    simp only [scan]
    split <;> simp

end Operator

namespace Declaration
variable {source rest : Text} {declaration : Declaration} {e : Error}

/-- What is found is read from what stands between the colon and the first semicolon. -/
theorem scan_eq_hit_iff : scan source = .ok (.hit declaration rest) ↔
    ∃ inside after, source = ':' :: (inside ++ ';' :: after) ∧ ';' ∉ inside ∧
      read (Text.trim inside) = .ok declaration ∧ rest = Text.trim after := by
  constructor
  · intro found
    by_cases colon : source.head? = some ':'
    · by_cases closed : ';' ∈ source
      · obtain ⟨inside, after, encloses⟩ := exists_encloses colon closed
        rw [encloses.scan_eq] at found
        cases body : read (Text.trim inside) with
        | error e =>
          rw [body] at found
          cases found
        | ok d =>
          rw [body] at found
          cases found
          exact ⟨inside, after, encloses.whole, encloses.unclosed, body, rfl⟩
      · obtain ⟨source, rfl⟩ := List.head?_eq_some_iff.1 colon
        rw [scan_unterminated fun member => closed (List.mem_cons_of_mem _ member)] at found
        cases found
    · rw [scan_of_head?_ne colon] at found
      cases found
  · intro ⟨inside, after, whole, unclosed, body, left⟩
    rw [Encloses.scan_eq ⟨whole, unclosed⟩, body, left]
    rfl

theorem lower_name_of_scan_eq_hit (found : scan source = .ok (.hit declaration rest)) :
    Text.lower declaration.name = declaration.name := by
  obtain ⟨inside, after, -, -, body, -⟩ := scan_eq_hit_iff.1 found
  obtain ⟨-, -, -, rfl⟩ := read_eq_ok_iff.1 body
  exact Text.lower_lower _

/-- **A declaration that is found can be entered** in every dictionary, under its own name. -/
theorem set_of_scan_eq_hit (found : scan source = .ok (.hit declaration rest))
    (words : Dictionary) : words.set declaration.name declaration.text =
      .ok (words.put declaration.name declaration.text) := by
  obtain ⟨inside, after, -, -, body, -⟩ := scan_eq_hit_iff.1 found
  obtain ⟨nonempty, full, letterLed, rfl⟩ := read_eq_ok_iff.1 body
  refine Dictionary.set_eq_ok_iff.2 ⟨?_, ?_, ?_, ?_⟩
  · exact mt Text.lower_eq_nil_iff.1 (Text.token_ne_nil nonempty (Text.trimmed_trim _).led)
  · rwa [Text.isDigitLed_lower]
  · exact mt Text.trim_eq_nil_iff.1 ((Text.trimmed_trim _).not_isGap full)
  · rw [Text.lower_lower]

theorem kind_of_read_eq_error {body : Text} (refused : read body = .error e) :
    e.kind = some .invalidWord := by
  unfold read at refused
  simp only at refused
  split at refused
  · cases refused
    rfl
  · split at refused
    · cases refused
      rfl
    · split at refused <;> cases refused
      rfl

theorem kind_of_scan_eq_error (refused : scan source = .error e) : e.kind = some .invalidWord := by
  unfold scan at refused
  split at refused
  · rename_i source
    split at refused
    · cases refused
      rfl
    · cases body : read (Text.trim (source.takeWhile (· != ';'))) with
      | ok d =>
        rw [body] at refused
        cases refused
      | error e' =>
        rw [body] at refused
        cases refused
        exact kind_of_read_eq_error body
  · cases refused

end Declaration

namespace Command
variable {source rest : Text} {command : Command} {e : Error}

theorem read_eq_command_iff {token : Text} :
    read token = .ok (some command) ↔ ofName? token = some command := by
  unfold read
  cases ofName? token with
  | some _ => simp
  | none =>
    cases Numeral.readUnsigned token with
    | error e => simp
    | ok value? => cases value? <;> simp

theorem read_eq_none_iff {token : Text} : read token = .ok none ↔
    ofName? token = none ∧ ∃ n, Numeral.readUnsigned token = .ok (some n) := by
  unfold read
  cases ofName? token with
  | some _ => simp
  | none =>
    cases Numeral.readUnsigned token with
    | error e => simp
    | ok value? => cases value? <;> simp

theorem scan_eq_hit_iff : scan source = .ok (.hit command rest) ↔
    source ≠ [] ∧ ofName? (Text.lower (Text.token source)) = some command ∧
      rest = Text.trimLeft (Text.afterToken source) := by
  rw [← read_eq_command_iff, scan]
  by_cases sourceNil : source = []
  · simp [sourceNil]
  · cases read (Text.lower (Text.token source)) with
    | error e => simp [sourceNil, Except.map]
    | ok command? => cases command? <;> simp [sourceNil, Except.map, eq_comm]

/-- What stops the commands, short of an error and the end of the text, is an unsigned numeral. -/
theorem exists_scan_eq_miss_iff (left : source ≠ []) : (∃ missed, scan source = .ok (.miss missed)) ↔
    ofName? (Text.lower (Text.token source)) = none ∧
      ∃ n, Numeral.readUnsigned (Text.lower (Text.token source)) = .ok (some n) := by
  rw [← read_eq_none_iff, scan, if_neg left]
  cases read (Text.lower (Text.token source)) with
  | error e => simp [Except.map]
  | ok command? => cases command? <;> simp [Except.map]

/-- A token that names no command is refused for its length if it is a numeral, and else for being
unknown. -/
theorem of_scan_eq_error (refused : scan source = .error e) :
    (∃ count, e = .longNumeral count) ∨ e = .unknownWord (Text.lower (Text.token source)) := by
  unfold scan at refused
  split at refused
  · cases refused
  cases named : read (Text.lower (Text.token source)) with
  | ok command? => cases command? <;> simp [named, Except.map] at refused
  | error e' =>
    obtain rfl : e' = e := by simpa [named, Except.map] using refused
    unfold read at named
    split at named
    · cases named
    · cases unsigned : Numeral.readUnsigned (Text.lower (Text.token source)) with
      | error e'' =>
        rw [unsigned] at named
        cases named
        exact .inl (Numeral.exists_of_readUnsigned_eq_error unsigned)
      | ok value? =>
        rw [unsigned] at named
        cases value? <;> cases named
        exact .inr rfl

end Command
end WordStack
