import WordStack.Cell
import WordStack.Scan
import WordStack.Text.Basic

/-! Numerals: the decimal texts of integers.

A numeral is a run of ASCII digits behind an optional sign. Two readers differ in
the signs they take and in their range: one reads a cell, the other a number of
thirty-two bits without sign. A numeral of more than `digitLimit` digits, leading
zeros included, is refused whichever reader meets it. -/
namespace WordStack.Numeral

/-- The greatest number that is read without sign. -/
def unsignedGreatest : Nat := 4294967295

/-- The longest run of digits that is read. -/
def digitLimit : Nat := 4300

/-- The number that a run of digits stands for, most significant first. -/
def value (digits : Text) : Nat :=
  digits.foldl (fun before c => 10 * before + (c.toNat - '0'.toNat)) 0

/-- Reads a text that is digits throughout; any other is no numeral. -/
def magnitude (digits : Text) : Except Error (Option Nat) :=
  if digits = [] ∨ digits.any (!·.isDigit) then .ok none
  else if digitLimit < digits.length then .error (.longNumeral digits.length)
  else .ok (some (value digits))

/-- The sign of a signed numeral and its digits. -/
def splitSign : Text → Int × Text
  | '-' :: digits => (-1, digits)
  | '+' :: digits => (1, digits)
  | digits => (1, digits)

/-- The digits of an unsigned numeral, which may have a plus sign. -/
def dropPlus : Text → Text
  | '+' :: digits => digits
  | digits => digits

/-- Reads a signed numeral, if its value is a cell. -/
def readCell (text : Text) : Except Error (Option Int) :=
  (magnitude (splitSign text).2).map fun value? =>
    (value?.map fun n => (splitSign text).1 * n).filter (Cell.IsCell ·)

/-- Reads an unsigned numeral, if its value is in the unsigned range. -/
def readUnsigned (text : Text) : Except Error (Option Nat) :=
  (magnitude (dropPlus text)).map fun value? => value?.filter (· ≤ unsignedGreatest)

@[simp] theorem readCell_nil : readCell [] = .ok none := rfl

@[simp] theorem readUnsigned_nil : readUnsigned [] = .ok none := rfl

/-- Recognises a cell in the first token. What is left on a miss is trimmed. -/
def scan (source : Text) : Except Error (Scan Int) :=
  (readCell (Text.token source)).map fun
    | some n => .hit n (Text.trimLeft (Text.afterToken source))
    | none => .miss (Text.trim source)

theorem scan_consumes : Consumes scan := by
  intro source n rest found
  by_cases tokenNil : Text.token source = []
  · simp [scan, tokenNil, Except.map] at found
  · have shorter := Text.length_afterToken_lt tokenNil
    have trimmed := Text.length_trimLeft_le (Text.afterToken source)
    unfold scan at found
    cases read : readCell (Text.token source) with
    | error e => simp [read, Except.map] at found
    | ok n? =>
      cases n? with
      | none => simp [read, Except.map] at found
      | some m =>
        obtain ⟨rfl, rfl⟩ : m = n ∧ _ = rest := by simpa [read, Except.map] using found
        omega

end WordStack.Numeral
