import WordStack.Cell
import WordStack.Scan
import WordStack.Text.Basic

/-! The four operators, on cells.

Results wrap around at the ends of the range. Division discards the fraction, so
it goes toward zero; whoever applies it has seen to it that the divisor is not
zero. -/
namespace WordStack

inductive Operator where
  | add
  | subtract
  | multiply
  | divide
deriving DecidableEq, Repr

namespace Operator

def symbol : Operator → Char
  | add => '+'
  | subtract => '-'
  | multiply => '*'
  | divide => '/'

/-- The operator that a character stands for. -/
def ofSymbol? : Char → Option Operator
  | '+' => some add
  | '-' => some subtract
  | '*' => some multiply
  | '/' => some divide
  | _ => none

/-- The operator that a text names: it must be the one symbol and nothing else. -/
def ofText : Text → Except Error Operator
  | [c] => match ofSymbol? c with
    | some op => .ok op
    | none => .error (.notAnOperator [c])
  | text => .error (.notAnOperator text)

def apply (op : Operator) (left right : Int) : Int :=
  Cell.wrap <| match op with
    | add => left + right
    | subtract => left - right
    | multiply => left * right
    | divide => left.tdiv right

theorem ofSymbol?_symbol (op : Operator) : ofSymbol? op.symbol = some op := by
  cases op <;> rfl

theorem symbol_of_ofSymbol? {c : Char} {op : Operator} (known : ofSymbol? c = some op) :
    op.symbol = c := by
  unfold ofSymbol? at known
  split at known <;> cases known <;> rfl

theorem isCell_apply (op : Operator) (left right : Int) : Cell.IsCell (op.apply left right) :=
  Cell.isCell_wrap _

/-- Recognises an operator in the first character, whatever follows it. -/
def scan : Text → Except Error (Scan Operator)
  | [] => .ok (.miss [])
  | c :: rest => match ofSymbol? c with
    | some op => .ok (.hit op (Text.trimLeft rest))
    | none => .ok (.miss (c :: rest))

theorem scan_consumes : Consumes scan := by
  intro source op rest found
  match source, found with
  | c :: after, found =>
    have trimmed := Text.length_trimLeft_le after
    cases known : ofSymbol? c with
    | none => simp [scan, known] at found
    | some _ =>
      obtain ⟨rfl, rfl⟩ : _ = op ∧ _ = rest := by simpa [scan, known] using found
      simp only [List.length_cons]
      omega

end Operator
end WordStack
