import WordStack.Error

/-! Records: what a program's run notes of the words it meets.

A run notes each word it defines or redefines, each word it expands, each numeral
that had to wait for the next pass, and the error that ended it, if the error has
a kind. A record is noted in words, which keep all that it holds
(`message_injective`). -/
namespace WordStack

inductive Record where
  | defined (name text : Text)
  | redefined (name text : Text)
  | expanded (text : Text)
  | strayNumeral (token : Text)
  | aborted (kind : Kind) (error : Error)
deriving DecidableEq, Repr

namespace Record

/-- A record in words. -/
def message : Record → String
  | defined name text => "defining word " ++ Text.quoted name ++ " as " ++ Text.quoted text
  | redefined name text => "redefining word " ++ Text.quoted name ++ " as " ++ Text.quoted text
  | expanded text => "expanded word to " ++ Text.quoted text
  | strayNumeral token => "numeral " ++ Text.quoted token ++ " reached the command stage"
  | aborted kind error => "evaluation aborted by " ++ kind.label ++ ": " ++ error.message

/-- The letters that the words of a record begin with. -/
def initials : Record → Text
  | defined _ _ => ['d', 'e']
  | redefined _ _ => ['r', 'e']
  | expanded _ => ['e', 'x']
  | strayNumeral _ => ['n', 'u']
  | aborted _ _ => ['e', 'v']

theorem take_message (record : Record) : record.message.toList.take 2 = record.initials := by
  cases record <;>
  · unfold message
    simp only [String.toList_append, List.append_assoc]
    rfl

/-- **The words of a record tell which it is.** -/
theorem message_injective : Function.Injective message := by
  intro record record' same
  have initials : record.initials = record'.initials := by
    rw [← take_message, ← take_message, same]
  unfold message at same
  cases record <;> cases record'
  case defined.defined | redefined.redefined =>
    simp only [String.append_assoc, String.append_right_inj] at same
    obtain ⟨rfl, tail⟩ := Text.quoted_append_inj same
    obtain rfl := Text.quoted_injective ((String.append_right_inj _).1 tail)
    rfl
  case expanded.expanded =>
    rw [Text.quoted_injective ((String.append_right_inj _).1 same)]
  case strayNumeral.strayNumeral =>
    simp only [String.append_assoc, String.append_right_inj] at same
    rw [(Text.quoted_append_inj same).1]
  case aborted.aborted kind error kind' error' =>
    have parts : kind.label ++ ": " ++ error.message = kind'.label ++ ": " ++ error'.message := by
      simpa only [String.append_assoc, String.append_right_inj] using same
    obtain ⟨rfl, told⟩ := Kind.label_append_inj parts
    rw [Error.message_injective told]
  all_goals cases initials

end Record
end WordStack
