import WordStack.Error

/-! What a recogniser finds at the front of a text.

Each kind of item in a program has its recogniser. It either finds an item and
leaves the text behind it, or finds none; then too it leaves a text, which whoever
asked is free to ignore. A recogniser may also refuse the text with an error. What
every recogniser owes is `Consumes`: an item uses up some of the text, so that
recognising again and again comes to an end. -/
namespace WordStack

inductive Scan (α : Type) where
  | hit (value : α) (rest : Text)
  | miss (rest : Text)
deriving DecidableEq, Repr

/-- Every item found leaves a shorter text. -/
def Consumes {α : Type} (scan : Text → Except Error (Scan α)) : Prop :=
  ∀ {text : Text} {value : α} {rest : Text}, scan text = .ok (.hit value rest) →
    rest.length < text.length

namespace Scan

/-- The item found, if there is one. -/
def value? {α : Type} : Scan α → Option α
  | hit value _ => some value
  | miss _ => none

def rest {α : Type} : Scan α → Text
  | hit _ rest => rest
  | miss rest => rest

end Scan
end WordStack
