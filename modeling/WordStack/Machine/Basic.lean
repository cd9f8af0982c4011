import WordStack.Command
import WordStack.Declaration
import WordStack.Dictionary.Basic
import WordStack.Operator
import WordStack.Record

/-! The machine, and what single items do to it.

A machine is a stack of cells and a dictionary. An item acts on the state of a
run, which is the machine and the records noted so far, and an item that fails
leaves the state as it is at that moment: cells that were already taken off the
stack are gone. -/
namespace WordStack

structure Machine where
  /-- The stack, top cell first. -/
  cells : List Int := []
  words : Dictionary := {}
deriving DecidableEq, Repr

/-- The stack as it is shown, oldest cell first. -/
def Machine.stack (machine : Machine) : List Int := machine.cells.reverse

/-- A machine in the course of a run. -/
structure State extends Machine where
  /-- The records noted so far, newest first. -/
  log : List Record := []
deriving DecidableEq, Repr

/-- What acts on a state and may fail; the state at the failure stays. -/
abbrev Action := EStateM Error State

namespace Action

/-- Fails if the outcome is an error. -/
def ofExcept {α : Type} (outcome : Except Error α) : Action α := fun s =>
  match outcome with
  | .ok value => .ok value s
  | .error e => .error e s

def note (record : Record) : Action Unit := fun s => .ok () { s with log := record :: s.log }

/-! ### The stack -/

def push (cell : Int) : Action Unit := fun s => .ok () { s with cells := cell :: s.cells }

/-- Takes the top cell off. -/
def pop : Action Int := fun s =>
  match s.cells with
  | [] => .error .stackUnderflow s
  | top :: below => .ok top { s with cells := below }

/-- Reads the top cell and leaves it. -/
def peek : Action Int := fun s =>
  match s.cells with
  | [] => .error .stackUnderflow s
  | top :: _ => .ok top s

/-! ### Items -/

/-- Whether a zero would be divided by, which takes two cells. -/
def zeroDivisor : List Int → Bool
  | 0 :: _ :: _ => true
  | _ => false

/-- Replaces the two top cells by the operator's result. A zero divisor is found before
anything is taken off, a lack of cells only in taking them. -/
def operate (op : Operator) : Action Unit := do
  if op = .divide && zeroDivisor (← get).cells then
    throw .divisionByZero
  let right ← pop
  let left ← pop
  push (op.apply left right)

def obey : Command → Action Unit
  | .drop => do
    let _ ← pop
    return
  | .dup => do
    push (← peek)
  | .swap => do
    let top ← pop
    let below ← pop
    push top
    push below
  | .over => do
    let top ← pop
    let below ← pop
    push below
    push top
    push below

/-- Enters a declared word, noting first whether its name is new. -/
def declare (declaration : Declaration) : Action Unit := do
  let words := (← get).words
  if words.contains declaration.name then
    note (.redefined declaration.name declaration.text)
  else
    note (.defined declaration.name declaration.text)
  let words ← ofExcept (words.set declaration.name declaration.text)
  modify fun s => { s with words }

/-- Puts the text of the word at the front in the word's place, if there is one. -/
def expand (source : Text) : Action Text := fun s =>
  match s.words.expand source with
  | .hit text rest => .ok rest { s with log := .expanded text :: s.log }
  | .miss _ => .ok source s

end Action
end WordStack
