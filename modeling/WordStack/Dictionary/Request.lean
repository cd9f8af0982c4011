import WordStack.Dictionary.Basic

/-! What a dictionary can be asked, and its answers.

Five requests are basic: look a key up, enter a word, delete one, count the
entries, list the names. The others are made of these, so each of them looks the
names it meets up again. A request for a text can bring a fallback, to be given
back where the text is missing; that is a value of the caller's, of whatever type,
and the dictionary does not look at it. A request that fails leaves the dictionary
as it was, except that entering several words keeps those before the one
refused. -/
namespace WordStack.Dictionary

/-! ### Requests made of the basic ones -/

/-- The texts, in the order of their names. -/
def texts (d : Dictionary) : Except Error (List Text) := d.names.mapM d.index

/-- The names with their texts, in order. -/
def items (d : Dictionary) : Except Error (List Entry) :=
  d.names.mapM fun name => (d.index name).map (Entry.mk name ·)

/-- Removes a word and gives its text. -/
def take (d : Dictionary) (key : Text) : Except Error (Text × Dictionary) := do
  let text ← d.index key
  return (text, ← d.delete key)

/-- Removes the oldest entry and gives it. -/
def takeOldest (d : Dictionary) : Except Error (Entry × Dictionary) :=
  match d.names with
  | [] => .error .noEntries
  | name :: _ => (d.take name).map fun (text, rest) => (⟨name, text⟩, rest)

/-- Removes the oldest entry a number of times, as long as that is possible. -/
def drain : Nat → Dictionary → Dictionary
  | 0, d => d
  | count + 1, d => match d.takeOldest with
    | .ok (_, rest) => drain count rest
    | .error _ => d

/-- Removes the oldest entry until there is none. -/
def clear (d : Dictionary) : Dictionary := drain d.entries.length d

/-- The text under a key, which is entered first if it is not there. -/
def setDefault (d : Dictionary) (key text : Text) : Except Error (Text × Dictionary) :=
  match d.index key with
  | .ok present => .ok (present, d)
  | .error _ => (d.set key text).map (text, ·)

/-- Whether the entries are those given, in any order. The names given are not lowered. -/
def equals (d : Dictionary) (given : List Entry) : Except Error Bool :=
  d.items.map fun own => own.length = given.length && given.all (own.contains ·)

/-- Whether there is a word under a key of any type, which is given as none if it is no text. -/
def containsAny (d : Dictionary) (key? : Option Text) : Bool := key?.any d.contains

/-! ### All requests -/

/-- A request, whose fallback is of type `α`. -/
inductive Request (α : Type) where
  | set (key text : Text)
  | index (key : Text)
  | get (key : Text) (fallback? : Option α)
  | delete (key : Text)
  | contains (key? : Option Text)
  | size
  | names
  | texts
  | expand (source : Text)
  | take (key : Text) (fallback? : Option α)
  | takeOldest
  | setDefault (key text : Text)
  | update (words : List Entry)
  | clear
  | equals (words : List Entry)
deriving Repr

/-- An answer, which can be the fallback of the request. -/
inductive Answer (α : Type) where
  | done
  | nothing
  | fallback (value : α)
  | text (text : Text)
  | texts (texts : List Text)
  | truth (truth : Bool)
  | count (count : Nat)
  | entry (entry : Entry)
  | scan (scan : Scan Text)
deriving DecidableEq, Repr

variable {α : Type}

/-- The answer to a request that changes nothing. -/
private def told (d : Dictionary) (answer : Except Error (Answer α)) :
    Except Error (Answer α) × Dictionary :=
  (answer, d)

/-- The answer to a request that changes the dictionary if it succeeds. -/
private def changed (d : Dictionary) (outcome : Except Error (Answer α × Dictionary)) :
    Except Error (Answer α) × Dictionary :=
  match outcome with
  | .ok (answer, next) => (.ok answer, next)
  | .error e => (.error e, d)

/-- The answer to a request and the dictionary after it. -/
def answer (d : Dictionary) : Request α → Except Error (Answer α) × Dictionary
  | .set key text => changed d <| (d.set key text).map (.done, ·)
  | .index key => told d <| (d.index key).map .text
  | .get key fallback? => told d <| .ok <| match d.get? key, fallback? with
    | some text, _ => .text text
    | none, some value => .fallback value
    | none, none => .nothing
  | .delete key => changed d <| (d.delete key).map (.done, ·)
  | .contains key? => told d <| .ok <| .truth (d.containsAny key?)
  | .size => told d <| .ok <| .count d.entries.length
  | .names => told d <| .ok <| .texts d.names
  | .texts => told d <| d.texts.map .texts
  | .expand source => told d <| .ok <| .scan (d.expand source)
  | .take key fallback? => match d.take key, fallback? with
    | .error _, some value => (.ok (.fallback value), d)
    | outcome, _ => changed d <| outcome.map fun (text, rest) => (.text text, rest)
  | .takeOldest => changed d <| d.takeOldest.map fun (entry, rest) => (.entry entry, rest)
  | .setDefault key text =>
    changed d <| (d.setDefault key text).map fun (text, next) => (.text text, next)
  | .update words => match d.update words with
    | (next, none) => (.ok .done, next)
    | (next, some e) => (.error e, next)
  | .clear => (.ok .done, d.clear)
  | .equals words => told d <| (d.equals words).map .truth

/-! ### Requests that fail -/

variable {d : Dictionary} {e : Error}

private theorem changed_of_error {outcome : Except Error (Answer α × Dictionary)}
    (failed : (changed d outcome).1 = .error e) : (changed d outcome).2 = d := by
  cases outcome with
  | ok _ => cases failed
  | error _ => rfl

/-- **A request that fails changes nothing**, unless it enters several words. -/
theorem answer_of_error {request : Request α} (single : ∀ words, request ≠ .update words)
    (failed : (d.answer request).1 = .error e) : (d.answer request).2 = d := by
  cases request with
  | set _ _ | delete _ | takeOldest | setDefault _ _ => exact changed_of_error failed
  | take key fallback? =>
    simp only [answer] at failed ⊢
    split at failed
    · rfl
    · exact changed_of_error failed
  | update words => exact absurd rfl (single words)
  | clear => cases failed
  | _ => rfl

end WordStack.Dictionary
