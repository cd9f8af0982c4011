import WordStack.Scan
import WordStack.Text.Decimal
import WordStack.Text.Lowercase

/-! The dictionary: the words of a program and what they stand for.

Names are kept in small letters and in the order in which they first came in;
texts are kept as they were spelled. A new text for a name takes the place of the
old one. Whoever asks under a name may spell it in any case: a look-up by key
lowers the key first, and only a look-up by name takes it as it is. -/
namespace WordStack

/-- A word's name and the text it stands for. -/
structure Entry where
  name : Text
  text : Text
deriving DecidableEq, Repr

structure Dictionary where
  entries : List Entry := []
deriving DecidableEq, Repr

namespace Dictionary

def names (d : Dictionary) : List Text := d.entries.map (·.name)

/-! ### By name -/

/-- The text under a name, spelled as it is kept. -/
def find? (d : Dictionary) (name : Text) : Option Text :=
  (d.entries.find? (·.name = name)).map (·.text)

/-- The text under a name that must be there. -/
def lookup (d : Dictionary) (name : Text) : Except Error Text :=
  match d.find? name with
  | some text => .ok text
  | none => .error (.missingKey name)

/-- Replaces the text under a name, or adds an entry behind all others. -/
def place (name text : Text) : List Entry → List Entry
  | [] => [⟨name, text⟩]
  | entry :: rest =>
    if entry.name = name then ⟨name, text⟩ :: rest else entry :: place name text rest

def put (d : Dictionary) (name text : Text) : Dictionary := ⟨place name text d.entries⟩

def remove (d : Dictionary) (name : Text) : Dictionary :=
  ⟨d.entries.filter (·.name ≠ name)⟩

/-! ### By key -/

def get? (d : Dictionary) (key : Text) : Option Text := d.find? (Text.lower key)

def contains (d : Dictionary) (key : Text) : Bool := (d.get? key).isSome

/-- The text under a key that must be there. -/
def index (d : Dictionary) (key : Text) : Except Error Text := d.lookup (Text.lower key)

/-- Enters a word. Its name must not be empty or start with a decimal digit, and its text must
not be blank. -/
def set (d : Dictionary) (key text : Text) : Except Error Dictionary :=
  if key = [] ∨ Text.isDigitLed key then .error (.invalidName key)
  else if Text.trim text = [] then .error (.noDefinition key)
  else .ok (d.put (Text.lower key) text)

/-- Removes a word that must be there. -/
def delete (d : Dictionary) (key : Text) : Except Error Dictionary :=
  (d.index key).map fun _ => d.remove (Text.lower key)

/-- Enters words one after another, as far as they pass; the first that does not ends it. -/
def update (d : Dictionary) : List Entry → Dictionary × Option Error
  | [] => (d, none)
  | entry :: rest => match d.set entry.name entry.text with
    | .ok d => d.update rest
    | .error e => (d, some e)

/-- The dictionary of some words, all of which must pass. -/
def ofEntries (entries : List Entry) : Except Error Dictionary :=
  entries.foldlM (fun d entry => d.set entry.name entry.text) {}

/-! ### In a text -/

/-- Recognises a word in the first token. Its text takes the token's place, and what follows
the token stays as it is. -/
def expand (d : Dictionary) (source : Text) : Scan Text :=
  match d.get? (Text.token source) with
  | some text => .hit text (text ++ Text.afterToken source)
  | none => .miss source

end Dictionary
end WordStack
