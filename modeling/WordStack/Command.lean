import WordStack.Numeral
import WordStack.Scan
import WordStack.Text.Lowercase

/-! The built-in stack commands.

A command is named by one token, in any case. This is the last kind of item that
is looked for, so a token that names no command is an unknown word, unless it is
an unsigned numeral: that one is left to the next pass. -/
namespace WordStack

inductive Command where
  | drop
  | dup
  | swap
  | over
deriving DecidableEq, Repr

namespace Command

def name : Command → Text
  | .drop => ['d', 'r', 'o', 'p']
  | .dup => ['d', 'u', 'p']
  | .swap => ['s', 'w', 'a', 'p']
  | .over => ['o', 'v', 'e', 'r']

/-- The command that a name in small letters stands for. -/
def ofName? (token : Text) : Option Command :=
  [.drop, .dup, .swap, .over].find? (·.name = token)

/-- Reads a token in small letters. An unsigned numeral is no command, and no other token
is let through. -/
def read (token : Text) : Except Error (Option Command) :=
  match ofName? token with
  | some command => .ok (some command)
  | none => match Numeral.readUnsigned token with
    | .error e => .error e
    | .ok (some _) => .ok none
    | .ok none => .error (.unknownWord token)

theorem read_nil : read [] = .error (.unknownWord []) := rfl

/-- Recognises a command in the first token. A miss leaves nothing. -/
def scan (source : Text) : Except Error (Scan Command) :=
  if source = [] then .ok (.miss [])
  else (read (Text.lower (Text.token source))).map fun
    | some command => .hit command (Text.trimLeft (Text.afterToken source))
    | none => .miss []

theorem scan_consumes : Consumes scan := by
  intro source command rest found
  unfold scan at found
  split at found
  · simp at found
  by_cases tokenNil : Text.token source = []
  · simp [tokenNil, read_nil, Except.map] at found
  · have shorter := Text.length_afterToken_lt tokenNil
    have trimmed := Text.length_trimLeft_le (Text.afterToken source)
    cases named : read (Text.lower (Text.token source)) with
    | error e => simp [named, Except.map] at found
    | ok command? =>
      cases command? with
      | none => simp [named, Except.map] at found
      | some _ =>
        obtain ⟨_, rfl⟩ : _ = command ∧ _ = rest := by simpa [named, Except.map] using found
        omega

end Command
end WordStack
