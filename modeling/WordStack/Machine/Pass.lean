import WordStack.Machine.Stage

/-! Passes: one round through the stages.

A pass goes through numerals, operators and declarations, expands at most one
word, and ends with commands. A pass that leaves the very text it began with would
be made again and again, so a watched pass takes that for an error: it has
stalled. -/
namespace WordStack.Pass

/-- Numerals, then operators, then declarations. -/
def front (source : Text) : Action Text := do
  let source ← Stage.numerals.run source
  let source ← Stage.operators.run source
  Stage.declarations.run source

/-- One word, then commands. -/
def back (source : Text) : Action Text := do
  let source ← Action.expand source
  Stage.commands.run source

/-- A pass that is not watched. -/
def plain (source : Text) : Action Text := do
  back (← front source)

/-- What a stalled pass is blamed on: the token that stood first when a word was looked for. -/
def blame (words : Dictionary) (source : Text) : Error :=
  let head := Text.token source
  if words.contains head then .endlessWord (Text.lower head) else .unknownWord head

/-- A pass that fails if it leaves the text it began with. -/
def watched (source : Text) : Action Text := do
  let middle ← front source
  let rest ← back middle
  if rest = source then
    throw (blame (← get).words middle)
  return rest

end WordStack.Pass
