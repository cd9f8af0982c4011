import WordStack.Machine.Basic

/-! A machine shown in one line: its stack, oldest cell first, and its words in order, with
names and texts quoted. -/
namespace WordStack.Machine

private def listed (items : List String) : String := String.intercalate ", " items

private def shown (entry : Entry) : String :=
  Text.quoted entry.name ++ ": " ++ Text.quoted entry.text

def describe (machine : Machine) : String :=
  "Forth(stack=[" ++ listed (machine.stack.map toString) ++ "], words=\x7b" ++
    listed (machine.words.entries.map shown) ++ "\x7d)"

end WordStack.Machine
