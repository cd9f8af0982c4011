import WordStack.Text.Quoted

/-! What can go wrong, and how it is told.

An error is its cause; its wording is written here once, in `Error.message`. What
is wrong with a program is of one of four kinds, which a caller can tell apart
without reading the message. The other errors have no kind: a numeral too long to
read, wherever it is met, a key that is not in the dictionary, a symbol that is no
operator. The wording keeps all of the cause: an error can be read off its message
(`ofMessage?_message`), so errors that are told alike are the same
(`message_injective`). -/
namespace WordStack

/-- What can be wrong with a program. -/
inductive Kind where
  | divisionByZero
  | stackUnderflow
  | unknownWord
  | invalidWord
deriving DecidableEq, Repr

/-- The name of a kind in records and answers. -/
def Kind.label : Kind → String
  | divisionByZero => "division_by_zero"
  | stackUnderflow => "stack_underflow"
  | unknownWord => "unknown_word"
  | invalidWord => "invalid_word"

/-- A label is told from what follows it by a colon. -/
theorem Kind.takeWhile_label_append (kind : Kind) (rest : String) :
    (kind.label ++ ": " ++ rest).toList.takeWhile (· ≠ ':') = kind.label.toList := by
  rw [String.toList_append, String.toList_append, List.append_assoc]
  cases kind <;> rfl

theorem Kind.label_injective : Function.Injective label := by
  intro kind kind' same
  cases kind <;> cases kind' <;> first | rfl | exact absurd same (by decide)

theorem Kind.label_append_inj {kind kind' : Kind} {rest rest' : String}
    (same : kind.label ++ ": " ++ rest = kind'.label ++ ": " ++ rest') :
    kind = kind' ∧ rest = rest' := by
  have labels : kind.label.toList = kind'.label.toList := by
    rw [← takeWhile_label_append kind rest, same, takeWhile_label_append]
  obtain rfl := label_injective (String.toList_inj.1 labels)
  exact ⟨rfl, (String.append_right_inj _).1 same⟩

inductive Error where
  | divisionByZero
  | stackUnderflow
  /-- The token is no numeral, operator, declaration, word or command. -/
  | unknownWord (token : Text)
  /-- Expanding the word brought a pass back to the text it began with. -/
  | endlessWord (name : Text)
  /-- A declaration has no terminator. -/
  | unterminated
  | emptyDeclaration
  | noDefinition (name : Text)
  /-- A declared name starts with a decimal digit. -/
  | digitLed (name : Text)
  /-- A name given to the dictionary is empty or starts with a decimal digit. -/
  | invalidName (name : Text)
  /-- A numeral has more digits than are read. -/
  | longNumeral (digits : Nat)
  | missingKey (name : Text)
  /-- An entry was asked of an empty dictionary. -/
  | noEntries
  | notAnOperator (symbol : Text)
deriving DecidableEq, Repr

namespace Error

/-- The kind of an error, where it is the program that is wrong. -/
def kind : Error → Option Kind
  | divisionByZero => some .divisionByZero
  | stackUnderflow => some .stackUnderflow
  | unknownWord _ | endlessWord _ => some .unknownWord
  | unterminated | emptyDeclaration | noDefinition _ | digitLed _ | invalidName _ =>
    some .invalidWord
  | longNumeral _ | missingKey _ | noEntries | notAnOperator _ => none

/-- The wording of an error. -/
def message : Error → String
  | divisionByZero => "division by zero"
  | stackUnderflow => "stack is empty"
  | unknownWord token => "unknown word " ++ Text.quoted token
  | endlessWord name => "word " ++ Text.quoted name ++ " expands to itself without end"
  | unterminated => "word declaration is missing its ';' terminator"
  | emptyDeclaration => "word declaration is empty"
  | noDefinition name => "word " ++ Text.quoted name ++ " has no definition"
  | digitLed name => "word " ++ Text.quoted name ++ " starts with a digit"
  | invalidName name => "invalid word name " ++ Text.quoted name
  | longNumeral digits =>
    "Exceeds the limit (4300 digits) for integer string conversion: value has " ++
      toString digits ++ " digits; use sys.set_int_max_str_digits() to increase the limit"
  | missingKey name => Text.quoted name
  | noEntries => ""
  | notAnOperator symbol => Text.quoted symbol ++ " is not a valid Operator"

/-! ### Reading a message -/

/-- The error whose message quotes nothing. -/
def ofPlain : String → Error
  | "division by zero" => divisionByZero
  | "stack is empty" => stackUnderflow
  | "word declaration is empty" => emptyDeclaration
  | "" => noEntries
  -- the digits of the limit come first
  | limit => longNumeral (Nat.ofDigitChars 10 ((limit.toList.filter Char.isDigit).drop 4) 0)

/-- The error whose message quotes a text, by what stands in front of that and what follows it. -/
def ofQuoting? (lead : String) (text : Text) (tail : String) : Option Error :=
  match lead, tail with
  | "unknown word ", "" => some (unknownWord text)
  | "word ", " expands to itself without end" => some (endlessWord text)
  | "word declaration is missing its ", " terminator" => some unterminated
  | "word ", " has no definition" => some (noDefinition text)
  | "word ", " starts with a digit" => some (digitLed text)
  | "invalid word name ", "" => some (invalidName text)
  | "", "" => some (missingKey text)
  | "", " is not a valid Operator" => some (notAnOperator text)
  | _, _ => none

/-- The error that a message tells. -/
def ofMessage? (message : String) : Option Error :=
  match Text.cutQuote message.toList with
  | (lead, none) => some (ofPlain (String.ofList lead))
  | (lead, some (text, tail)) => ofQuoting? (String.ofList lead) text (String.ofList tail)

theorem ofMessage?_plain {message : String} (plain : message.toList.any Text.isMark = false) :
    ofMessage? message = some (ofPlain message) := by
  rw [ofMessage?, Text.cutQuote_plain plain]
  exact congrArg (some <| ofPlain ·) String.ofList_toList

theorem ofMessage?_quoting {message lead tail : String} {text : Text}
    (parts : message = lead ++ Text.quoted text ++ tail)
    (plain : lead.toList.any Text.isMark = false) :
    ofMessage? message = ofQuoting? lead text tail := by
  rw [parts, ofMessage?, String.toList_append, String.toList_append, Text.quoted,
    String.toList_ofList, Text.cutQuote_quoting plain]
  simp only [String.ofList_toList]

/-- The digits of the limit and those of the numeral's length are all digits in the message. -/
theorem filter_isDigit_message (digits : Nat) :
    (longNumeral digits).message.toList.filter Char.isDigit =
      ['4', '3', '0', '0'] ++ Nat.toDigits 10 digits := by
  have own : (Nat.toDigits 10 digits).filter Char.isDigit = Nat.toDigits 10 digits :=
    List.filter_eq_self.2 fun _ member =>
      Nat.isDigit_of_mem_toDigits (by decide) (by decide) member
  unfold message
  rw [String.toList_append, String.toList_append, List.filter_append, List.filter_append,
    Nat.toString_eq_repr, Nat.toList_repr, own]
  exact List.append_nil _

theorem ofPlain_message_longNumeral (digits : Nat) :
    ofPlain (longNumeral digits).message = longNumeral digits := by
  have first : (longNumeral digits).message.toList.head? = some 'E' := by
    unfold message
    rw [String.toList_append, String.toList_append, List.append_assoc]
    rfl
  unfold ofPlain
  split
  case h_5 =>
    rw [filter_isDigit_message]
    exact congrArg longNumeral (Nat.ofDigitChars_toDigits (by decide) (by decide))
  -- no other begins so
  all_goals
    rename_i same
    rw [same] at first
    exact absurd first (by decide)

theorem any_isMark_message (digits : Nat) :
    (longNumeral digits).message.toList.any Text.isMark = false := by
  have own : (Nat.toDigits 10 digits).any Text.isMark = false := by
    refine List.any_eq_false.2 fun c member mark => ?_
    have digit := Nat.isDigit_of_mem_toDigits (by decide) (by decide) member
    simp only [Text.isMark, Bool.or_eq_true, decide_eq_true_eq] at mark
    rcases mark with rfl | rfl <;> cases digit
  unfold message
  rw [String.toList_append, String.toList_append, List.any_append, List.any_append,
    Nat.toString_eq_repr, Nat.toList_repr, own]
  rfl

/-- **An error can be read off its message.** -/
theorem ofMessage?_message (e : Error) : ofMessage? e.message = some e := by
  cases e with
  | divisionByZero | stackUnderflow | emptyDeclaration | noEntries =>
    exact ofMessage?_plain (by decide)
  | unknownWord token | invalidName token =>
    exact ofMessage?_quoting String.append_empty.symm (by decide)
  | endlessWord name | noDefinition name | digitLed name =>
    exact ofMessage?_quoting rfl (by decide)
  | unterminated =>
    have parts : unterminated.message =
        "word declaration is missing its " ++ Text.quoted [';'] ++ " terminator" := by
      decide +kernel
    exact ofMessage?_quoting parts (by decide)
  | longNumeral digits =>
    rw [ofMessage?_plain (any_isMark_message digits), ofPlain_message_longNumeral]
  | missingKey name =>
    have parts : Text.quoted name = "" ++ Text.quoted name ++ "" := by
      rw [String.append_empty, String.empty_append]
    exact ofMessage?_quoting parts (by decide)
  | notAnOperator symbol =>
    exact ofMessage?_quoting (congrArg (· ++ _) String.empty_append.symm) (by decide)

theorem message_injective : Function.Injective message := fun e e' same =>
  Option.some.inj <| by rw [← ofMessage?_message e, same, ofMessage?_message e']

end Error
end WordStack
