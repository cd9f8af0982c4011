import WordStack.Proofs.Cutting
import WordStack.Proofs.Effect

/-! A machine that works on tokens.

The runs of a text that hold no whitespace are its tokens. This machine never sees
a text: it takes one token after another off a list, in the order of phases that a
pass has, and puts the tokens of a word in the word's place. It comes to its end
when no token is left. Nothing watches it, so it can go on for ever. -/
namespace WordStack

namespace Text

/-- The longest runs without whitespace, in order. -/
def tokens (text : Text) : List Text := (text.splitOnP isSpace).filter (· ≠ [])

variable {text rest : Text} {c : Char}

@[simp] theorem tokens_nil : tokens [] = [] := rfl

theorem tokens_append_cons (space : isSpace c = true) :
    tokens (text ++ c :: rest) = tokens text ++ tokens rest := by
  rw [tokens, List.splitOnP_append_cons text rest space, List.filter_append, tokens, tokens]

theorem tokens_cons (space : isSpace c = true) : tokens (c :: text) = tokens text := by
  have parted : tokens ([] ++ c :: text) = tokens [] ++ tokens text := tokens_append_cons space
  simpa using parted

theorem tokens_append (led : isSpaceLed rest = true) :
    tokens (text ++ rest) = tokens text ++ tokens rest := by
  cases rest with
  | nil => cases led
  | cons c rest => rw [tokens_append_cons led, tokens_cons led]

theorem tokens_append_afterToken (before : Text) :
    tokens (before ++ afterToken text) = tokens before ++ tokens (afterToken text) := by
  by_cases afterNil : afterToken text = []
  · rw [afterNil, List.append_nil, tokens_nil, List.append_nil]
  · exact tokens_append (isSpaceLed_afterToken afterNil)

theorem tokens_trimLeft : tokens (trimLeft text) = tokens text := by
  induction text with
  | nil => rfl
  | cons c text ih =>
    by_cases space : isSpace c = true
    · rw [tokens_cons space, ← ih]
      simp [trimLeft, space]
    · simp [trimLeft, space]

/-- The first token, if there is one before any whitespace, and those behind it. -/
theorem tokens_eq (text : Text) :
    tokens text = if token text = [] then tokens (afterToken text)
      else token text :: tokens (afterToken text) := by
  have alone : (token text).splitOnP isSpace = [token text] :=
    List.splitOnP_eq_singleton fun _ member => isSpace_of_mem_token member
  calc tokens text
      = tokens (token text ++ afterToken text) := by rw [token_append_afterToken]
    _ = tokens (token text) ++ tokens (afterToken text) := tokens_append_afterToken _
    _ = _ := by
      rw [tokens, alone]
      by_cases tokenNil : token text = [] <;> simp [tokenNil]

theorem tokens_of_token_ne_nil (nonempty : token text ≠ []) :
    tokens text = token text :: tokens (afterToken text) := by
  rw [tokens_eq, if_neg nonempty]

end Text

/-! ### The machine -/

/-- What the first token is tried as. -/
inductive TokenMachine.Phase where
  | numerals
  | operators
  | word
  | commands
deriving DecidableEq, Repr

structure TokenMachine where
  phase : TokenMachine.Phase
  tokens : List Text
  /-- The stack, top cell first. -/
  cells : List Int
deriving DecidableEq, Repr

namespace TokenMachine

/-- What a run of the machine comes to: the error that ended it, if one did, and the cells. -/
abbrev Outcome := Option Error × List Int

/-- One step, by the first token. Whoever is not its kind hands it on to the next phase; behind
the commands only an unsigned numeral is handed on, to the numerals. -/
def step (words : Dictionary) (token : Text) (rest : List Text) (cells : List Int) :
    Phase → Except (Error × List Int) TokenMachine
  | .numerals => match Numeral.readCell token with
    | .ok (some n) => .ok ⟨.numerals, rest, n :: cells⟩
    | .ok none => .ok ⟨.operators, token :: rest, cells⟩
    | .error e => .error (e, cells)
  | .operators => match token.head?.bind Operator.ofSymbol? with
    | some op => (Effect.operate op cells).map fun cells =>
      ⟨.operators, if token.tail = [] then rest else token.tail :: rest, cells⟩
    | none => .ok ⟨.word, token :: rest, cells⟩
  | .word => match words.get? token with
    | some text => .ok ⟨.commands, text.tokens ++ rest, cells⟩
    | none => .ok ⟨.commands, token :: rest, cells⟩
  | .commands => match Command.ofName? (Text.lower token) with
    | some command => (Effect.obey command cells).map fun cells => ⟨.commands, rest, cells⟩
    | none => match Numeral.readUnsigned (Text.lower token) with
      | .ok (some _) => .ok ⟨.numerals, token :: rest, cells⟩
      | .ok none => .error (.unknownWord (Text.lower token), cells)
      | .error e => .error (e, cells)

/-- Takes steps until no token is left, if that takes no more than the given number. -/
def run (words : Dictionary) : Nat → TokenMachine → Option Outcome
  | _, ⟨_, [], cells⟩ => some (none, cells)
  | 0, ⟨_, _ :: _, _⟩ => none
  | steps + 1, ⟨phase, token :: rest, cells⟩ => match step words token rest cells phase with
    | .ok m => run words steps m
    | .error (e, cells) => some (some e, cells)

/-- The run ends with an outcome, given steps enough. -/
def EndsWith (words : Dictionary) (m : TokenMachine) (outcome : Outcome) : Prop :=
  ∃ steps, run words steps m = some outcome

variable {words : Dictionary} {phase : Phase} {token : Text} {rest : List Text} {cells : List Int}
  {m m' : TokenMachine} {outcome outcome' : Outcome} {e : Error} {left : List Int}

@[simp] theorem run_nil (steps : Nat) : run words steps ⟨phase, [], cells⟩ = some (none, cells) := by
  cases steps <;> rfl

theorem run_of_ok (taken : step words token rest cells phase = .ok m) (more : Nat) :
    run words (more + 1) ⟨phase, token :: rest, cells⟩ = run words more m := by
  simp only [run, taken]

theorem run_of_error (refused : step words token rest cells phase = .error (e, left)) (more : Nat) :
    run words (more + 1) ⟨phase, token :: rest, cells⟩ = some (some e, left) := by
  simp only [run, refused]

theorem run_eq_some_of_le {few many : Nat} (enough : few ≤ many)
    (ended : run words few m = some outcome) : run words many m = some outcome := by
  induction few generalizing many m with
  | zero =>
    obtain ⟨phase, tokens, cells⟩ := m
    cases tokens with
    | nil => simpa using ended
    | cons token rest => simp [run] at ended
  | succ few ih =>
    obtain ⟨phase, tokens, cells⟩ := m
    cases tokens with
    | nil => simpa using ended
    | cons token rest =>
      obtain ⟨many, rfl⟩ : ∃ more, many = more + 1 := ⟨many - 1, by omega⟩
      cases taken : step words token rest cells phase with
      | ok m =>
        rw [run_of_ok taken] at ended ⊢
        exact ih (by omega) ended
      | error failed =>
        rw [run_of_error taken] at ended ⊢
        exact ended

/-- A machine comes to one end only. -/
theorem EndsWith.unique (ends : EndsWith words m outcome) (ends' : EndsWith words m outcome') :
    outcome = outcome' := by
  obtain ⟨steps, ended⟩ := ends
  obtain ⟨steps', ended'⟩ := ends'
  have more := run_eq_some_of_le (Nat.le_add_right steps steps') ended
  have more' := run_eq_some_of_le (Nat.le_add_left steps' steps) ended'
  rw [more] at more'
  exact Option.some.inj more'

end TokenMachine
end WordStack
