import Mathlib.Data.List.Chain
import WordStack.Proofs.Moment
import WordStack.Proofs.NumeralLed
import WordStack.Proofs.TokenMachine

/-! Reckoning in postfix notation.

A text of literals and operators, parted by blanks, is reckoned from left to right
as on a pocket calculator: a literal is pushed, and an operator takes two cells off
and puts one back. The text is not worked off token by token, though. A pass takes
literals first and then operators, and an operator is seen in a single character.
So a literal with a sign that comes up right behind an operator is not whole any
more: its sign is one more operator, and its digits begin the next pass.

`Postfix.parted` cuts the tokens there. What comes of the run is what a calculator
makes of the tokens so cut, and where no literal with a sign stands right behind an
operator, they are the tokens of the text. -/
namespace WordStack

theorem Text.tokens_eq_cons {text : Text} (nonempty : token text ≠ []) :
    tokens text = token text :: tokens (trimLeft (afterToken text)) := by
  rw [tokens_trimLeft, tokens_of_token_ne_nil nonempty]

namespace Postfix

/-! ### The calculator -/

/-- What a token does to the cells: an operator works on them and a literal is pushed. Any other
token is unknown. -/
def effect (token : Text) : Effect :=
  match Operator.ofText token, Numeral.readCell token with
  | .ok op, _ => Effect.operate op
  | .error _, .ok (some n) => Effect.push n
  | .error _, _ => fun cells => .error (.unknownWord token, cells)

/-- What tokens do to the cells, one after another up to the first that fails. -/
def evaluate (tokens : List Text) : Effect := fun cells =>
  tokens.foldlM (fun cells token => effect token cells) cells

/-- A token that is an operator. -/
def isOperator : Text → Bool
  | [c] => (Operator.ofSymbol? c).isSome
  | _ => false

/-- A token that is a literal of some cell. -/
def isLiteral (token : Text) : Bool :=
  match Numeral.readCell token with
  | .ok (some _) => true
  | _ => false

/-- A token with a sign and something behind it. -/
def isSigned : Text → Bool
  | c :: _ :: _ => (Operator.ofSymbol? c).isSome
  | _ => false

/-- Cuts off the sign of each token that stands right behind an operator. Whether the first one
does is given. -/
def parted : Bool → List Text → List Text
  | _, [] => []
  | behind, token :: rest =>
    if behind && isSigned token then token.take 1 :: token.drop 1 :: parted false rest
    else token :: parted (isOperator token) rest

/-- Where no token with a sign stands right behind an operator there is nothing to cut. -/
theorem parted_eq_self {tokens : List Text}
    (apart : tokens.IsChain fun before token => ¬ (isOperator before ∧ isSigned token)) :
    parted false tokens = tokens := by
  suffices whole : ∀ behind : Bool, (∀ token ∈ tokens.head?, ¬ (behind ∧ isSigned token)) →
      parted behind tokens = tokens from whole false (by simp)
  induction tokens with
  | nil => intro _ _; rfl
  | cons token rest ih =>
    intro behind first
    have unsigned : (behind && isSigned token) = false := by simpa using first token rfl
    obtain ⟨next, apart⟩ := List.isChain_cons.1 apart
    rw [parted, unsigned, if_neg Bool.false_ne_true, ih apart (isOperator token) next]

theorem evaluate_cons (token : Text) (tokens : List Text) (cells : List Int) :
    evaluate (token :: tokens) cells = effect token cells >>= evaluate tokens :=
  List.foldlM_cons

variable {token : Text} {op : Operator} {n : Int} {c : Char}

theorem exists_symbol_of_isOperator (operator : isOperator token = true) :
    ∃ op, token = [Operator.symbol op] := by
  unfold isOperator at operator
  split at operator
  · obtain ⟨op, symbol⟩ := Option.isSome_iff_exists.1 operator
    exact ⟨op, by rw [Operator.symbol_of_ofSymbol? symbol]⟩
  · cases operator

theorem exists_of_isLiteral (literal : isLiteral token = true) :
    ∃ n, Numeral.readCell token = .ok (some n) := by
  unfold isLiteral at literal
  split at literal
  · rename_i n read
    exact ⟨n, read⟩
  · cases literal

theorem effect_of_operator (symbol : Operator.ofSymbol? c = some op) :
    effect [c] = Effect.operate op := by
  simp only [effect, Operator.ofText, symbol]

theorem not_isOperator_of_literal (read : Numeral.readCell token = .ok (some n)) :
    isOperator token = false := by
  unfold isOperator
  split
  · rename_i c
    cases symbol : Operator.ofSymbol? c with
    | none => rfl
    | some op =>
      -- a symbol alone has no digits
      rw [← Operator.symbol_of_ofSymbol? symbol] at read
      cases op <;> cases read
  · rfl

theorem not_isOperator_of_digits (only : ∀ c ∈ token, c.isDigit = true) :
    isOperator token = false := by
  unfold isOperator
  split
  · rename_i c
    rw [Operator.ofSymbol?_of_isDigit (only c (List.mem_singleton_self c))]
    rfl
  · rfl

theorem isSigned_of_digits (only : ∀ c ∈ token, c.isDigit = true) :
    isSigned token = false := by
  unfold isSigned
  split
  · rw [Operator.ofSymbol?_of_isDigit (only _ (List.mem_cons_self ..))]
    rfl
  · rfl

theorem exists_ofText_eq_error (other : isOperator token = false) :
    ∃ e, Operator.ofText token = .error e := by
  unfold Operator.ofText
  split
  · rename_i c
    have noSymbol : Operator.ofSymbol? c = none := by simpa [isOperator] using other
    rw [noSymbol]
    exact ⟨_, rfl⟩
  · exact ⟨_, rfl⟩

theorem effect_of_literal (read : Numeral.readCell token = .ok (some n)) :
    effect token = Effect.push n := by
  obtain ⟨e, other⟩ := exists_ofText_eq_error (not_isOperator_of_literal read)
  simp only [effect, other, read]

theorem effect_of_digits (only : ∀ c ∈ token, c.isDigit = true)
    (read : Numeral.readCell token = .ok none) :
    effect token = fun cells => .error (.unknownWord token, cells) := by
  obtain ⟨e, other⟩ := exists_ofText_eq_error (not_isOperator_of_digits only)
  simp only [effect, other, read]

/-! ### Runs that come to an outcome -/

/-- From a moment on the run ends, whatever was noted before. It leaves the words as they are, and
the cells by the outcome. -/
def Yields (words : Dictionary) (phase : Phase) (start source : Text) (cells : List Int)
    (outcome : Except (Error × List Int) (List Int)) : Prop :=
  ∀ log, ∃ last s, (Moment.mk phase start source { cells, words, log }).Leads last ∧
    match outcome with
    | .ok cells => last.EndsIn (.ok () s) ∧ s.toMachine = { cells, words }
    | .error (e, cells) => last.EndsIn (.error e s) ∧ s.toMachine = { cells, words }

section
variable {words : Dictionary} {phase phase' : Phase} {start start' source source' rest missed : Text}
  {cells cells' : List Int} {outcome : Except (Error × List Int) (List Int)} {further : Effect}

theorem Yields.of_leads (yields : Yields words phase' start' source' cells' outcome)
    (leads : ∀ log, ∃ log', (Moment.mk phase start source { cells, words, log }).Leads
      ⟨phase', start', source', { cells := cells', words, log := log' }⟩) :
    Yields words phase start source cells outcome := by
  intro log
  obtain ⟨log', leads⟩ := leads log
  obtain ⟨last, s, leads', ends⟩ := yields log'
  exact ⟨last, s, leads.trans leads', ends⟩

theorem yields_of_literal (found : Numeral.scan source = .ok (.hit n rest))
    (next : Yields words .numerals start rest (n :: cells) outcome) :
    Yields words .numerals start source cells outcome :=
  next.of_leads fun log => ⟨log, .single (.numeral found)⟩

theorem yields_of_no_literal (found : Numeral.scan source = .ok (.miss missed))
    (next : Yields words .operators start source cells outcome) :
    Yields words .numerals start source cells outcome :=
  next.of_leads fun log => ⟨log, .single (.noNumeral found)⟩

/-- What comes of an operator depends on the cells. -/
theorem yields_of_operator (found : Operator.scan source = .ok (.hit op rest))
    (next : ∀ cells, Yields words .operators start rest cells (further cells)) :
    Yields words .operators start source cells (Effect.operate op cells >>= further) := by
  cases done : Effect.operate op cells with
  | ok cells => exact (next cells).of_leads fun log => ⟨log, .single (.operator found done)⟩
  | error failed => exact fun log => ⟨_, _, .refl, .operator found done, rfl⟩

/-- Where there is neither an operator nor a declaration nor a word, commands are looked for. -/
theorem leads_commands {s : State} (operators : Operator.scan source = .ok (.miss rest))
    (declarations : Declaration.scan source = .ok (.miss missed))
    (unknown : s.words.get? (Text.token source) = none) :
    (Moment.mk .operators start source s).Leads ⟨.commands source, start, source, s⟩ :=
  .head (.noOperator operators) (.head (.noDeclaration declarations) (.single (.noWord unknown)))

variable (checked : words.Checked)
include checked

/-- Where nothing is left, the cells stay. -/
theorem yields_nil (left : start ≠ []) : Yields words .operators start [] cells (.ok cells) :=
  fun _ => ⟨_, _, leads_commands rfl rfl checked.get?_nil, .finished left, rfl⟩

variable (led : source.UnsignedLed)
include led

/-- Behind operators, digits are left to the next pass. -/
theorem yields_of_moved (moved : source ≠ start)
    (next : Yields words .numerals source source cells outcome) :
    Yields words .operators start source cells outcome := by
  have commands (log : List Record) : (Moment.mk .operators start source { cells, words, log }).Leads
      ⟨.commands source, start, source, { cells, words, log }⟩ :=
    leads_commands led.operators led.declarations (led.get?_token checked)
  exact next.of_leads fun log => ⟨_, (commands log).tail (.pass led.ne_nil moved led.commands)⟩

/-- At the beginning of a pass digits are pushed, or they are too great for a cell and nothing can
be made of them. -/
theorem yields_of_digits (next : ∀ cells, Yields words .numerals source
      (Text.trimLeft (Text.afterToken source)) cells (further cells)) :
    Yields words .numerals source source cells (effect (Text.token source) cells >>= further) := by
  obtain ⟨m, unsigned⟩ := led.unsigned
  rcases Numeral.readCell_of_readUnsigned led.digits unsigned with ⟨n, read⟩ | read
  · rw [effect_of_literal read]
    exact yields_of_literal (Numeral.scan_eq_hit_iff.2 ⟨read, rfl⟩) (next _)
  · have unknown := led.get?_token checked
    have miss := Numeral.scan_eq_miss_iff.2 ⟨read, rfl⟩
    have stalled (log : List Record) :
        (Moment.mk (.commands source) source source { cells, words, log }).EndsIn
          (.error (.unknownWord (Text.token source))
            ⟨{ cells, words }, .strayNumeral (Text.lower (Text.token source)) :: log⟩) :=
      Pass.blame_of_none unknown ▸ .stalled led.ne_nil led.commands
    rw [effect_of_digits led.digits read]
    exact yields_of_no_literal miss fun log =>
      ⟨_, _, leads_commands led.operators led.declarations unknown, stalled log, rfl⟩

end

/-! ### From token to token -/

/-- A literal has digits only, or a sign and behind it digits that can be read alone. -/
theorem literal_cases (read : Numeral.readCell token = .ok (some n)) :
    (∀ c ∈ token, c.isDigit = true) ∨ ∃ op digits m, token = Operator.symbol op :: digits ∧
      (∀ c ∈ digits, c.isDigit = true) ∧ Numeral.readUnsigned digits = .ok (some m) := by
  obtain ⟨m, read, value, range⟩ := Numeral.readCell_eq_ok_iff.1 read
  rcases Numeral.splitSign_cases token with whole | ⟨op, digits, sign, rfl, cut, unit⟩
  · rw [whole] at read
    exact .inl (Numeral.magnitude_eq_ok_iff.1 read).2.1
  · rw [cut] at read value
    have only := (Numeral.magnitude_eq_ok_iff.1 read).2.1
    have small : m ≤ Numeral.unsignedGreatest := by
      simp only [Cell.IsCell, Cell.least, Cell.greatest] at range
      simp only [Numeral.unsignedGreatest]
      simp only at value
      rcases unit with rfl | rfl <;> omega
    refine .inr ⟨op, digits, m, rfl, only, Numeral.readUnsigned_eq_ok_iff.2 ⟨?_, small⟩⟩
    rwa [(Numeral.unsigned_of_isDigit only).2]

theorem evaluate_parted {behind : Bool} {tokens : List Text}
    (whole : (behind && isSigned token) = false) (cells : List Int) :
    evaluate (parted behind (token :: tokens)) cells =
      effect token cells >>= evaluate (parted (isOperator token) tokens) := by
  rw [parted, whole, if_neg Bool.false_ne_true, evaluate_cons]

/-- A run reckons with the tokens of the text, when it comes to the text with numerals or behind
operators. The pass began with a text that was not shorter. -/
structure Reckons (words : Dictionary) (source : Text) : Prop where
  numerals : ∀ {start} cells, start ≠ [] → source.length ≤ start.length →
    Yields words .numerals start source cells (evaluate (parted false source.tokens) cells)
  operators : ∀ {start} cells, source.length < start.length →
    Yields words .operators start source cells (evaluate (parted true source.tokens) cells)

section
variable {words : Dictionary} {source : Text} (checked : words.Checked)
include checked

theorem reckons_nil : Reckons words [] where
  numerals _ left _ := yields_of_no_literal rfl (yields_nil checked left)
  operators _ longer := yields_nil checked (List.length_pos_iff.1 longer)

variable (behind : Reckons words (Text.trimLeft (Text.afterToken source)))
include behind

omit checked in
theorem reckons_of_operator (first : Text.token source = [op.symbol]) : Reckons words source := by
  have nonempty : Text.token source ≠ [] := first ▸ List.cons_ne_nil _ _
  have whole : source = op.symbol :: Text.afterToken source := by
    rw [← List.singleton_append, ← first, Text.token_append_afterToken]
  have symbol := Operator.ofSymbol?_symbol op
  have isOperator : isOperator [op.symbol] = true := by simp [isOperator, symbol]
  have found : Operator.scan source = .ok (.hit op (Text.trimLeft (Text.afterToken source))) :=
    Operator.scan_eq_hit_iff.2 ⟨_, _, whole, symbol, rfl⟩
  have shorter := Operator.scan_consumes found
  have tokens : source.tokens = [op.symbol] :: (Text.trimLeft (Text.afterToken source)).tokens :=
    first ▸ Text.tokens_eq_cons nonempty
  have worked {start : Text} (cells : List Int) (long : source.length ≤ start.length) :
      Yields words .operators start source cells
        (effect [op.symbol] cells >>=
          evaluate (parted true (Text.trimLeft (Text.afterToken source)).tokens)) := by
    rw [effect_of_operator symbol]
    exact yields_of_operator found fun cells => behind.operators cells (by omega)
  have evaluated (before : Bool) (cells : List Int) :
      evaluate (parted before source.tokens) cells = effect [op.symbol] cells >>=
        evaluate (parted true (Text.trimLeft (Text.afterToken source)).tokens) := by
    rw [tokens, evaluate_parted (by simp [isSigned]), isOperator]
  have noCell : Numeral.readCell (Text.token source) = .ok none := by
    rw [first]
    cases op <;> rfl
  have miss := Numeral.scan_eq_miss_iff.2 ⟨noCell, rfl⟩
  refine ⟨fun cells _ long => ?_, fun cells longer => ?_⟩
  · rw [evaluated]
    exact yields_of_no_literal miss (worked cells long)
  · rw [evaluated]
    exact worked cells longer.le

/-- Behind an operator, a sign is an operator as well, and the digits behind it begin a pass. -/
theorem yields_of_signed {start digits : Text} {m : Nat}
    (first : Text.token source = op.symbol :: digits) (only : ∀ c ∈ digits, c.isDigit = true)
    (unsigned : Numeral.readUnsigned digits = .ok (some m)) (cells : List Int)
    (long : source.length ≤ start.length) :
    Yields words .operators start source cells
      (evaluate ([op.symbol] :: digits ::
        parted false (Text.trimLeft (Text.afterToken source)).tokens) cells) := by
  have led := Text.unsignedLed_append only unsigned source
  have found := Operator.scan_of_signed only unsigned first
  obtain ⟨token, after⟩ :=
    Text.cut_afterToken (fun c member => Text.isSpace_of_isDigit (only c member)) source
  have shorter := Operator.scan_consumes found
  rw [evaluate_cons, effect_of_operator (Operator.ofSymbol?_symbol op)]
  refine yields_of_operator found fun cells => ?_
  refine yields_of_moved checked led (ne_of_apply_ne List.length (by omega)) ?_
  have reckoned : Yields words .numerals (digits ++ Text.afterToken source)
      (digits ++ Text.afterToken source) cells
        (effect (Text.token (digits ++ Text.afterToken source)) cells >>=
          evaluate (parted false (Text.trimLeft (Text.afterToken source)).tokens)) := by
    refine yields_of_digits checked led fun cells => ?_
    rw [after]
    have shorter := (Text.trimLeft_suffix (Text.afterToken source)).trans
      (List.suffix_append digits _)
    exact behind.numerals cells led.ne_nil shorter.length_le
  rwa [token] at reckoned

theorem reckons_of_literal (read : Numeral.readCell (Text.token source) = .ok (some n)) :
    Reckons words source := by
  have nonempty := Numeral.ne_nil_of_readCell read
  have tokens := Text.tokens_eq_cons nonempty
  have other := not_isOperator_of_literal read
  have found := Numeral.scan_eq_hit_iff.2 ⟨read, rfl⟩
  have shorter := Numeral.scan_consumes found
  refine ⟨fun cells left long => ?_, fun cells longer => ?_⟩
  · rw [tokens, evaluate_parted rfl, other, effect_of_literal read]
    exact yields_of_literal found (behind.numerals (n :: cells) left (by omega))
  rcases literal_cases read with only | ⟨op, digits, m, first, only, unsigned⟩
  · have led : source.UnsignedLed := (Text.NumeralLed.mk only ⟨n, read⟩).unsigned
    rw [tokens, evaluate_parted (by rw [isSigned_of_digits only, Bool.and_false]), other]
    refine yields_of_moved checked led (ne_of_apply_ne List.length longer.ne) ?_
    exact yields_of_digits checked led fun cells => behind.numerals cells led.ne_nil shorter.le
  · have signed : isSigned (Text.token source) = true := by
      rw [first]
      cases digits with
      | nil => cases unsigned
      | cons d digits => simp only [isSigned, Operator.ofSymbol?_symbol, Option.isSome_some]
    have cut : parted true source.tokens = [op.symbol] :: digits ::
        parted false (Text.trimLeft (Text.afterToken source)).tokens := by
      rw [tokens, parted, signed, first]
      rfl
    rw [cut]
    exact yields_of_signed checked behind first only unsigned cells longer.le

end

/-- Literals and operators are reckoned with, one token after another. -/
theorem reckons {words : Dictionary} (checked : words.Checked) {tokens : List Text} {source : Text}
    (found : source.tokens = tokens) (led : Text.isSpaceLed source = false)
    (fit : ∀ token ∈ tokens, isOperator token = true ∨ isLiteral token = true) :
    Reckons words source := by
  induction tokens generalizing source with
  | nil =>
    have sourceNil : source = [] := by
      by_contra nonempty
      rw [Text.tokens_of_token_ne_nil (Text.token_ne_nil nonempty led)] at found
      cases found
    exact sourceNil ▸ reckons_nil checked
  | cons token tokens ih =>
    have left : source ≠ [] := by
      rintro rfl
      cases found
    have nonempty := Text.token_ne_nil left led
    obtain ⟨rfl, rest⟩ := List.cons.inj ((Text.tokens_eq_cons nonempty).symm.trans found)
    obtain ⟨first, fit⟩ := List.forall_mem_cons.1 fit
    have behind := ih rest (Text.isSpaceLed_trimLeft _) fit
    rcases first with operator | literal
    · obtain ⟨op, alone⟩ := exists_symbol_of_isOperator operator
      exact reckons_of_operator behind alone
    · obtain ⟨n, read⟩ := exists_of_isLiteral literal
      exact reckons_of_literal checked behind read

end Postfix

namespace Machine

/-- The run of a text ends, and leaves the cells by an outcome and the words as they are. -/
def Yields (machine : Machine) (text : Text) :
    Except (Error × List Int) (List Int) → Prop
  | .ok cells => machine.Completes text { machine with cells }
  | .error (e, cells) => machine.Fails text e { machine with cells }

theorem yields_of_yields {machine : Machine} {text : Text} (left : text ≠ [])
    {outcome : Except (Error × List Int) (List Int)}
    (yields : Postfix.Yields machine.words .numerals text.withPlainSpaces text.withPlainSpaces
      machine.cells outcome) : machine.Yields text outcome := by
  obtain ⟨last, s, leads, ends⟩ := yields []
  cases outcome with
  | ok cells =>
    obtain ⟨ends, after⟩ := ends
    exact completes_iff.2 ⟨s, after, (comesTo_iff_endsIn left).2 ⟨last, ⟨left, leads⟩, ends⟩⟩
  | error failed =>
    obtain ⟨ends, after⟩ := ends
    exact fails_iff_endsIn.2 ⟨last, s, ⟨left, leads⟩, ends, after⟩

/-- **Literals and operators are reckoned in postfix notation**, from left to right, except that
a sign right behind an operator is an operator as well. Where no literal with a sign stands there,
every literal is pushed. The text begins with no blank. -/
theorem yields_evaluate_parted {machine : Machine} (obtained : machine.words.Obtained) {text : Text}
    (led : text.head?.any Text.isBlank = false)
    (fit : ∀ token ∈ text.withPlainSpaces.tokens,
      Postfix.isOperator token = true ∨ Postfix.isLiteral token = true) :
    machine.Yields text
      (Postfix.evaluate (Postfix.parted false text.withPlainSpaces.tokens) machine.cells) ∧
    (text.withPlainSpaces.tokens.IsChain
        (fun before token => ¬ (Postfix.isOperator before ∧ Postfix.isSigned token)) →
      machine.Yields text (Postfix.evaluate text.withPlainSpaces.tokens machine.cells)) := by
  have cut : machine.Yields text
      (Postfix.evaluate (Postfix.parted false text.withPlainSpaces.tokens) machine.cells) := by
    by_cases left : text = []
    · subst left
      exact ⟨_, ends_nil_iff.2 rfl, rfl, rfl⟩
    · have reckons := Postfix.reckons obtained.checked rfl (Text.isSpaceLed_withPlainSpaces led) fit
      have nonempty := mt Text.withPlainSpaces_eq_nil_iff.1 left
      exact yields_of_yields left (reckons.numerals _ nonempty le_rfl)
  refine ⟨cut, fun apart => ?_⟩
  rwa [Postfix.parted_eq_self apart] at cut

/-- The first minus sign stands behind a literal, and the second one right behind an operator. -/
theorem yields_evaluate_parted_cut :
    let words : Dictionary := ⟨[⟨"-4".toList, "drop".toList⟩]⟩
    Machine.Completes { cells := [9], words } "10 -3 +\t2 * -4 +".toList { cells := [-1], words } ∧
      Machine.Fails { words } "-7 0 /".toList .divisionByZero { cells := [0, -7], words } := by
  intro words
  have obtained : words.Obtained := ⟨words.entries, words, _, by decide +kernel, .none, rfl⟩
  have cut := @yields_evaluate_parted { cells := [9], words } obtained "10 -3 +\t2 * -4 +".toList
    (by decide) (by decide +kernel)
  have apart := @yields_evaluate_parted { words } obtained "-7 0 /".toList (by decide) (by decide +kernel)
  have first : Postfix.evaluate
      (Postfix.parted false (Text.withPlainSpaces "10 -3 +\t2 * -4 +".toList).tokens) [9] =
        .ok [-1] := by
    decide +kernel
  have second : Postfix.evaluate (Text.withPlainSpaces "-7 0 /".toList).tokens [] =
      .error (.divisionByZero, [0, -7]) := by
    decide +kernel
  rw [first] at cut
  rw [second] at apart
  exact ⟨cut.1, apart.2 (by decide +kernel)⟩

/-- Where a literal with a sign stands right behind an operator, it is not pushed. -/
theorem not_yields_evaluate : ¬ ∀ {machine : Machine} {text : Text}, machine.words.Obtained →
    text.head?.any Text.isBlank = false →
    (∀ token ∈ text.withPlainSpaces.tokens,
      Postfix.isOperator token = true ∨ Postfix.isLiteral token = true) →
    machine.Yields text (Postfix.evaluate text.withPlainSpaces.tokens machine.cells) := by
  intro pushed
  have obtained : Dictionary.Obtained {} := ⟨[], {}, _, rfl, .none, rfl⟩
  have completes := @pushed {} "1 2 + -5".toList obtained (by decide) (by decide +kernel)
  have outcome : Postfix.evaluate (Text.withPlainSpaces "1 2 + -5".toList).tokens [] =
      .ok [-5, 3] := by
    decide +kernel
  rw [outcome] at completes
  obtain ⟨report, ends, fine, -⟩ := completes
  have underflow : (eval? 3 {} "1 2 + -5".toList).map (·.error?) = some (some .stackUnderflow) := by
    decide +kernel
  obtain ⟨_, run, failed⟩ := Option.map_eq_some_iff.1 underflow
  rw [ends.unique ⟨3, run⟩, failed] at fine
  cases fine

end Machine
end WordStack
