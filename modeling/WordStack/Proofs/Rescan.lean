import WordStack.Proofs.Checked
import WordStack.Proofs.TokenMachine
import WordStack.Proofs.Watch

/-! Passes over a text, and the machine that works on its tokens.

Where nothing is declared, cutting a text again and again comes to the same as
working on its tokens. Each item that a stage takes is one step of the token
machine, and so is each time a stage finds none; a stage, a pass and a run are
then a number of steps each. A pass over a text with something left is at least
one step, so the machine does not come to an end before the run does. -/
namespace WordStack

/-! ### Texts that only use words -/

/-- A text that declares nothing and begins with no whitespace. -/
structure Text.Tidy (text : Text) : Prop where
  colonless : ':' ∉ text
  led : isSpaceLed text = false

/-- Every word stands for a text that declares nothing and begins with no whitespace. -/
def Dictionary.Tidy (d : Dictionary) : Prop := ∀ entry ∈ d.entries, entry.text.Tidy

namespace Text.Tidy
variable {text behind : Text}

theorem token_ne_nil (tidy : Tidy text) (left : text ≠ []) : token text ≠ [] :=
  Text.token_ne_nil left tidy.led

theorem not_mem_afterToken (tidy : Tidy text) : ':' ∉ afterToken text := fun member =>
  tidy.colonless ((List.dropWhile_sublist _).mem member)

theorem trimLeft (colonless : ':' ∉ text) : Tidy (Text.trimLeft text) :=
  ⟨fun member => colonless ((List.dropWhile_sublist _).mem member), isSpaceLed_trimLeft _⟩

theorem append (tidy : Tidy text) (nonempty : text ≠ []) (colonless : ':' ∉ behind) :
    Tidy (text ++ behind) := by
  refine ⟨fun member => ?_, ?_⟩
  · rcases List.mem_append.1 member with here | there
    · exact tidy.colonless here
    · exact colonless there
  · rw [isSpaceLed_append nonempty]
    exact tidy.led

theorem declarations (tidy : Tidy text) (s : State) :
    Stage.declarations.run text s = .ok text s := by
  have missed : Declaration.scan text = .ok (.miss []) := by
    cases text with
    | nil => rfl
    | cons c text =>
      refine Declaration.scan_of_ne ?_
      rintro rfl
      exact tidy.colonless (List.mem_cons_self ..)
  exact Stage.run_eq_ok_of_miss missed rfl

end Text.Tidy

/-! ### Steps for actions -/

namespace TokenMachine

/-- What the machine makes of `m` is what an action on a text has come to: some steps lead to the
tokens of what is left, at the given phase, or to the same error. The dictionary stays. -/
inductive Mirrors (words : Dictionary) (m : TokenMachine) (phase : Phase) :
    EStateM.Result Error State Text → Prop where
  | ok {rest : Text} {s : State} (steps : Nat) : rest.Tidy → s.words = words → (m.tokens ≠ [] → 0 < steps) →
      (∀ more, run words (more + steps) m = run words more ⟨phase, rest.tokens, s.cells⟩) →
      Mirrors words m phase (.ok rest s)
  | error {e : Error} {s : State} (steps : Nat) : s.words = words →
      (∀ more, run words (more + steps) m = some (some e, s.cells)) →
      Mirrors words m phase (.error e s)

/-- The machine does with tokens, from one phase to another, what an action does with texts. -/
def Simulates (words : Dictionary) (first last : Phase) (a : Text → Action Text) : Prop :=
  ∀ source s, source.Tidy → s.words = words →
    Mirrors words ⟨first, source.tokens, s.cells⟩ last (a source s)

variable {words : Dictionary} {first middle last phase : Phase} {a b : Text → Action Text}
  {m m' : TokenMachine}

theorem Mirrors.after {result : EStateM.Result Error State Text} {steps : Nat}
    (leads : ∀ more, run words (more + steps) m = run words more m')
    (moves : m.tokens ≠ [] → 0 < steps) (mirrors : Mirrors words m' phase result) :
    Mirrors words m phase result := by
  cases mirrors with
  | ok steps' tidy kept _ ran =>
    refine .ok (steps' + steps) tidy kept (fun left => ?_) fun more => ?_
    · have positive := moves left
      omega
    · rw [← Nat.add_assoc, leads, ran]
  | error steps' kept ran =>
    refine .error (steps' + steps) kept fun more => ?_
    rw [← Nat.add_assoc, leads, ran]

theorem Simulates.bind (front : Simulates words first middle a)
    (back : Simulates words middle last b) : Simulates words first last fun x => a x >>= b := by
  intro source s tidy kept
  have mirrors := front source s tidy kept
  show Mirrors words _ last ((a source >>= b) s)
  cases made : a source s with
  | ok rest t =>
    rw [made] at mirrors
    rw [Action.bind_of_ok made]
    cases mirrors with
    | ok _ tidy kept some leads => exact (back rest t tidy kept).after leads some
  | error e t =>
    rw [made] at mirrors
    rw [Action.bind_of_error made]
    cases mirrors with
    | error steps kept ran => exact .error steps kept ran

/-! ### Stages -/

/-- The step that goes with what a recogniser finds in a text with something left: the item's effect
on the cells, the next phase where there is no item, or the recogniser's error. -/
inductive StepsAs {α : Type} (words : Dictionary) (first last : Phase) (effect : α → Effect)
    (source : Text) (cells : List Int) : Except Error (Scan α) → Prop where
  | hit {value} {rest : Text} : rest.Tidy →
      step words (Text.token source) (Text.afterToken source).tokens cells first =
        (effect value cells).map (⟨first, rest.tokens, ·⟩) →
      StepsAs words first last effect source cells (.ok (.hit value rest))
  | miss {rest} :
      step words (Text.token source) (Text.afterToken source).tokens cells first =
        .ok ⟨last, Text.token source :: (Text.afterToken source).tokens, cells⟩ →
      StepsAs words first last effect source cells (.ok (.miss rest))
  | error {e} :
      step words (Text.token source) (Text.afterToken source).tokens cells first =
        .error (e, cells) →
      StepsAs words first last effect source cells (.error e)

variable {cells : List Int} {source : Text}

/-- A stage is simulated if each of its items is: as many steps as it takes items, and one more
where something is left. -/
theorem simulates_run {α : Type} {stage : Stage α} {effect : α → Effect}
    (acts : ∀ value, stage.act value = (effect value).act)
    (stops : ∀ source s, ∃ t, stage.stop source s = .ok () t ∧ t.toMachine = s.toMachine)
    (ended : stage.scan [] = .ok (.miss []))
    (steps : ∀ {source : Text} cells, source.Tidy → source ≠ [] →
      StepsAs words first last effect source cells (stage.scan source)) :
    Simulates words first last stage.run := by
  intro source s tidy kept
  induction source using Stage.run.induct stage generalizing s with
  | case1 source e found =>
    have left : source ≠ [] := by
      rintro rfl
      simp [ended] at found
    have stepped := steps s.cells tidy left
    rw [found] at stepped
    rw [Stage.run_of_error found, Text.tokens_of_token_ne_nil (tidy.token_ne_nil left)]
    cases stepped with
    | error refused => exact .error 1 kept (run_of_error refused)
  | case2 source missed found =>
    obtain ⟨t, stopped, same⟩ := stops source s
    have kept' : t.words = words := by rw [same, kept]
    have cells : t.cells = s.cells := by rw [same]
    rw [Stage.run_eq_ok_of_miss found stopped]
    by_cases left : source = []
    · subst left
      exact .ok 0 tidy kept' (fun nonempty => absurd rfl nonempty) fun more => by
        rw [Text.tokens_nil, run_nil, run_nil, cells]
    · have stepped := steps s.cells tidy left
      rw [found] at stepped
      cases stepped with
      | miss taken =>
        refine .ok 1 tidy kept' (fun _ => Nat.one_pos) fun more => ?_
        rw [Text.tokens_of_token_ne_nil (tidy.token_ne_nil left), run_of_ok taken, cells]
  | case3 source value rest found ih =>
    have left : source ≠ [] := by
      rintro rfl
      simp [ended] at found
    have stepped := steps s.cells tidy left
    rw [found] at stepped
    rw [Stage.run_of_hit found, acts, Text.tokens_of_token_ne_nil (tidy.token_ne_nil left)]
    cases stepped with
    | hit tidy' taken =>
      cases acted : effect value s.cells with
      | error failed =>
        rw [acted] at taken
        have failed' : (effect value).act s = .error failed.1 { s with cells := failed.2 } := by
          simp only [Effect.act, acted]
        rw [Action.bind_of_error failed']
        exact .error 1 kept (run_of_error taken)
      | ok cells =>
        rw [acted] at taken
        have done : (effect value).act s = .ok () { s with cells } := by
          simp only [Effect.act, acted]
        rw [Action.bind_of_ok done]
        exact (ih { s with cells } tidy' kept).after (run_of_ok taken) fun _ => Nat.one_pos

theorem stepsAs_numerals (tidy : source.Tidy) :
    StepsAs words .numerals .operators Effect.push source cells (Numeral.scan source) := by
  unfold Numeral.scan
  cases read : Numeral.readCell (Text.token source) with
  | error e => exact .error (by simp only [step, read])
  | ok n? =>
    cases n? with
    | none => exact .miss (by simp only [step, read])
    | some n =>
      refine .hit (.trimLeft tidy.not_mem_afterToken) ?_
      simp only [step, read, Text.tokens_trimLeft]
      rfl

theorem stepsAs_operators (tidy : source.Tidy) (left : source ≠ []) :
    StepsAs words .operators .word Effect.operate source cells (Operator.scan source) := by
  cases source with
  | nil => exact absurd rfl left
  | cons c rest =>
    have letter : Text.isSpace c = false := tidy.led
    have token : Text.token (c :: rest) = c :: Text.token rest := Text.token_cons letter
    have after : Text.afterToken (c :: rest) = Text.afterToken rest := Text.afterToken_cons letter
    rw [Operator.scan]
    cases known : Operator.ofSymbol? c with
    | none => exact .miss (by simp only [step, token, List.head?_cons, Option.bind_some, known])
    | some op =>
      refine .hit (.trimLeft fun member => tidy.colonless (List.mem_cons_of_mem c member)) ?_
      simp only [step, token, after, List.head?_cons, Option.bind_some, known, List.tail_cons,
        Text.tokens_trimLeft, Text.tokens_eq rest]

theorem stepsAs_commands (tidy : source.Tidy) (left : source ≠ []) :
    StepsAs words .commands .numerals Effect.obey source cells (Command.scan source) := by
  rw [Command.scan, if_neg left, Command.read]
  cases named : Command.ofName? (Text.lower (Text.token source)) with
  | some command =>
    refine .hit (.trimLeft tidy.not_mem_afterToken) ?_
    simp only [step, named, Text.tokens_trimLeft]
  | none =>
    cases read : Numeral.readUnsigned (Text.lower (Text.token source)) with
    | error e => exact .error (by simp only [step, named, read])
    | ok n? =>
      cases n? with
      | none => exact .error (by simp only [step, named, read])
      | some n => exact .miss (by simp only [step, named, read])

theorem simulates_numerals : Simulates words .numerals .operators Stage.numerals.run :=
  simulates_run Action.push_eq (fun _ s => ⟨s, rfl, rfl⟩) rfl fun _ tidy _ => stepsAs_numerals tidy

theorem simulates_operators : Simulates words .operators .word Stage.operators.run :=
  simulates_run Action.operate_eq (fun _ s => ⟨s, rfl, rfl⟩) rfl fun _ tidy left =>
    stepsAs_operators tidy left

theorem simulates_commands : Simulates words .commands .numerals Stage.commands.run := by
  refine simulates_run Action.obey_eq (fun source s => ?_) rfl fun _ tidy left =>
    stepsAs_commands tidy left
  simp only [Stage.commands]
  split
  · exact ⟨s, rfl, rfl⟩
  · exact ⟨_, rfl, rfl⟩

/-- Where nothing is declared, the declarations take no step. -/
theorem Simulates.declarations (front : Simulates words first last a) :
    Simulates words first last fun x => a x >>= Stage.declarations.run := by
  intro source s tidy kept
  have mirrors := front source s tidy kept
  show Mirrors words _ last ((a source >>= Stage.declarations.run) s)
  cases made : a source s with
  | ok rest t =>
    rw [made] at mirrors
    rw [Action.bind_of_ok made]
    cases mirrors with
    | ok steps tidy kept some leads =>
      rw [tidy.declarations]
      exact .ok steps tidy kept some leads
  | error e t =>
    rw [made] at mirrors
    rw [Action.bind_of_error made]
    exact mirrors

section
variable (checked : words.Checked) (tidy : words.Tidy)
include checked tidy

theorem simulates_expand : Simulates words .word .commands Action.expand := by
  rintro source s tidy' rfl
  by_cases left : source = []
  · subst left
    rw [Action.expand_of_none checked.get?_nil]
    exact .ok 0 tidy' rfl (fun nonempty => absurd rfl nonempty) fun more => by
      rw [Text.tokens_nil, run_nil, run_nil]
  · rw [Text.tokens_of_token_ne_nil (tidy'.token_ne_nil left)]
    cases known : s.words.get? (Text.token source) with
    | none =>
      rw [Action.expand_of_none known]
      refine .ok 1 tidy' rfl (fun _ => Nat.one_pos) (run_of_ok ?_)
      simp only [step, known, Text.tokens_of_token_ne_nil (tidy'.token_ne_nil left)]
    | some text =>
      rw [Action.expand_of_some known]
      obtain ⟨entry, member, -, rfl⟩ := Dictionary.exists_entry_of_get? known
      have nonempty : entry.text ++ [] ≠ [] := checked.append_ne_nil known
      rw [List.append_nil] at nonempty
      refine .ok 1 ((tidy entry member).append nonempty tidy'.not_mem_afterToken) rfl
        (fun _ => Nat.one_pos) (run_of_ok ?_)
      simp only [step, known, Text.tokens_append_afterToken]

/-- A pass over a text takes the machine once round its phases. -/
theorem simulates_plain : Simulates words .numerals .numerals Pass.plain := by
  have whole := (simulates_numerals.bind simulates_operators).declarations.bind
    ((simulates_expand checked tidy).bind simulates_commands)
  have plain : Pass.plain = fun source => ((Stage.numerals.run source >>= Stage.operators.run) >>=
      Stage.declarations.run) >>= fun source => Action.expand source >>= Stage.commands.run := by
    funext source
    simp only [Pass.plain, Pass.front, Pass.back, bind_assoc]
  rw [plain]
  exact whole

end

/-! ### Runs -/

/-- A result, by the error in it, if there is one, and the state. -/
def ended : Option Error → State → EStateM.Result Error State Unit
  | none, s => .ok () s
  | some e, s => .error e s

variable {s t : State} {error? : Option Error} {e : Error}

theorem exists_eq_ended (result : EStateM.Result Error State Unit) :
    ∃ error? s, result = ended error? s := by
  cases result with
  | ok _ s => exact ⟨none, s, rfl⟩
  | error e s => exact ⟨some e, s, rfl⟩

theorem ok_eq_ended_iff : .ok () s = ended error? t ↔ error? = none ∧ s = t := by
  cases error? <;> simp [ended]

theorem error_eq_ended_iff : .error e s = ended error? t ↔ error? = some e ∧ s = t := by
  cases error? <;> simp [ended, eq_comm]

section
variable (checked : words.Checked) (tidy : words.Tidy) (clear : source.Tidy) (kept : s.words = words)
include checked tidy clear kept

/-- Where a run comes to an end, the machine comes to the same, and the dictionary has stayed. -/
theorem endsWith_of_comesTo (comes : Pass.ComesTo Pass.plain source s (ended error? t)) :
    EndsWith words ⟨.numerals, source.tokens, s.cells⟩ (error?, t.cells) ∧ t.words = words := by
  obtain ⟨passes, run⟩ := comes
  induction passes generalizing source s with
  | zero =>
    cases source with
    | nil =>
      obtain ⟨rfl, rfl⟩ := ok_eq_ended_iff.1 (Option.some.inj run)
      exact ⟨⟨0, rfl⟩, kept⟩
    | cons c source => cases run
  | succ passes ih =>
    by_cases finished : source = []
    · subst finished
      obtain ⟨rfl, rfl⟩ := ok_eq_ended_iff.1 (Option.some.inj run)
      exact ⟨⟨0, rfl⟩, kept⟩
    · have mirrors := simulates_plain checked tidy source s clear kept
      rw [Pass.repeated_succ finished] at run
      cases made : Pass.plain source s with
      | ok rest u =>
        rw [made] at mirrors run
        cases mirrors with
        | ok steps clear kept _ leads =>
          obtain ⟨⟨more, run⟩, kept⟩ := ih clear kept run
          exact ⟨⟨more + steps, by rw [leads, run]⟩, kept⟩
      | error e u =>
        rw [made] at mirrors run
        obtain ⟨rfl, rfl⟩ := error_eq_ended_iff.1 (Option.some.inj run)
        cases mirrors with
        | error steps kept ran => exact ⟨⟨0 + steps, ran 0⟩, kept⟩

/-- Where the machine comes to an end, so does the run. -/
theorem exists_comesTo_of_endsWith {outcome : Outcome}
    (ends : EndsWith words ⟨.numerals, source.tokens, s.cells⟩ outcome) :
    ∃ result, Pass.ComesTo Pass.plain source s result := by
  obtain ⟨steps, run⟩ := ends
  induction steps generalizing source s with
  | zero =>
    by_cases finished : source = []
    · exact ⟨.ok () s, finished ▸ Pass.comesTo_nil.2 rfl⟩
    · rw [Text.tokens_of_token_ne_nil (clear.token_ne_nil finished)] at run
      cases run
  | succ steps ih =>
    by_cases finished : source = []
    · exact ⟨.ok () s, finished ▸ Pass.comesTo_nil.2 rfl⟩
    · have mirrors := simulates_plain checked tidy source s clear kept
      cases made : Pass.plain source s with
      | error e t => exact ⟨.error e t, (Pass.comesTo_of_error finished made).2 rfl⟩
      | ok rest t =>
        rw [made] at mirrors
        cases mirrors with
        | ok taken clear' kept positive leads =>
          -- a pass is one step at least, so what is left to do is less
          have nonempty : source.tokens ≠ [] := by
            rw [Text.tokens_of_token_ne_nil (clear.token_ne_nil finished)]
            exact List.cons_ne_nil _ _
          have fewer := positive nonempty
          have run' := run_eq_some_of_le (show steps + 1 ≤ steps + taken by omega) run
          rw [leads] at run'
          obtain ⟨result, comes⟩ := ih clear' kept run'
          exact ⟨result, (Pass.comesTo_of_ok finished made).2 comes⟩

/-- The machine comes to an end if and only if the unwatched run does, and to the same. -/
theorem endsWith_iff {cells : List Int} :
    EndsWith words ⟨.numerals, source.tokens, s.cells⟩ (error?, cells) ↔
      ∃ log, Pass.ComesTo Pass.plain source s (ended error? ⟨⟨cells, words⟩, log⟩) := by
  constructor
  · intro ends
    obtain ⟨result, comes⟩ := exists_comesTo_of_endsWith checked tidy clear kept ends
    obtain ⟨error?, ⟨⟨cells, words⟩, log⟩, rfl⟩ := exists_eq_ended result
    obtain ⟨ends', rfl⟩ := endsWith_of_comesTo checked tidy clear kept comes
    obtain ⟨rfl, rfl⟩ := Prod.mk.inj (ends'.unique ends)
    exact ⟨log, comes⟩
  · intro ended
    obtain ⟨log, comes⟩ := ended
    exact (endsWith_of_comesTo checked tidy clear kept comes).1

end

end TokenMachine

/-! ### Programs that declare nothing -/

/-- A text without a colon that does not begin with a blank is read as a tidy one. -/
theorem Text.tidy_withPlainSpaces {text : Text} (colonless : ':' ∉ text)
    (led : text.head?.any isBlank = false) : text.withPlainSpaces.Tidy :=
  ⟨not_mem_withPlainSpaces (by decide) colonless, isSpaceLed_withPlainSpaces led⟩

namespace Machine
open TokenMachine (EndsWith)

/-- The token machine that begins with the tokens of a text and the cells of a machine. -/
def tokenMachine (machine : Machine) (text : Text) : TokenMachine :=
  ⟨.numerals, text.withPlainSpaces.tokens, machine.cells⟩

/-- The token machine comes to an end, error or not, if and only if the unwatched run does, and
leaves the same cells. -/
theorem comesTo_iff_endsWith {machine after : Machine} {text : Text} (error? : Option Error)
    (checked : machine.words.Checked) (tidy : machine.words.Tidy)
    (clear : text.withPlainSpaces.Tidy) :
    (∃ s, s.toMachine = after ∧ Pass.ComesTo Pass.plain text.withPlainSpaces
        { toMachine := machine } (TokenMachine.ended error? s)) ↔
      after.words = machine.words ∧
        EndsWith machine.words (machine.tokenMachine text) (error?, after.cells) := by
  constructor
  · rintro ⟨s, rfl, comes⟩
    exact (TokenMachine.endsWith_of_comesTo checked tidy clear rfl comes).symm
  · intro kept
    obtain ⟨same, ends⟩ := kept
    obtain ⟨log, comes⟩ := (TokenMachine.endsWith_iff (s := { toMachine := machine })
      checked tidy clear rfl).1 ends
    exact ⟨_, by rw [← same], comes⟩

/-- **Cutting a text again and again refines working on its tokens**, where neither the text nor a
word declares anything. A run comes to its end if and only if the token machine does, with the same
cells. It fails with an error, short of a pass that stalls, if and only if the token machine fails
with that error, and both leave the same cells. Where a pass stalls, the token machine goes on for
ever, or until cells lack or a zero is divided by. -/
theorem refines_tokenMachine {machine : Machine} {text : Text}
    (obtained : machine.words.Obtained) (tidy : machine.words.Tidy) (colonless : ':' ∉ text)
    (led : text.head?.any Text.isBlank = false) :
    (∀ after, machine.Completes text after ↔
      after.words = machine.words ∧
        EndsWith machine.words (machine.tokenMachine text) (none, after.cells)) ∧
    ((¬ ∃ source before after, machine.StallsAt text source before after) →
      ∀ e after, machine.Fails text e after ↔
        after.words = machine.words ∧
          EndsWith machine.words (machine.tokenMachine text) (some e, after.cells)) ∧
    ∀ {source before after}, machine.StallsAt text source before after →
      ∀ error? cells, EndsWith machine.words (machine.tokenMachine text) (error?, cells) →
        ∃ e, error? = some e ∧ Effect.IsStackError e := by
  have clear := Text.tidy_withPlainSpaces colonless led
  refine ⟨fun after => ?_, fun moves e after => ?_, ?_⟩
  · rw [completes_iff_comesTo]
    exact comesTo_iff_endsWith none obtained.checked tidy clear
  · simp only [fails_iff, Pass.ComesTo, Pass.repeated_watched_eq (mt stalls_iff.1 moves)]
    exact comesTo_iff_endsWith (some e) obtained.checked tidy clear
  · intro source before after stalls error? cells ends
    obtain ⟨⟨passes, leads⟩, left, stalled⟩ := stalls
    obtain ⟨log, many, run⟩ := (TokenMachine.endsWith_iff (s := { toMachine := machine })
      obtained.checked tidy clear rfl).1 ends
    have later := (leads.plain.trans (.one left stalled)).repeated_eq run
    obtain ⟨e, u, same, stack⟩ :=
      (Pass.circles_of_stalled stalled left).exists_error left ⟨many, later⟩
    exact ⟨e, (TokenMachine.error_eq_ended_iff.1 same.symm).1, stack⟩

/-- An operator with another one behind it in the same token, and a word that calls itself. -/
theorem refines_tokenMachine_glued :
    let words : Dictionary := ⟨[⟨"inc".toList, "1 +".toList⟩, ⟨"x".toList, "1 x".toList⟩]⟩
    EndsWith words (Machine.tokenMachine { words } "10 2 INC\t5 *- ".toList) (none, [-5]) ∧
      ∀ error? cells, EndsWith words (Machine.tokenMachine { words } "1 x".toList) (error?, cells) →
        ∃ e, error? = some e ∧ Effect.IsStackError e := by
  intro words
  have obtained : words.Obtained :=
    ⟨words.entries, words, _, by decide +kernel, .none, rfl⟩
  have tidy : words.Tidy := by
    intro entry member
    rcases List.mem_pair.1 member with rfl | rfl <;> exact ⟨by decide, by decide⟩
  have completes : Machine.Completes { words } "10 2 INC\t5 *- ".toList { cells := [-5], words } :=
    completes_of_eval? 5 (by decide +kernel)
  have stalls : Machine.StallsAt { words } "1 x".toList "1 x".toList { words }
      { cells := [1], words, log := [.strayNumeral "1".toList, .expanded "1 x".toList] } :=
    ⟨⟨0, .none⟩, by decide, by decide +kernel⟩
  exact ⟨(((refines_tokenMachine obtained tidy (by decide) (by decide)).1 _).1 completes).2,
    (refines_tokenMachine obtained tidy (by decide) (by decide)).2.2 stalls⟩

end Machine
end WordStack
