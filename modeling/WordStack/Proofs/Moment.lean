import Mathlib.Logic.Relation
import WordStack.Proofs.Effect
import WordStack.Proofs.Ending
import WordStack.Proofs.Found

/-! Moments of a run.

Between one item and the next a run is at a moment: it looks for items of one
kind, at the front of the text that is left, in some state. An item that is found
and does not fail leads to the next moment, and so does finding none, on to the
next kind or to the next pass (`Moment.Step`). A moment that does not lead on ends
the run, with the text or by an error (`Moment.EndsIn`).

That is a second account of what a run does, one item at a time, and it is the same
as the first: a run ends with a result just if steps lead from its beginning to a
moment that ends in it (`comesTo_iff_endsIn`). What every step keeps holds at
every moment of every run, whether or not the run comes to an end. -/
namespace WordStack

/-- What a run looks for. -/
inductive Phase where
  | numerals
  | operators
  | declarations
  | word
  /-- Commands, after a word was looked for in the given text. -/
  | commands (asked : Text)

/-- A run between two items. -/
structure Moment where
  phase : Phase
  /-- The text with which the pass began. -/
  start : Text
  /-- The text that is left. -/
  source : Text
  state : State

namespace Moment

/-- The moment at which a pass begins. -/
def begin (source : Text) (s : State) : Moment := ⟨.numerals, source, source, s⟩

/-- From one moment to the next. -/
inductive Step : Moment → Moment → Prop where
  | numeral {start source rest n s} : Numeral.scan source = .ok (.hit n rest) →
      Step ⟨.numerals, start, source, s⟩ ⟨.numerals, start, rest, { s with cells := n :: s.cells }⟩
  | noNumeral {start source missed s} : Numeral.scan source = .ok (.miss missed) →
      Step ⟨.numerals, start, source, s⟩ ⟨.operators, start, source, s⟩
  | operator {start source rest op s cells} : Operator.scan source = .ok (.hit op rest) →
      Effect.operate op s.cells = .ok cells →
      Step ⟨.operators, start, source, s⟩ ⟨.operators, start, rest, { s with cells }⟩
  | noOperator {start source missed s} : Operator.scan source = .ok (.miss missed) →
      Step ⟨.operators, start, source, s⟩ ⟨.declarations, start, source, s⟩
  | declaration {start source rest declaration s} :
      Declaration.scan source = .ok (.hit declaration rest) →
      Step ⟨.declarations, start, source, s⟩ ⟨.declarations, start, rest, { s with
        words := s.words.put declaration.name declaration.text
        log := Action.definition s.words declaration :: s.log }⟩
  | noDeclaration {start source missed s} : Declaration.scan source = .ok (.miss missed) →
      Step ⟨.declarations, start, source, s⟩ ⟨.word, start, source, s⟩
  | word {start source text s} : s.words.get? (Text.token source) = some text →
      Step ⟨.word, start, source, s⟩ ⟨.commands source, start, text ++ Text.afterToken source,
        { s with log := .expanded text :: s.log }⟩
  | noWord {start source s} : s.words.get? (Text.token source) = none →
      Step ⟨.word, start, source, s⟩ ⟨.commands source, start, source, s⟩
  | command {asked start source rest command s cells} :
      Command.scan source = .ok (.hit command rest) → Effect.obey command s.cells = .ok cells →
      Step ⟨.commands asked, start, source, s⟩ ⟨.commands asked, start, rest, { s with cells }⟩
  /-- A numeral that stops the commands begins the next pass, unless that began this one. -/
  | pass {asked start source missed s} : source ≠ [] → source ≠ start →
      Command.scan source = .ok (.miss missed) →
      Step ⟨.commands asked, start, source, s⟩ (begin source { s with
        log := .strayNumeral (Text.lower (Text.token source)) :: s.log })

/-- What a run ends in at its last moment. -/
inductive EndsIn : Moment → EStateM.Result Error State Unit → Prop where
  | finished {asked start s} : start ≠ [] → EndsIn ⟨.commands asked, start, [], s⟩ (.ok () s)
  | numeral {start source e s} : Numeral.scan source = .error e →
      EndsIn ⟨.numerals, start, source, s⟩ (.error e s)
  | operator {start source rest op s e cells} : Operator.scan source = .ok (.hit op rest) →
      Effect.operate op s.cells = .error (e, cells) →
      EndsIn ⟨.operators, start, source, s⟩ (.error e { s with cells })
  | declaration {start source e s} : Declaration.scan source = .error e →
      EndsIn ⟨.declarations, start, source, s⟩ (.error e s)
  | token {asked start source e s} : Command.scan source = .error e →
      EndsIn ⟨.commands asked, start, source, s⟩ (.error e s)
  | command {asked start source rest command s e cells} :
      Command.scan source = .ok (.hit command rest) →
      Effect.obey command s.cells = .error (e, cells) →
      EndsIn ⟨.commands asked, start, source, s⟩ (.error e { s with cells })
  /-- The pass has left the text it began with. -/
  | stalled {asked source missed s} : source ≠ [] → Command.scan source = .ok (.miss missed) →
      EndsIn ⟨.commands asked, source, source, s⟩ (.error (Pass.blame s.words asked) { s with
        log := .strayNumeral (Text.lower (Text.token source)) :: s.log })

/-- Steps lead from one moment to another. -/
def Leads : Moment → Moment → Prop := Relation.ReflTransGen Step

end Moment

/-- The run of a text comes to a moment. There is none where there is no text. -/
def Machine.Visits (machine : Machine) (text : Text) (m : Moment) : Prop :=
  text ≠ [] ∧ (Moment.begin text.withPlainSpaces { toMachine := machine }).Leads m

/-! ### Items that succeed and items that fail -/

theorem Effect.act_of_ok {effect : Effect} {s : State} {cells : List Int}
    (done : effect s.cells = .ok cells) : effect.act s = .ok () { s with cells } := by
  simp only [act, done]

theorem Effect.act_of_error {effect : Effect} {s : State} {e : Error} {cells : List Int}
    (failed : effect s.cells = .error (e, cells)) : effect.act s = .error e { s with cells } := by
  simp only [act, failed]

/-- A declaration that is found does not fail. -/
theorem Action.declare_of_scan {source rest : Text} {declaration : Declaration} (s : State)
    (found : Declaration.scan source = .ok (.hit declaration rest)) :
    declare declaration s = .ok () { s with
      words := s.words.put declaration.name declaration.text
      log := definition s.words declaration :: s.log } := by
  simp only [declare_eq, Declaration.set_of_scan_eq_hit found]

theorem Stage.stop_commands {source : Text} (s : State) (left : source ≠ []) :
    commands.stop source s =
      .ok () { s with log := .strayNumeral (Text.lower (Text.token source)) :: s.log } := by
  simp only [commands, if_neg left]
  rfl

/-! ### What is left of a pass -/

namespace Stage
variable {α β : Type} {stage : Stage α} {source rest missed : Text} {value : α} {e : Error}
  {s t : State} {next : Text → Action β}

theorem bind_of_hit (found : stage.scan source = .ok (.hit value rest))
    (acted : stage.act value s = .ok () t) :
    (stage.run source >>= next) s = (stage.run rest >>= next) t := by
  rw [run_of_hit found, bind_assoc, Action.bind_of_ok acted]

theorem bind_of_miss (found : stage.scan source = .ok (.miss missed))
    (stopped : stage.stop source s = .ok () t) : (stage.run source >>= next) s = next source t :=
  Action.bind_of_ok (run_eq_ok_of_miss found stopped)

theorem bind_of_error (refused : stage.scan source = .error e) :
    (stage.run source >>= next) s = .error e s := by
  rw [run_of_error refused]
  rfl

theorem bind_of_hit_error (found : stage.scan source = .ok (.hit value rest))
    (failed : stage.act value s = .error e t) : (stage.run source >>= next) s = .error e t := by
  rw [run_of_hit found, bind_assoc, Action.bind_of_error failed]

end Stage

namespace Pass

/-- What a watched pass does once its commands have come to an end. -/
def watch (start asked rest : Text) : Action Text := do
  if rest = start then
    throw (blame (← get).words asked)
  return rest

def afterWord (start asked source : Text) : Action Text :=
  Stage.commands.run source >>= watch start asked

def afterDeclarations (start source : Text) : Action Text :=
  Action.expand source >>= afterWord start source

def afterOperators (start source : Text) : Action Text :=
  Stage.declarations.run source >>= afterDeclarations start

def afterNumerals (start source : Text) : Action Text :=
  Stage.operators.run source >>= afterOperators start

theorem watched_eq (source : Text) :
    watched source = Stage.numerals.run source >>= afterNumerals source := by
  simp only [watched, front, back, bind_assoc]
  rfl

variable {start asked rest : Text} {s : State}

theorem watch_same : watch start asked start s = .error (blame s.words asked) s := by
  rw [watch, if_pos rfl]
  rfl

theorem watch_of_ne (moved : rest ≠ start) : watch start asked rest s = .ok rest s := by
  rw [watch, if_neg moved]
  rfl

end Pass

namespace Moment
open Pass
variable {m m' : Moment} {result result' : EStateM.Result Error State Unit} {passes : Nat}

/-- What the pass does from the moment on. -/
def onward (m : Moment) : Action Text :=
  match m.phase with
  | .numerals => Stage.numerals.run m.source >>= afterNumerals m.start
  | .operators => afterNumerals m.start m.source
  | .declarations => afterOperators m.start m.source
  | .word => afterDeclarations m.start m.source
  | .commands asked => afterWord m.start asked m.source

/-- How many kinds of item are still to be looked for. -/
def phasesLeft (m : Moment) : Nat :=
  match m.phase with
  | .numerals => 4
  | .operators => 3
  | .declarations => 2
  | .word => 1
  | .commands _ => 0

/-- Within a pass, a step goes on to the next kind or leaves a shorter text. -/
def Before (m m' : Moment) : Prop :=
  m.phasesLeft < m'.phasesLeft ∨ m.phasesLeft = m'.phasesLeft ∧ m.source.length < m'.source.length

/-- A step leaves what the pass does from there on as it is, or it is the last of its pass. -/
theorem Step.onward (step : m.Step m') :
    (m.onward m.state = m'.onward m'.state ∧ m'.start = m.start ∧ m'.Before m) ∨
      m.onward m.state = .ok m'.source m'.state ∧ m'.source ≠ [] ∧
        m' = begin m'.source m'.state := by
  cases step with
  | numeral found =>
    exact .inl ⟨Stage.bind_of_hit found rfl, rfl, .inr ⟨rfl, Numeral.scan_consumes found⟩⟩
  | noNumeral found =>
    exact .inl ⟨Stage.bind_of_miss found rfl, rfl, .inl (Nat.lt_succ_self 3)⟩
  | @operator _ _ _ op s cells found done =>
    have acted : Action.operate op s = .ok () { s with cells } :=
      Action.operate_eq op ▸ Effect.act_of_ok done
    exact .inl ⟨Stage.bind_of_hit found acted, rfl, .inr ⟨rfl, Operator.scan_consumes found⟩⟩
  | noOperator found =>
    exact .inl ⟨Stage.bind_of_miss found rfl, rfl, .inl (Nat.lt_succ_self 2)⟩
  | @declaration _ _ _ declaration s found =>
    have acted := Action.declare_of_scan s found
    exact .inl ⟨Stage.bind_of_hit found acted, rfl, .inr ⟨rfl, Declaration.scan_consumes found⟩⟩
  | noDeclaration found =>
    exact .inl ⟨Stage.bind_of_miss found rfl, rfl, .inl (Nat.lt_succ_self 1)⟩
  | word known =>
    exact .inl ⟨Action.bind_of_ok (Action.expand_of_some known), rfl, .inl Nat.one_pos⟩
  | noWord unknown =>
    exact .inl ⟨Action.bind_of_ok (Action.expand_of_none unknown), rfl, .inl Nat.one_pos⟩
  | @command _ _ _ _ command s cells found done =>
    have acted : Action.obey command s = .ok () { s with cells } :=
      Action.obey_eq command ▸ Effect.act_of_ok done
    exact .inl ⟨Stage.bind_of_hit found acted, rfl, .inr ⟨rfl, Command.scan_consumes found⟩⟩
  | @pass _ _ source _ s left moved found =>
    have stopped := Stage.stop_commands s left
    exact .inr ⟨(Stage.bind_of_miss found stopped).trans (watch_of_ne moved), left, rfl⟩

/-- What the pass does from a last moment on is what the run ends in. -/
theorem EndsIn.onward (ends : m.EndsIn result) :
    match result with
    | .ok _ t => m.onward m.state = .ok [] t
    | .error e t => m.onward m.state = .error e t := by
  cases ends with
  | finished left =>
    have missed : Command.scan [] = .ok (.miss []) := rfl
    exact (Stage.bind_of_miss missed rfl).trans (watch_of_ne (Ne.symm left))
  | numeral refused => exact Stage.bind_of_error refused
  | @operator _ _ _ op s e cells found failed =>
    have acted : Action.operate op s = .error e { s with cells } :=
      Action.operate_eq op ▸ Effect.act_of_error failed
    exact Stage.bind_of_hit_error found acted
  | declaration refused => exact Stage.bind_of_error refused
  | token refused => exact Stage.bind_of_error refused
  | @command _ _ _ _ command s e cells found failed =>
    have acted : Action.obey command s = .error e { s with cells } :=
      Action.obey_eq command ▸ Effect.act_of_error failed
    exact Stage.bind_of_hit_error found acted
  | @stalled _ source _ s left found =>
    exact (Stage.bind_of_miss found (Stage.stop_commands s left)).trans watch_same

/-- Every moment leads on, or the run ends there. -/
theorem exists_step_or_endsIn (m : Moment) (left : m.start ≠ []) :
    (∃ m', m.Step m') ∨ ∃ result, m.EndsIn result := by
  obtain ⟨phase, start, source, s⟩ := m
  cases phase with
  | numerals =>
    match found : Numeral.scan source with
    | .ok (.hit n rest) => exact .inl ⟨_, .numeral found⟩
    | .ok (.miss missed) => exact .inl ⟨_, .noNumeral found⟩
    | .error e => exact .inr ⟨_, .numeral found⟩
  | operators =>
    match found : Operator.scan source with
    | .ok (.hit op rest) =>
      match done : Effect.operate op s.cells with
      | .ok cells => exact .inl ⟨_, .operator found done⟩
      | .error (e, cells) => exact .inr ⟨_, .operator found done⟩
    | .ok (.miss missed) => exact .inl ⟨_, .noOperator found⟩
    | .error e => exact absurd found Operator.scan_ne_error
  | declarations =>
    match found : Declaration.scan source with
    | .ok (.hit declaration rest) => exact .inl ⟨_, .declaration found⟩
    | .ok (.miss missed) => exact .inl ⟨_, .noDeclaration found⟩
    | .error e => exact .inr ⟨_, .declaration found⟩
  | word =>
    match known : s.words.get? (Text.token source) with
    | some text => exact .inl ⟨_, .word known⟩
    | none => exact .inl ⟨_, .noWord known⟩
  | commands asked =>
    match found : Command.scan source with
    | .ok (.hit command rest) =>
      match done : Effect.obey command s.cells with
      | .ok cells => exact .inl ⟨_, .command found done⟩
      | .error (e, cells) => exact .inr ⟨_, .command found done⟩
    | .ok (.miss missed) =>
      by_cases finished : source = []
      · subst finished
        exact .inr ⟨_, .finished left⟩
      · by_cases moved : source = start
        · subst moved
          exact .inr ⟨_, .stalled finished found⟩
        · exact .inl ⟨_, .pass finished moved found⟩
    | .error e => exact .inr ⟨_, .token found⟩

/-! ### Moments and runs -/

/-- The run comes to the result from the moment on, with so many passes after the present one. -/
def ComesTo (passes : Nat) (m : Moment) (result : EStateM.Result Error State Unit) : Prop :=
  match m.onward m.state with
  | .ok rest t => Pass.repeated watched passes rest t = some result
  | .error e t => result = .error e t

theorem comesTo_begin {source : Text} {s : State} (left : source ≠ []) :
    (begin source s).ComesTo passes result ↔
      Pass.repeated watched (passes + 1) source s = some result := by
  rw [repeated_succ left, watched_eq]
  show (match (Stage.numerals.run source >>= afterNumerals source) s with
    | .ok rest t => _ | .error e t => _) ↔ _
  cases (Stage.numerals.run source >>= afterNumerals source) s with
  | ok rest t => rfl
  | error e t => exact eq_comm.trans (Option.some.injEq ..).symm.to_iff

theorem EndsIn.comesTo_iff (ends : m.EndsIn result) :
    m.ComesTo passes result' ↔ result' = result := by
  have onward := ends.onward
  cases result with
  | ok _ t =>
    simp only at onward
    simp only [ComesTo, onward, repeated_nil, Option.some.injEq, eq_comm]
  | error e t =>
    simp only at onward
    simp only [ComesTo, onward]

/-- A step leaves what the run comes to, and the last step of a pass leaves one pass less. -/
theorem Step.comesTo (step : m.Step m') :
    ((∀ passes, m.ComesTo passes result ↔ m'.ComesTo passes result) ∧ m'.start = m.start ∧
      m'.Before m) ∨
      m'.start ≠ [] ∧ ∀ passes, m.ComesTo passes result ↔
        ∃ fewer, passes = fewer + 1 ∧ m'.ComesTo fewer result := by
  rcases step.onward with ⟨onward, start, before⟩ | ⟨onward, left, first⟩
  · exact .inl ⟨fun passes => by simp only [ComesTo, onward], start, before⟩
  · generalize m'.source = source, m'.state = t at onward left first
    subst first
    refine .inr ⟨left, fun passes => ?_⟩
    have comesTo :
        m.ComesTo passes result ↔ Pass.repeated watched passes source t = some result := by
      simp only [ComesTo, onward]
    rw [comesTo]
    cases passes with
    | zero =>
      cases source with
      | nil => exact absurd rfl left
      | cons c source => simp [Pass.repeated]
    | succ passes => simp [comesTo_begin left]

/-- A run that comes to a result has a last moment that ends in it. The number of passes that are
left goes down, and within a pass the kinds of item and the text do. -/
theorem exists_endsIn_of_comesTo {m : Moment} {passes : Nat} (left : m.start ≠ [])
    (comes : m.ComesTo passes result) : ∃ last, m.Leads last ∧ last.EndsIn result := by
  rcases m.exists_step_or_endsIn left with ⟨m', step⟩ | ⟨result', ends⟩
  · rcases step.comesTo with ⟨same, start, before⟩ | ⟨left', next⟩
    · obtain ⟨last, leads, ends⟩ :=
        exists_endsIn_of_comesTo (start ▸ left) ((same passes).1 comes)
      exact ⟨last, .head step leads, ends⟩
    · obtain ⟨fewer, total, comes⟩ := (next passes).1 comes
      obtain ⟨last, leads, ends⟩ := exists_endsIn_of_comesTo left' comes
      exact ⟨last, .head step leads, ends⟩
  · rw [ends.comesTo_iff] at comes
    subst comes
    exact ⟨m, .refl, ends⟩
termination_by (passes, m.phasesLeft, m.source.length)
decreasing_by
  · rcases before with fewer | ⟨same, shorter⟩
    · exact .right _ (.left _ _ fewer)
    · rw [same]
      exact .right _ (.right _ shorter)
  · exact .left _ _ (total ▸ Nat.lt_succ_self fewer)

theorem Leads.exists_comesTo {last : Moment} (leads : m.Leads last) (ends : last.EndsIn result) :
    ∃ passes, m.ComesTo passes result := by
  induction leads using Relation.ReflTransGen.head_induction_on with
  | refl => exact ⟨0, ends.comesTo_iff.2 rfl⟩
  | head step _ ih =>
    obtain ⟨passes, comes⟩ := ih
    rcases step.comesTo with ⟨same, -⟩ | ⟨-, next⟩
    · exact ⟨passes, (same passes).2 comes⟩
    · exact ⟨passes + 1, (next (passes + 1)).2 ⟨passes, rfl, comes⟩⟩

end Moment

/-- **A run ends with a result just if steps lead to a moment that ends in it.** -/
theorem Pass.comesTo_iff_endsIn {source : Text} {s : State}
    {result : EStateM.Result Error State Unit} (left : source ≠ []) :
    ComesTo watched source s result ↔
      ∃ last, (Moment.begin source s).Leads last ∧ last.EndsIn result := by
  constructor
  · intro comes
    obtain ⟨passes, ended⟩ := comes
    have more := repeated_eq_some_of_le (Nat.le_add_right passes 1) ended
    exact Moment.exists_endsIn_of_comesTo left ((Moment.comesTo_begin left).2 more)
  · intro ⟨last, leads, ends⟩
    obtain ⟨passes, comes⟩ := leads.exists_comesTo ends
    exact ⟨passes + 1, (Moment.comesTo_begin left).1 comes⟩

namespace Machine
variable {machine : Machine} {text : Text} {report : Report}

theorem comesTo_iff_endsIn (left : text ≠ []) {result : EStateM.Result Error State Unit} :
    Pass.ComesTo Pass.watched text.withPlainSpaces { toMachine := machine } result ↔
      ∃ last, machine.Visits text last ∧ last.EndsIn result := by
  rw [Pass.comesTo_iff_endsIn (mt Text.withPlainSpaces_eq_nil_iff.1 left)]
  constructor
  · intro ⟨last, leads, ends⟩
    exact ⟨last, ⟨left, leads⟩, ends⟩
  · intro ⟨last, ⟨_, leads⟩, ends⟩
    exact ⟨last, leads, ends⟩

theorem ends_iff_endsIn (left : text ≠ []) : machine.Ends text report ↔
    ∃ last result, machine.Visits text last ∧ last.EndsIn result ∧
      Report.ofResult result = report := by
  have same : machine.Ends text report ↔ ∃ result,
      Pass.ComesTo Pass.watched text.withPlainSpaces { toMachine := machine } result ∧
        Report.ofResult result = report := by
    simp only [Ends, eval?, Pass.ComesTo, Option.map_eq_some_iff, ← exists_and_right]
    exact exists_comm
  simp only [same, comesTo_iff_endsIn left, ← exists_and_right, and_assoc]
  exact exists_comm

theorem ends_nil_iff : machine.Ends [] report ↔ report = ⟨machine, [], none⟩ := by
  simp only [Ends, eval?, Text.withPlainSpaces, List.map_nil, Pass.repeated_nil, Option.map_some,
    Option.some.injEq, exists_const, eq_comm]
  rfl

/-- A run fails where it comes to a moment that ends in the error. -/
theorem fails_iff_endsIn {e : Error} {after : Machine} : machine.Fails text e after ↔
    ∃ last s, machine.Visits text last ∧ last.EndsIn (.error e s) ∧ s.toMachine = after := by
  rw [fails_iff]
  by_cases left : text = []
  · subst left
    constructor
    · intro ⟨s, _, comes⟩
      cases Pass.comesTo_nil.1 comes
    · intro ⟨last, s, visits, _⟩
      exact absurd rfl visits.1
  · simp only [comesTo_iff_endsIn left]
    constructor
    · intro ⟨s, same, last, visits, ends⟩
      exact ⟨last, s, visits, ends, same⟩
    · intro ⟨last, s, visits, ends, same⟩
      exact ⟨s, same, last, visits, ends⟩

/-- What holds at the beginning of a run and is kept by every step holds at every moment. -/
theorem Visits.induction {motive : Moment → Prop} {m : Moment} (visits : machine.Visits text m)
    (begins : motive (Moment.begin text.withPlainSpaces { toMachine := machine }))
    (steps : ∀ {m m' : Moment}, m.Step m' → motive m → motive m') : motive m := by
  obtain ⟨-, leads⟩ := visits
  induction leads with
  | refl => exact begins
  | tail _ step ih => exact steps step ih

end Machine
end WordStack
