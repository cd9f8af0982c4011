import WordStack.Proofs.Comparison
import WordStack.Proofs.Ending
import WordStack.Proofs.Entering

/-! The watch on passes is sound.

A watched run gives up where a pass leaves the text it began with, although the
pass may have changed the stack and the dictionary. It loses nothing by that. The
way of a pass through a text is a matter of the text and the dictionary only, and
the declarations it makes, made again, change nothing (`plain_again`): without the
watch the same pass would be made for ever, or until cells lack or a zero is
divided by. -/
namespace WordStack

/-! ### The same pass again -/

namespace Comparison

/-- Dictionaries are related, stacks and records may be any, and nothing is claimed after an error
that comes of the cells. -/
def control (R : Dictionary → Dictionary → Prop) : Comparison where
  Alike s t := R s.words t.words
  Left := Effect.IsStackError
  Right := Effect.IsStackError

variable {R : Dictionary → Dictionary → Prop}

theorem control_act {effect : Effect} (sound : effect.Sound) :
    (control R).Agree Eq effect.act effect.act := by
  intro s t alike
  simp only [Effect.act]
  cases first : effect s.cells with
  | error failed => exact .left (sound _ _ _ first)
  | ok cells =>
    cases second : effect t.cells with
    | error failed => exact .right (sound _ _ _ second)
    | ok cells' => exact .ok rfl alike

theorem control_push (cell : Int) : (control R).Agree Eq (Action.push cell) (Action.push cell) :=
  control_act (Effect.push_sound cell)

theorem control_operate (op : Operator) :
    (control R).Agree Eq (Action.operate op) (Action.operate op) := by
  rw [Action.operate_eq]
  exact control_act (Effect.operate_sound op)

theorem control_obey (command : Command) :
    (control R).Agree Eq (Action.obey command) (Action.obey command) := by
  rw [Action.obey_eq]
  exact control_act (Effect.obey_sound command)

theorem control_steady (same : ∀ {d d'}, R d d' → d = d') : (control R).Steady where
  obey := control_obey
  note _ alike := alike
  words := same

end Comparison

open Effect (IsStackError)

/-- Declarations go the same way from any state, and enter the same words. -/
theorem Stage.declarations_again {source rest : Text} {s s' : State}
    (ran : Stage.declarations.run source s = .ok rest s') :
    ∃ declarations, s'.words = s.words.enterAll declarations ∧
      ∀ t, ∃ t', Stage.declarations.run source t = .ok rest t' ∧
        t'.words = t.words.enterAll declarations := by
  induction source using Stage.run.induct Stage.declarations generalizing s with
  | case1 source e found =>
    rw [Stage.run_of_error found] at ran
    cases ran
  | case2 source left found =>
    rw [Stage.run_of_miss found] at ran
    cases ran
    exact ⟨[], rfl, fun t => ⟨t, by rw [Stage.run_of_miss found]; rfl, rfl⟩⟩
  | case3 source declaration left found ih =>
    rw [Stage.run_of_hit found] at ran
    obtain ⟨_, u, declared, ran⟩ := Action.exists_of_bind_eq_ok ran
    obtain ⟨declarations, entered, again⟩ := ih ran
    have declared' : Action.declare declaration s = .ok () u := declared
    rw [Action.declare_eq] at declared'
    cases set : s.words.set declaration.name declaration.text with
    | error e => simp [set] at declared'
    | ok words =>
      obtain ⟨named, led, full, rfl⟩ := Dictionary.set_eq_ok_iff.1 set
      simp only [set, EStateM.Result.ok.injEq, true_and] at declared'
      subst declared'
      refine ⟨declaration :: declarations, entered, fun t => ?_⟩
      have set' := Dictionary.set_eq_ok_iff (d := t.words).2 ⟨named, led, full, rfl⟩
      obtain ⟨t', ran', entered'⟩ := again { t with
        words := t.words.put (Text.lower declaration.name) declaration.text
        log := Action.definition t.words declaration :: t.log }
      refine ⟨t', ?_, entered'⟩
      rw [Stage.run_of_hit found, ← ran']
      apply Action.bind_of_ok
      show Action.declare declaration t = _
      rw [Action.declare_eq, set']

namespace Pass
variable {source middle rest : Text} {s s' t : State}

theorem front_again (made : front source s = .ok middle s') (same : t.words = s'.words) :
    (∃ t', front source t = .ok middle t' ∧ t'.words = t.words) ∨
      ∃ e t', front source t = .error e t' ∧ IsStackError e := by
  have split : front source = (Stage.numerals.run source >>= Stage.operators.run) >>=
      Stage.declarations.run := by
    simp only [front, bind_assoc]
  rw [split] at made ⊢
  obtain ⟨left, u, calculated, made⟩ := Action.exists_of_bind_eq_ok made
  -- neither numerals nor operators touch the dictionaries, which may differ here
  let R (d d' : Dictionary) : Prop := d = s.words ∧ d' = t.words
  have agree : (Comparison.control R).Agree Eq (Stage.numerals.run source >>= Stage.operators.run)
      (Stage.numerals.run source >>= Stage.operators.run) := by
    refine (Comparison.agree_same Comparison.control_push
      (fun _ => Comparison.Agree.pure trivial) source).bind ?_
    rintro source _ rfl
    exact Comparison.agree_same Comparison.control_operate
      (fun _ => Comparison.Agree.pure trivial) source
  have ends := agree s t ⟨rfl, rfl⟩
  rw [calculated] at ends
  generalize other : (Stage.numerals.run source >>= Stage.operators.run) t = calculated' at ends
  cases ends with
  | right failed => exact .inr ⟨_, _, Action.bind_of_error other, failed⟩
  | ok related alike =>
    subst related
    obtain ⟨declarations, entered, again⟩ := Stage.declarations_again made
    rename_i v
    obtain ⟨t', ran, entered'⟩ := again v
    refine .inl ⟨t', by rw [Action.bind_of_ok other, ran], ?_⟩
    rw [entered', alike.2, same, entered, alike.1, Dictionary.enterAll_enterAll]

theorem back_again (made : back middle s = .ok rest s') (same : t.words = s.words) :
    s'.words = s.words ∧
      ((∃ t', back middle t = .ok rest t' ∧ t'.words = t.words) ∨
        ∃ e t', back middle t = .error e t' ∧ IsStackError e) := by
  let R (d d' : Dictionary) : Prop := d = s.words ∧ d' = s.words
  have steady : (Comparison.control R).Steady :=
    Comparison.control_steady fun related => related.1.trans related.2.symm
  constructor
  · have ends := steady.back middle s s ⟨rfl, rfl⟩
    rw [made] at ends
    cases ends with
    | ok _ alike => exact alike.1
  · have ends := steady.back middle s t ⟨rfl, same⟩
    rw [made] at ends
    generalize other : back middle t = made' at ends
    cases ends with
    | right failed => exact .inr ⟨_, _, rfl, failed⟩
    | ok related alike =>
      subst related
      exact .inl ⟨_, rfl, alike.2.trans same.symm⟩

/-- **A pass made again goes the same way**, from any stack, once the dictionary is as it left it:
it leaves the same text and dictionary, unless cells lack or a zero is divided by. -/
theorem plain_again (made : plain source s = .ok rest s') (same : t.words = s'.words) :
    (∃ t', plain source t = .ok rest t' ∧ t'.words = t.words) ∨
      ∃ e t', plain source t = .error e t' ∧ IsStackError e := by
  obtain ⟨middle, u, front, back⟩ := Action.exists_of_bind_eq_ok made
  obtain ⟨kept, -⟩ := back_again back rfl
  rcases front_again front (same.trans kept) with ⟨v, front', words⟩ | ⟨e, v, failed, stack⟩
  · rcases (back_again back (words.trans (same.trans kept))).2 with
      ⟨t', back', words'⟩ | ⟨e, t', failed, stack⟩
    · exact .inl ⟨t', (Action.bind_of_ok front').trans back', words'.trans words⟩
    · exact .inr ⟨e, t', (Action.bind_of_ok front').trans failed, stack⟩
  · exact .inr ⟨e, v, Action.bind_of_error failed, stack⟩

/-! ### Going in circles -/

/-- Passes come back to the same text and dictionary, for ever or until one of them lacks cells or
divides by zero. -/
def Circles (source : Text) (s : State) : Prop :=
  (∀ passes, ∃ t, Leads plain passes source s source t ∧ t.words = s.words) ∨
    ∃ passes t u e, Leads plain passes source s source t ∧ t.words = s.words ∧
      plain source t = .error e u ∧ IsStackError e

/-- What stops a run that goes in circles is a lack of cells or a zero divisor. -/
theorem Circles.exists_error {result : EStateM.Result Error State Unit} (circles : Circles source s)
    (left : source ≠ []) (comes : ComesTo plain source s result) :
    ∃ e t, result = .error e t ∧ IsStackError e := by
  obtain ⟨passes, ended⟩ := comes
  rcases circles with forever | ⟨rounds, t, u, e, leads, -, failed, stack⟩
  · obtain ⟨t, leads, -⟩ := forever passes
    have short := leads.repeated 0
    rw [Nat.zero_add, ended] at short
    cases source with
    | nil => exact absurd rfl left
    | cons c source => cases short
  · have stopped : ComesTo plain source t result := ⟨passes, leads.repeated_eq ended⟩
    exact ⟨e, u, (comesTo_of_error left failed).1 stopped, stack⟩

section Stalled
variable (stalled : plain source s = .ok source s') (left : source ≠ [])
include stalled left

theorem circles_of_stalled : Circles source s' := by
  refine Classical.or_iff_not_imp_right.2 fun goesOn passes => ?_
  induction passes with
  | zero => exact ⟨s', .none, rfl⟩
  | succ passes ih =>
    obtain ⟨t, leads, words⟩ := ih
    rcases plain_again stalled words with ⟨u, made, kept⟩ | ⟨e, u, failed, stack⟩
    · refine ⟨u, ?_, kept.trans words⟩
      rw [Nat.add_comm]
      exact leads.trans (.one left made)
    · exact absurd ⟨passes, t, u, e, leads, words, failed, stack⟩ goesOn

/-- From a pass that left its text as it was, no number of passes comes to the end of the text. -/
theorem repeated_ne_ok_of_stalled {passes : Nat} {t u : State} (words : t.words = s'.words) :
    Pass.repeated plain passes source t ≠ some (.ok () u) := by
  induction passes generalizing t with
  | zero => cases source <;> simp_all [Pass.repeated]
  | succ passes ih =>
    rw [Pass.repeated_succ left]
    rcases plain_again stalled words with ⟨t', made, kept⟩ | ⟨e, t', failed, -⟩
    · rw [made]
      exact ih (kept.trans words)
    · simp [failed]

end Stalled

/-! ### Watched and unwatched passes -/

theorem watched_of_front (made : front source s = .ok middle t)
    (made' : back middle t = .ok rest s') : watched source s =
      if rest = source then .error (blame s'.words middle) s' else .ok rest s' := by
  rw [watched, Action.bind_of_ok made, Action.bind_of_ok made']
  by_cases same : rest = source
  · rw [if_pos same, if_pos same]
    rfl
  · rw [if_neg same, if_neg same]
    rfl

theorem watched_of_ok (made : plain source s = .ok rest s') :
    ∃ middle, watched source s =
      if rest = source then .error (blame s'.words middle) s' else .ok rest s' := by
  obtain ⟨middle, u, front, back⟩ := Action.exists_of_bind_eq_ok made
  exact ⟨middle, watched_of_front front back⟩

theorem watched_of_error {e : Error} (failed : plain source s = .error e s') :
    watched source s = .error e s' := by
  cases front : Pass.front source s with
  | error e' u =>
    rw [plain, Action.bind_of_error front] at failed
    rw [watched, Action.bind_of_error front, failed]
  | ok middle u =>
    rw [plain, Action.bind_of_ok front] at failed
    rw [watched, Action.bind_of_ok front, Action.bind_of_error failed]

theorem plain_of_watched (made : watched source s = .ok rest s') :
    plain source s = .ok rest s' ∧ rest ≠ source := by
  cases unwatched : plain source s with
  | error e t =>
    rw [watched_of_error unwatched] at made
    cases made
  | ok rest' t =>
    obtain ⟨middle, watched⟩ := watched_of_ok unwatched
    rw [made] at watched
    split at watched
    · cases watched
    · cases watched
      exact ⟨rfl, ‹_›⟩

theorem Leads.plain {passes : Nat} (leads : Leads watched passes source s rest s') :
    Leads Pass.plain passes source s rest s' := by
  induction leads with
  | none => exact .none
  | more left made _ ih => exact .more left (plain_of_watched made).1 ih

/-! ### Watched and unwatched runs -/

/-- Watched passes come to one that leaves the text it began with. -/
def Stalls (source : Text) (s : State) : Prop :=
  ∃ passes last before after, Leads watched passes source s last before ∧ last ≠ [] ∧
    plain last before = .ok last after

/-- Where no pass stalls, the watch makes no difference. -/
theorem repeated_watched_eq (moves : ¬ Stalls source s) (passes : Nat) :
    Pass.repeated watched passes source s = Pass.repeated plain passes source s := by
  induction passes generalizing source s with
  | zero => cases source <;> rfl
  | succ passes ih =>
    by_cases finished : source = []
    · rw [finished, repeated_nil, repeated_nil]
    · rw [repeated_succ finished, repeated_succ finished]
      cases made : plain source s with
      | error e u => rw [watched_of_error made]
      | ok rest u =>
        obtain ⟨middle, watched⟩ := watched_of_ok made
        have changed : rest ≠ source := by
          rintro rfl
          exact moves ⟨0, rest, s, u, .none, finished, made⟩
        rw [if_neg changed] at watched
        rw [watched]
        refine ih fun ⟨passes, last, before, after, leads, left, stalled⟩ => ?_
        exact moves ⟨passes + 1, last, before, after, .more finished watched leads, left, stalled⟩

/-- The watch stops no run that comes to the end of its text. -/
theorem repeated_watched_eq_ok_iff {passes : Nat} :
    Pass.repeated watched passes source s = some (.ok () s') ↔
      Pass.repeated plain passes source s = some (.ok () s') := by
  by_cases stalls : Stalls source s
  · -- neither run comes to the end of the text
    obtain ⟨many, last, before, after, leads, left, stalled⟩ := stalls
    constructor
    · intro ended
      obtain ⟨middle, watched⟩ := watched_of_ok stalled
      rw [if_pos rfl] at watched
      have ended' := leads.repeated_eq (repeated_eq_some_of_le (Nat.le_add_right passes 1) ended)
      rw [repeated_succ left, watched] at ended'
      cases ended'
    · intro ended
      have circling := leads.plain.trans (.one left stalled)
      exact absurd (circling.repeated_eq ended) (repeated_ne_ok_of_stalled stalled left rfl)
  · rw [repeated_watched_eq stalls]

end Pass

namespace Machine

/-- Whether a run comes to the end of its text can be told without the watch. -/
theorem completes_iff_comesTo {machine after : Machine} {text : Text} :
    machine.Completes text after ↔ ∃ s, s.toMachine = after ∧
      Pass.ComesTo Pass.plain text.withPlainSpaces { toMachine := machine } (.ok () s) := by
  simp only [completes_iff, Pass.ComesTo, Pass.repeated_watched_eq_ok_iff]

/-- Runs a text on a machine, with passes that are not watched. -/
def evalUnwatched? (passes : Nat) (machine : Machine) (source : Text) : Option Report :=
  (Pass.repeated Pass.plain passes (Text.withPlainSpaces source) { toMachine := machine }).map
    Report.ofResult

/-- The unwatched run of a text ends with a report, given passes enough. -/
def EndsUnwatched (machine : Machine) (text : Text) (report : Report) : Prop :=
  ∃ passes, machine.evalUnwatched? passes text = some report

/-- The run of a text comes to a pass that leaves the text it began with. -/
structure StallsAt (machine : Machine) (text source : Text) (before after : State) : Prop where
  reached : ∃ passes, Pass.Leads Pass.watched passes text.withPlainSpaces
    { toMachine := machine } source before
  left : source ≠ []
  stalled : Pass.plain source before = .ok source after

theorem stalls_iff {machine : Machine} {text : Text} :
    Pass.Stalls text.withPlainSpaces { toMachine := machine } ↔
      ∃ source before after, machine.StallsAt text source before after := by
  constructor
  · intro stalls
    obtain ⟨passes, source, before, after, leads, left, stalled⟩ := stalls
    exact ⟨source, before, after, ⟨passes, leads⟩, left, stalled⟩
  · intro stalls
    obtain ⟨source, before, after, ⟨passes, leads⟩, left, stalled⟩ := stalls
    exact ⟨passes, source, before, after, leads, left, stalled⟩

/-- **The watch is sound.** A run that it stops would not have come to the end of its text: the
pass at which it stalled would have been made for ever, or until cells lacked or a zero was divided
by. So a run comes to its end with the watch if and only if it does without, and where no pass
stalls the watch makes no difference at all. -/
theorem watch_sound (machine : Machine) (text : Text) :
    (∀ {source before after}, machine.StallsAt text source before after →
      (∃ middle, machine.Fails text (Pass.blame after.words middle) after.toMachine) ∧
      (∃ passes, Pass.Leads Pass.plain passes text.withPlainSpaces { toMachine := machine }
        source after) ∧
      (∀ passes s, ¬ Pass.Leads Pass.plain passes text.withPlainSpaces { toMachine := machine }
        [] s) ∧
      Pass.Circles source after) ∧
    (∀ report : Report, report.error? = none →
      (machine.Ends text report ↔ machine.EndsUnwatched text report)) ∧
    ((¬ ∃ source before after, machine.StallsAt text source before after) →
      ∀ report, machine.Ends text report ↔ machine.EndsUnwatched text report) := by
  refine ⟨?_, fun report fine => ?_, fun moves report => ?_⟩
  · intro source before after stalls
    obtain ⟨⟨passes, leads⟩, left, stalled⟩ := stalls
    obtain ⟨middle, watched⟩ := Pass.watched_of_ok stalled
    rw [if_pos rfl] at watched
    have circling := leads.plain.trans (.one left stalled)
    refine ⟨⟨middle, fails_iff.2 ⟨after, rfl, _, leads.repeated_of_error left watched⟩⟩,
      ⟨_, circling⟩, fun many s finished => ?_, Pass.circles_of_stalled stalled left⟩
    have ended := circling.repeated_eq (finished.repeated 0)
    exact Pass.repeated_ne_ok_of_stalled stalled left rfl ended
  · simp only [Ends, EndsUnwatched, eval?, evalUnwatched?, Report.map_ofResult_eq_some_iff fine,
      Pass.repeated_watched_eq_ok_iff]
  · simp only [Ends, EndsUnwatched, eval?, evalUnwatched?,
      Pass.repeated_watched_eq (mt stalls_iff.1 moves)]

/-- A word that declares another and calls itself, each pass leaving a cell more, is stopped at
the first pass; a sum is not. -/
theorem watch_sound_self_call :
    let words : Dictionary := ⟨[⟨"a".toList, "dup 1 : x 2 ; a".toList⟩]⟩
    let after : State := {
      cells := [1, 1]
      words := ⟨[⟨"a".toList, "dup 1 : x 2 ; a".toList⟩, ⟨"x".toList, "2".toList⟩]⟩
      log := [.strayNumeral "1".toList, .expanded "dup 1 : x 2 ; a".toList,
        .defined "x".toList "2".toList] }
    Machine.StallsAt { words } "1 : x 2 ; a".toList "1 : x 2 ; a".toList { words } after ∧
      Pass.Circles "1 : x 2 ; a".toList after ∧
      Machine.EndsUnwatched {} "1 2 +".toList ⟨{ cells := [3] }, [], none⟩ := by
  intro words after
  have stalls : Machine.StallsAt { words } "1 : x 2 ; a".toList "1 : x 2 ; a".toList
      { words } after :=
    ⟨⟨0, .none⟩, by decide, by decide +kernel⟩
  have circles := ((watch_sound { words } "1 : x 2 ; a".toList).1 stalls).2.2.2
  have sum := (watch_sound {} "1 2 +".toList).2.1 ⟨{ cells := [3] }, [], none⟩ rfl
  exact ⟨stalls, circles, sum.1 ⟨1, by decide +kernel⟩⟩

end Machine
end WordStack
