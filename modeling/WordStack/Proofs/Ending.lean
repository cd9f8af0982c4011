import WordStack.Machine.Run

/-! How runs end.

A run that is given passes enough has one end: a report that says whether it came
to the end of the text or what stopped it. On the way there, passes lead from text
to text (`Pass.Leads`), and what follows a moment of a run does not depend on how
many passes went before. -/
namespace WordStack

instance Action.decidableEqResult {α : Type} [DecidableEq α] :
    DecidableEq (EStateM.Result Error State α)
  | .ok x s, .ok y t => decidable_of_iff (x = y ∧ s = t) (by simp)
  | .error e s, .error f t => decidable_of_iff (e = f ∧ s = t) (by simp)
  | .ok _ _, .error _ _ => isFalse nofun
  | .error _ _, .ok _ _ => isFalse nofun

/-! ### Passes that lead on -/

/-- A number of passes that succeed, each on a text with something left, lead from one text and
state to another. -/
inductive Pass.Leads (pass : Text → Action Text) : Nat → Text → State → Text → State → Prop where
  | none {source s} : Leads pass 0 source s source s
  | more {passes source rest last s t u} : source ≠ [] → pass source s = .ok rest t →
      Leads pass passes rest t last u → Leads pass (passes + 1) source s last u

namespace Pass
variable {pass : Text → Action Text} {passes : Nat} {source rest last : Text} {s t u : State}

theorem Leads.trans {more : Nat} (first : Leads pass passes source s rest t)
    (second : Leads pass more rest t last u) : Leads pass (more + passes) source s last u := by
  induction first with
  | none => exact second
  | more left made _ ih => exact .more left made (ih second)

theorem Leads.one (left : source ≠ []) (made : pass source s = .ok rest t) :
    Leads pass 1 source s rest t :=
  .more left made .none

/-- The rest of a run is the run from there. -/
theorem Leads.repeated (leads : Leads pass passes source s rest t) (more : Nat) :
    Pass.repeated pass (more + passes) source s = Pass.repeated pass more rest t := by
  induction leads with
  | none => rfl
  | more left made _ ih =>
    rw [← Nat.add_assoc, Pass.repeated_succ left, made]
    exact ih

/-- What a run ends with, it ends with from any moment of it on. -/
theorem Leads.repeated_eq {result : EStateM.Result Error State Unit} {many : Nat}
    (leads : Leads pass passes source s rest t)
    (ended : Pass.repeated pass many source s = some result) :
    Pass.repeated pass many rest t = some result := by
  rw [← leads.repeated]
  exact Pass.repeated_eq_some_of_le (by omega) ended

/-- A pass that fails ends the run. -/
theorem Leads.repeated_of_error {e : Error} (leads : Leads pass passes source s rest t)
    (left : rest ≠ []) (failed : pass rest t = .error e u) :
    Pass.repeated pass (1 + passes) source s = some (.error e u) := by
  rw [leads.repeated, Pass.repeated_succ left, failed]

/-! ### What a stalled pass is blamed on -/

section
variable {words : Dictionary}

theorem blame_of_some {text : Text} (known : words.get? (Text.token source) = some text) :
    blame words source = .endlessWord (Text.lower (Text.token source)) := by
  simp only [blame, Dictionary.contains, known, Option.isSome_some, if_true]

theorem blame_of_none (unknown : words.get? (Text.token source) = none) :
    blame words source = .unknownWord (Text.token source) := by
  simp only [blame, Dictionary.contains, unknown, Option.isSome_none, Bool.false_eq_true, if_false]

end

/-! ### What a run comes to -/

/-- A run ends with a result, given passes enough. -/
def ComesTo (pass : Text → Action Text) (source : Text) (s : State)
    (result : EStateM.Result Error State Unit) : Prop :=
  ∃ passes, Pass.repeated pass passes source s = some result

variable {result : EStateM.Result Error State Unit}

theorem comesTo_nil : ComesTo pass [] s result ↔ result = .ok () s := by
  simp only [ComesTo, repeated_nil, Option.some.injEq, exists_const, eq_comm]

theorem comesTo_of_ok (left : source ≠ []) (made : pass source s = .ok rest t) :
    ComesTo pass source s result ↔ ComesTo pass rest t result := by
  constructor
  · intro comes
    obtain ⟨passes, ended⟩ := comes
    exact ⟨passes, (Leads.one left made).repeated_eq ended⟩
  · intro comes
    obtain ⟨passes, ended⟩ := comes
    exact ⟨passes + 1, by rw [repeated_succ left, made, ← ended]⟩

theorem comesTo_of_error {e : Error} (left : source ≠ []) (failed : pass source s = .error e t) :
    ComesTo pass source s result ↔ result = .error e t := by
  constructor
  · intro comes
    obtain ⟨passes, ended⟩ := comes
    have enough := repeated_eq_some_of_le (Nat.le_add_right passes 1) ended
    rw [repeated_succ left, failed] at enough
    exact (Option.some.inj enough).symm
  · rintro rfl
    exact ⟨1, by rw [repeated_succ left, failed]⟩

/-- Runs whose first passes do the same come to the same. -/
theorem comesTo_congr (left : source ≠ []) (left' : rest ≠ []) (same : pass source s = pass rest t) :
    ComesTo pass source s result ↔ ComesTo pass rest t result := by
  cases made : pass source s with
  | ok last u => rw [comesTo_of_ok left made, comesTo_of_ok left' (same ▸ made)]
  | error e u => rw [comesTo_of_error left made, comesTo_of_error left' (same ▸ made)]

end Pass

/-! ### Ends -/

/-- A report without an error is that of a run which came to the end of its text. -/
theorem Report.map_ofResult_eq_some_iff {run : Option (EStateM.Result Error State Unit)}
    {report : Report} (fine : report.error? = none) :
    run.map Report.ofResult = some report ↔
      ∃ s, run = some (.ok () s) ∧ Report.ofResult (.ok () s) = report := by
  constructor
  · intro ended
    obtain ⟨result, rfl, rfl⟩ := Option.map_eq_some_iff.1 ended
    cases result with
    | ok _ s => exact ⟨s, rfl, rfl⟩
    | error e s => simp [Report.ofResult] at fine
  · rintro ⟨s, rfl, rfl⟩
    rfl

namespace Machine

/-- The run of a text ends with a report, given passes enough. -/
def Ends (machine : Machine) (text : Text) (report : Report) : Prop :=
  ∃ passes, machine.eval? passes text = some report

/-- The run comes to the end of the text and leaves the machine `after`. -/
def Completes (machine : Machine) (text : Text) (after : Machine) : Prop :=
  ∃ report, machine.Ends text report ∧ report.error? = none ∧ report.machine = after

/-- The run is ended by an error, and leaves the machine `after`. -/
def Fails (machine : Machine) (text : Text) (e : Error) (after : Machine) : Prop :=
  ∃ report, machine.Ends text report ∧ report.error? = some e ∧ report.machine = after

variable {machine after : Machine} {text : Text}

/-- A run comes to one end only. -/
theorem Ends.unique {report report' : Report} (ends : machine.Ends text report)
    (ends' : machine.Ends text report') : report = report' := by
  obtain ⟨passes, ended⟩ := ends
  obtain ⟨passes', ended'⟩ := ends'
  obtain ⟨result, run, rfl⟩ := Option.map_eq_some_iff.1 ended
  obtain ⟨result', run', rfl⟩ := Option.map_eq_some_iff.1 ended'
  have more := Pass.repeated_eq_some_of_le (Nat.le_add_right passes passes') run
  have more' := Pass.repeated_eq_some_of_le (Nat.le_add_left passes' passes) run'
  rw [more] at more'
  rw [Option.some.inj more']

theorem completes_iff :
    machine.Completes text after ↔ ∃ s, s.toMachine = after ∧
      Pass.ComesTo Pass.watched text.withPlainSpaces { toMachine := machine } (.ok () s) := by
  constructor
  · rintro ⟨_, ⟨passes, ended⟩, fine, rfl⟩
    obtain ⟨s, run, rfl⟩ := (Report.map_ofResult_eq_some_iff fine).1 ended
    exact ⟨s, rfl, passes, run⟩
  · rintro ⟨s, rfl, passes, run⟩
    exact ⟨_, ⟨passes, by rw [eval?, run]; rfl⟩, rfl, rfl⟩

theorem fails_iff {e : Error} :
    machine.Fails text e after ↔ ∃ s, s.toMachine = after ∧
      Pass.ComesTo Pass.watched text.withPlainSpaces { toMachine := machine } (.error e s) := by
  constructor
  · rintro ⟨_, ⟨passes, ended⟩, failed, rfl⟩
    obtain ⟨result, run, rfl⟩ := Option.map_eq_some_iff.1 ended
    cases result with
    | ok _ s => simp [Report.ofResult] at failed
    | error e' s =>
      obtain rfl : e' = e := by simpa [Report.ofResult] using failed
      exact ⟨s, rfl, passes, run⟩
  · rintro ⟨s, rfl, passes, run⟩
    exact ⟨_, ⟨passes, by rw [eval?, run]; rfl⟩, rfl, rfl⟩

/-- A caller is given the stack of a run that came to the end of its text. -/
theorem Ends.stack?_eq_ok_iff {report : Report} {stack : List Int}
    (ends : machine.Ends text report) :
    report.stack? = .ok stack ↔ ∃ after, machine.Completes text after ∧ after.stack = stack := by
  constructor
  · intro given
    unfold Report.stack? at given
    split at given
    · rename_i fine
      exact ⟨_, ⟨report, ends, fine, rfl⟩, Except.ok.inj given⟩
    · cases given
  · rintro ⟨_, ⟨report', ends', fine, rfl⟩, rfl⟩
    rw [ends.unique ends', Report.stack?, fine]

theorem completes_of_eval? (passes : Nat)
    (ended : (machine.eval? passes text).map (fun report => (report.machine, report.error?)) =
      some (after, none)) : machine.Completes text after := by
  obtain ⟨report, run, told⟩ := Option.map_eq_some_iff.1 ended
  exact ⟨report, ⟨passes, run⟩, congrArg Prod.snd told, congrArg Prod.fst told⟩

theorem fails_of_eval? {e : Error} (passes : Nat)
    (ended : (machine.eval? passes text).map (fun report => (report.machine, report.error?)) =
      some (after, some e)) : machine.Fails text e after := by
  obtain ⟨report, run, told⟩ := Option.map_eq_some_iff.1 ended
  exact ⟨report, ⟨passes, run⟩, congrArg Prod.snd told, congrArg Prod.fst told⟩

end Machine
end WordStack
