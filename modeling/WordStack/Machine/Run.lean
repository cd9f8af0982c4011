import WordStack.Machine.Pass

/-! Runs: a program from beginning to end.

A run makes passes over the text until nothing is left of it. A text can call its
own words without end, so a run is given the number of passes it may take, and has
no outcome if that is not enough. A run that comes to an end within some number of
passes comes to the same end within any greater number
(`repeated_eq_some_of_le`). A caller is given the stack that is left
(`Report.stack?`) or the kind of what went wrong (`Report.kind?`). -/
namespace WordStack

/-- Makes passes until no text is left, if that takes no more than the given number. -/
def Pass.repeated (pass : Text → Action Text) :
    Nat → Text → State → Option (EStateM.Result Error State Unit)
  | _, [], s => some (.ok () s)
  | 0, _ :: _, _ => none
  | passes + 1, c :: source, s => match pass (c :: source) s with
    | .ok rest s => Pass.repeated pass passes rest s
    | .error e s => some (.error e s)

@[simp] theorem Pass.repeated_nil {pass : Text → Action Text} {passes : Nat} {s : State} :
    Pass.repeated pass passes [] s = some (.ok () s) := by
  cases passes <;> rfl

theorem Pass.repeated_succ {pass : Text → Action Text} {passes : Nat} {source : Text} {s : State}
    (left : source ≠ []) :
    Pass.repeated pass (passes + 1) source s =
      match pass source s with
      | .ok rest s => Pass.repeated pass passes rest s
      | .error e s => some (.error e s) := by
  cases source with
  | nil => exact absurd rfl left
  | cons c source => rfl

theorem Pass.repeated_eq_some_of_le {pass : Text → Action Text} {few many : Nat} {source : Text}
    {s : State} {result : EStateM.Result Error State Unit} (enough : few ≤ many)
    (ended : Pass.repeated pass few source s = some result) :
    Pass.repeated pass many source s = some result := by
  by_cases sourceNil : source = []
  · simpa [sourceNil] using ended
  induction few generalizing many source s with
  | zero =>
    cases source with
    | nil => exact absurd rfl sourceNil
    | cons c source => simp [Pass.repeated] at ended
  | succ few ih =>
    obtain ⟨many, rfl⟩ : ∃ more, many = more + 1 := ⟨many - 1, by omega⟩
    rw [Pass.repeated_succ sourceNil] at ended ⊢
    split at ended
    · rename_i rest s made
      by_cases finished : rest = []
      · simpa [finished] using ended
      · exact ih (by omega) ended finished
    · exact ended

/-- What a run ends with. -/
structure Report where
  machine : Machine
  /-- The records noted, oldest first. -/
  log : List Record
  /-- The error that ended the run, if one did. -/
  error? : Option Error
deriving DecidableEq, Repr

/-- The report of a run. An error that has a kind is noted last. -/
def Report.ofResult : EStateM.Result Error State Unit → Report
  | .ok _ s => ⟨s.toMachine, s.log.reverse, none⟩
  | .error e s =>
    ⟨s.toMachine, s.log.reverse ++ (e.kind.map (Record.aborted · e)).toList, some e⟩

/-- Runs a text on a machine, with watched passes. There is no report if it takes more passes
than are given. -/
def Machine.eval? (passes : Nat) (machine : Machine) (source : Text) : Option Report :=
  (Pass.repeated Pass.watched passes (Text.withPlainSpaces source) { toMachine := machine }).map
    Report.ofResult

/-! ### What a caller is given -/

/-- Runs a text on a machine that is given, or else on a fresh one. -/
def Machine.evaluate? (passes : Nat) (machine? : Option Machine) (source : Text) : Option Report :=
  (machine?.getD {}).eval? passes source

/-- The stack that a run leaves, or the error that ended it. -/
def Report.stack? (report : Report) : Except Error (List Int) :=
  match report.error? with
  | none => .ok report.machine.stack
  | some e => .error e

/-- The kind of the error that ended a run, if one did. An error without a kind stays an error. -/
def Report.kind? (report : Report) : Except Error (Option Kind) :=
  match report.error? with
  | none => .ok none
  | some e => match e.kind with
    | some kind => .ok (some kind)
    | none => .error e

end WordStack
