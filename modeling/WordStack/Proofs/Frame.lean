import WordStack.Proofs.Comparison

/-! What lies below.

A run that finds cells enough does the same whatever lies below its stack, and
leaves that as it was. Only a lack of cells can tell the two stacks apart: an
item that fails for it on the smaller stack may succeed on the larger one. -/
namespace WordStack

/-- The machine with further cells below its own, oldest first. -/
def Machine.atop (below : List Int) (machine : Machine) : Machine :=
  { machine with cells := machine.cells ++ below.reverse }

@[simp] theorem Machine.stack_atop (below : List Int) (machine : Machine) :
    (machine.atop below).stack = below ++ machine.stack := by
  simp [Machine.atop, Machine.stack]

/-- The state with further cells below its own, oldest first. -/
def State.atop (below : List Int) (s : State) : State :=
  { s with toMachine := s.toMachine.atop below }

namespace Comparison

/-- The second state has further cells below those of the first, and nothing is claimed once
cells were lacking on the smaller stack. -/
def frame (below : List Int) : Comparison where
  Alike s t := t = s.atop below
  Left e := e = .stackUnderflow
  Right _ := False

theorem frame_operate (below : List Int) (op : Operator) :
    (frame below).Agree Eq (Action.operate op) (Action.operate op) := by
  rintro ⟨⟨cells, words⟩, log⟩ _ rfl
  rw [Action.operate_eq]
  match cells with
  | [] => exact .left rfl
  | [top] => exact .left rfl
  | right :: left :: rest =>
    simp only [Effect.act, Effect.operate, State.atop, Machine.atop, List.cons_append]
    by_cases zero : op = .divide ∧ right = 0
    · simp only [if_pos zero]
      exact .error rfl
    · simp only [if_neg zero]
      exact .ok rfl rfl

theorem frame_obey (below : List Int) (command : Command) :
    (frame below).Agree Eq (Action.obey command) (Action.obey command) := by
  rintro ⟨⟨cells, words⟩, log⟩ _ rfl
  rw [Action.obey_eq]
  match cells with
  | [] => cases command <;> exact .left rfl
  | [top] =>
    cases command with
    | drop | dup => exact .ok rfl rfl
    | _ => exact .left rfl
  | top :: next :: rest => cases command <;> exact .ok rfl rfl

theorem frame_fair (below : List Int) : (frame below).Fair where
  push cell := by
    rintro s _ rfl
    exact .ok rfl rfl
  operate := frame_operate below
  obey := frame_obey below
  note record alike := by
    subst alike
    rfl
  words alike := by
    subst alike
    rfl
  enter alike _ := by
    subst alike
    rfl

end Comparison

/-- What a run makes of the cells it never lacks is the same on top of any others: it ends in the
same way, with the same records and words, and the cells below are as they were. -/
theorem Machine.eval_atop (below : List Int) (machine : Machine) (text : Text) (passes : Nat)
    (report : Report) (ended : machine.eval? passes text = some report)
    (enough : report.error? ≠ some .stackUnderflow) :
    (machine.atop below).eval? passes text =
      some ⟨report.machine.atop below, report.log, report.error?⟩ := by
  obtain ⟨result, run, rfl⟩ := Option.map_eq_some_iff.1 ended
  have alike : (Comparison.frame below).Alike { toMachine := machine }
      { toMachine := machine.atop below } := rfl
  have runs := (Comparison.frame_fair below).runsMatch passes text.withPlainSpaces alike
  rw [run] at runs
  unfold Machine.eval?
  generalize Pass.repeated Pass.watched passes text.withPlainSpaces
    { toMachine := machine.atop below } = run' at runs ⊢
  cases runs with
  | left lacking => exact absurd (congrArg some lacking) enough
  | right excused => exact excused.elim
  | both ends =>
    cases ends with
    | ok _ after =>
      subst after
      rfl
    | error after =>
      subst after
      rfl
    | left lacking => exact absurd (congrArg some lacking) enough
    | right excused => exact excused.elim

/-- A run that defines a word, expands it and ends at a zero divisor, above two cells. -/
theorem Machine.eval_atop_zero_divisor :
    (Machine.atop [7, 8] { cells := [4] }).eval? 3 ": x dup dup ; 3 X 0 /".toList =
      some ⟨Machine.atop [7, 8] ⟨[0, 3, 3, 3, 4], ⟨[⟨"x".toList, "dup dup".toList⟩]⟩⟩,
        [.defined "x".toList "dup dup".toList, .strayNumeral "3".toList,
          .expanded "dup dup".toList, .strayNumeral "0".toList,
          .aborted .divisionByZero .divisionByZero], some .divisionByZero⟩ :=
  Machine.eval_atop [7, 8] { cells := [4] } ": x dup dup ; 3 X 0 /".toList 3
    ⟨⟨[0, 3, 3, 3, 4], ⟨[⟨"x".toList, "dup dup".toList⟩]⟩⟩,
      [.defined "x".toList "dup dup".toList, .strayNumeral "3".toList,
        .expanded "dup dup".toList, .strayNumeral "0".toList,
        .aborted .divisionByZero .divisionByZero], some .divisionByZero⟩
    (by decide +kernel) (by decide)

end WordStack
