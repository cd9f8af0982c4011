import WordStack.Proofs.Moment
import WordStack.Proofs.WellFormed

/-! Cells stay in range.

A cell comes onto the stack from a numeral that was read as a cell, from an
operator, whose result is wrapped, or from a cell that was there. So at every
moment of every run every cell is in range, on a seeded machine as well; and
an operator is never applied to anything but two cells in range, the right one not
zero if it divides (`cells_ranged`). A run ends by dividing by zero exactly where a
division is found above two cells of which the top one is zero. -/
namespace WordStack

/-- All cells are in range. -/
def Machine.Ranged (machine : Machine) : Prop := ∀ cell ∈ machine.cells, Cell.IsCell cell

/-! ### What operators are applied to -/

namespace Action
variable {op : Operator} {left right : Int} {s t : State}

/-- What an operator does before it is applied: the cells that it is applied to, left one first. -/
def operands (op : Operator) : Action (Int × Int) := do
  if op = .divide && zeroDivisor (← get).cells then
    throw .divisionByZero
  let right ← pop
  let left ← pop
  return (left, right)

/-- An operator is applied to its operands, if it comes to that. -/
theorem operate_eq_operands (op : Operator) :
    operate op = operands op >>= fun (left, right) => push (op.apply left right) := by
  funext s
  rw [operate, operands, get_bind, bind_assoc, get_bind]
  split
  · rfl
  · simp only [pure_bind, bind_assoc]

theorem operands_eq (op : Operator) (s : State) : operands op s =
    match s.cells with
    | right :: left :: below =>
      if op = .divide ∧ right = 0 then .error .divisionByZero s
      else .ok (left, right) { s with cells := below }
    | _ => .error .stackUnderflow { s with cells := [] } := by
  obtain ⟨⟨cells, words⟩, log⟩ := s
  rw [operands, get_bind]
  match cells with
  | [] => cases op <;> rfl
  | [top] =>
    rw [if_neg (by simp [zeroDivisor])]
    rfl
  | right :: left :: below =>
    by_cases zero : op = .divide ∧ right = 0
    · obtain ⟨rfl, rfl⟩ := zero
      rfl
    · simp only [if_neg zero]
      rw [if_neg (by simpa [zeroDivisor_cons] using zero)]
      rfl

theorem cells_of_operands (applied : operands op s = .ok (left, right) t) :
    s.cells = right :: left :: t.cells ∧ (op = .divide → right ≠ 0) := by
  rw [operands_eq] at applied
  split at applied
  · rename_i top next below cells
    split at applied
    · cases applied
    · rename_i fine
      cases applied
      exact ⟨cells, fun divides zero => fine ⟨divides, zero⟩⟩
  · cases applied

end Action

/-! ### Every moment -/

theorem Moment.Step.ranged {m m' : Moment} (step : m.Step m')
    (ranged : m.state.toMachine.Ranged) : m'.state.toMachine.Ranged := by
  cases step with
  | numeral found =>
    have cell := Numeral.isCell_of_readCell (Numeral.scan_eq_hit_iff.1 found).1
    exact Effect.push_ranged cell _ ranged
  | @operator _ _ _ op s _ _ done =>
    have left := Effect.operate_ranged op s.cells ranged
    rw [done] at left
    exact left
  | @command _ _ _ _ command s _ _ done =>
    have left := Effect.obey_ranged command s.cells ranged
    rw [done] at left
    exact left
  | _ => exact ranged

theorem Moment.EndsIn.ranged {m : Moment} {result : EStateM.Result Error State Unit}
    (ends : m.EndsIn result) (ranged : m.state.toMachine.Ranged) :
    (Report.ofResult result).machine.Ranged := by
  cases ends with
  | @operator _ _ _ op s _ _ _ failed =>
    have left := Effect.operate_ranged op s.cells ranged
    rw [failed] at left
    exact left
  | @command _ _ _ _ command s _ _ _ failed =>
    have left := Effect.obey_ranged command s.cells ranged
    rw [failed] at left
    exact left
  | _ => exact ranged

/-! ### What ends a run -/

theorem Pass.kind_blame (words : Dictionary) (source : Text) :
    (blame words source).kind = some .unknownWord := by
  unfold blame
  simp only
  split <;> rfl

namespace Moment
variable {m : Moment} {e : Error} {s : State}

/-- The item that is found has the effect. -/
inductive Meets : Moment → Effect → Prop where
  | operator {start source rest op s} : Operator.scan source = .ok (.hit op rest) →
      Meets ⟨.operators, start, source, s⟩ (Effect.operate op)
  | command {asked start source rest command s} : Command.scan source = .ok (.hit command rest) →
      Meets ⟨.commands asked, start, source, s⟩ (Effect.obey command)

/-- An error comes of the cells, by the effect of an item, or of the text alone. -/
theorem EndsIn.cause (ends : m.EndsIn (.error e s)) :
    (∃ effect, m.Meets effect ∧ effect m.state.cells = .error (e, s.cells) ∧
      s = { m.state with cells := s.cells }) ∨
    (∃ digits, e = .longNumeral digits) ∨ e.kind = some .invalidWord ∨
      e.kind = some .unknownWord := by
  cases ends with
  | numeral refused => exact .inr (.inl (Numeral.exists_of_scan_eq_error refused))
  | operator found failed => exact .inl ⟨_, .operator found, failed, rfl⟩
  | declaration refused => exact .inr (.inr (.inl (Declaration.kind_of_scan_eq_error refused)))
  | token refused =>
    rcases Command.of_scan_eq_error refused with long | rfl
    · exact .inr (.inl long)
    · exact .inr (.inr (.inr rfl))
  | command found failed => exact .inl ⟨_, .command found, failed, rfl⟩
  | stalled _ _ => exact .inr (.inr (.inr (Pass.kind_blame _ _)))

theorem Meets.sound {effect : Effect} (meets : m.Meets effect) : effect.Sound := by
  cases meets with
  | operator _ => exact Effect.operate_sound _
  | command _ => exact Effect.obey_sound _

/-- Only a numeral that is too long ends a run without a kind. -/
theorem EndsIn.longNumeral (ends : m.EndsIn (.error e s)) (unkind : e.kind = none) :
    ∃ digits, e = .longNumeral digits := by
  rcases ends.cause with ⟨effect, meets, failed, -⟩ | long | kind | kind
  · rcases meets.sound _ _ _ failed with rfl | rfl
    · cases unkind
    · cases unkind
  · exact long
  · rw [unkind] at kind
    cases kind
  · rw [unkind] at kind
    cases kind

end Moment

/-! ### Division by zero -/

/-- A zero is divided by where a division meets it on top of another cell, and nothing is taken. -/
theorem Effect.operate_eq_divisionByZero_iff {op : Operator} {cells left : List Int} :
    operate op cells = .error (.divisionByZero, left) ↔
      op = .divide ∧ left = cells ∧ ∃ next below, cells = 0 :: next :: below := by
  unfold operate
  split
  · split
    · rename_i right next below zero
      simp [zero, eq_comm]
    · rename_i right next below fine
      simp only [reduceCtorEq, List.cons.injEq, false_iff]
      intro ⟨divides, _, _, _, zero, _⟩
      exact fine ⟨divides, zero⟩
  · rename_i short
    simp only [Except.error.injEq, Prod.mk.injEq, reduceCtorEq, false_and, false_iff]
    intro ⟨_, _, next, below, cells⟩
    exact short 0 next below cells

theorem Effect.eq_stackUnderflow_of_obey {command : Command} {cells left : List Int} {e : Error}
    (failed : obey command cells = .error (e, left)) : e = .stackUnderflow := by
  unfold obey at failed
  split at failed <;> cases failed
  rfl

/-- A run divides by zero where a division is found above two cells, the top one zero. -/
theorem Moment.endsIn_divisionByZero_iff {m : Moment} {s : State} :
    m.EndsIn (.error .divisionByZero s) ↔ m.phase = .operators ∧ s = m.state ∧
      (∃ rest, Operator.scan m.source = .ok (.hit .divide rest)) ∧
      ∃ next below, m.state.cells = 0 :: next :: below := by
  constructor
  · intro ends
    rcases ends.cause with ⟨effect, meets, failed, left⟩ | ⟨digits, long⟩ | kind | kind
    · cases meets with
      | operator found =>
        obtain ⟨rfl, same, zero⟩ := Effect.operate_eq_divisionByZero_iff.1 failed
        rw [same] at left
        exact ⟨rfl, left, ⟨_, found⟩, zero⟩
      | command found => cases Effect.eq_stackUnderflow_of_obey failed
    · cases long
    · cases kind
    · cases kind
  · obtain ⟨phase, start, source, s⟩ := m
    rintro ⟨rfl, rfl, ⟨rest, found⟩, zero⟩
    exact .operator found (Effect.operate_eq_divisionByZero_iff.2 ⟨rfl, rfl, zero⟩)

/-! ### Runs -/

namespace Machine
variable {machine : Machine} {text : Text}

theorem Ranged.of_visits {m : Moment} (ranged : machine.Ranged) (visits : machine.Visits text m) :
    m.state.toMachine.Ranged :=
  visits.induction ranged Moment.Step.ranged

theorem Ranged.of_ends {report : Report} (ranged : machine.Ranged)
    (ends : machine.Ends text report) : report.machine.Ranged := by
  by_cases left : text = []
  · subst left
    rw [ends_nil_iff] at ends
    subst ends
    exact ranged
  · obtain ⟨last, result, visits, endsIn, rfl⟩ := (ends_iff_endsIn left).1 ends
    exact endsIn.ranged (ranged.of_visits visits)

theorem ranged_of_leadsTo {start : Machine} (ranged : start.Ranged)
    (leads : start.LeadsTo machine) : machine.Ranged := by
  induction leads with
  | none => exact ranged
  | run _ ends ih => exact ih.of_ends ends

/-- **Every cell is in range, and so is what operators are applied to.** Of a machine that began
with any words and no cells, whatever has been run on it, all cells are in range, and so they are at
every moment of a further run and at its end. An operator is applied to its operands and to nothing
else: two cells in range, of which the right one is not zero in a division. The run ends by a
division by zero if and only if it comes to a division above two cells of which the top one is zero,
which it leaves as they were. -/
theorem cells_ranged {words : Dictionary} (leads : Machine.LeadsTo { words } machine)
    (text : Text) :
    (∀ op, Action.operate op =
      Action.operands op >>= fun (left, right) => Action.push (op.apply left right)) ∧
    (∀ cell ∈ machine.cells, Cell.IsCell cell) ∧
    (∀ m, machine.Visits text m →
      (∀ cell ∈ m.state.cells, Cell.IsCell cell) ∧
      ∀ op left right s, m.phase = .operators →
        (∃ rest, Operator.scan m.source = .ok (.hit op rest)) →
        Action.operands op m.state = .ok (left, right) s →
        Cell.IsCell left ∧ Cell.IsCell right ∧ (op = .divide → right ≠ 0)) ∧
    (∀ report, machine.Ends text report → ∀ cell ∈ report.machine.cells, Cell.IsCell cell) ∧
    ∀ after, machine.Fails text .divisionByZero after ↔
      ∃ m, machine.Visits text m ∧ m.phase = .operators ∧
        (∃ rest, Operator.scan m.source = .ok (.hit .divide rest)) ∧
        (∃ next below, m.state.cells = 0 :: next :: below) ∧ m.state.toMachine = after := by
  have begins : Machine.Ranged { words } := by
    intro cell member
    cases member
  have ranged := ranged_of_leadsTo begins leads
  refine ⟨Action.operate_eq_operands, ranged, fun m visits => ?_,
    fun report ends => ranged.of_ends ends, fun after => ?_⟩
  · have there := ranged.of_visits visits
    refine ⟨there, fun op left right s _ _ applied => ?_⟩
    obtain ⟨cells, divisor⟩ := Action.cells_of_operands applied
    unfold Machine.Ranged at there
    rw [cells] at there
    simp only [List.forall_mem_cons] at there
    exact ⟨there.2.1, there.1, divisor⟩
  · rw [fails_iff_endsIn]
    constructor
    · intro ⟨m, s, visits, ends, same⟩
      obtain ⟨phase, rfl, found, zero⟩ := Moment.endsIn_divisionByZero_iff.1 ends
      exact ⟨m, visits, phase, found, zero, same⟩
    · intro ⟨m, visits, phase, found, zero, same⟩
      exact ⟨m, m.state, visits, Moment.endsIn_divisionByZero_iff.2 ⟨phase, rfl, found, zero⟩, same⟩

/-- On a seeded machine, on which the least cell was divided by minus one: a run that divides by
zero, which leaves its operands. -/
theorem cells_ranged_zero_divisor :
    let words : Dictionary := ⟨[⟨"half".toList, "2 /".toList⟩]⟩
    let machine : Machine := { cells := [-2147483648], words }
    let after : Machine := { cells := [0, 7, -2147483648], words }
    Machine.LeadsTo { words } machine ∧ (∀ cell ∈ machine.cells, Cell.IsCell cell) ∧
      machine.Fails "7 0 /".toList .divisionByZero after := by
  intro words machine after
  have leads : Machine.LeadsTo { words } machine :=
    Machine.LeadsTo.none.eval? "-2147483648 -1 /".toList 1 (by decide +kernel)
  have seven : Numeral.scan "7 0 /".toList = .ok (.hit 7 "0 /".toList) := by decide +kernel
  have zero : Numeral.scan "0 /".toList = .ok (.hit 0 "/".toList) := by decide +kernel
  have noNumeral : Numeral.scan "/".toList = .ok (.miss "/".toList) := by decide +kernel
  have divide : Operator.scan "/".toList = .ok (.hit .divide []) := by decide +kernel
  have visits : machine.Visits "7 0 /".toList
      ⟨.operators, "7 0 /".toList, "/".toList, { toMachine := after }⟩ :=
    ⟨by decide, .head (.numeral seven) (.head (.numeral zero) (.single (.noNumeral noNumeral)))⟩
  obtain ⟨-, cells, -, -, divided⟩ := cells_ranged leads "7 0 /".toList
  exact ⟨leads, cells, (divided after).2 ⟨_, visits, rfl, ⟨[], divide⟩, ⟨7, _, rfl⟩, rfl⟩⟩

end Machine
end WordStack
