import WordStack.Proofs.CellRange
import WordStack.Proofs.Entering

/-! What a failed run leaves.

Nothing is put back where an item fails. An operator or a command that lacks cells
has taken what cells there were, so the stack is empty afterwards, whatever was on
it. A division by zero is found before anything is taken, so the zero and what it
was to divide are still there, and so is everything below. The dictionary keeps
the declarations that were found on the way and nothing else has entered it, in
whatever pass they were found and whether or not a word was expanded in between. -/
namespace WordStack

/-! ### Effects that lack cells -/

namespace Effect
variable {cells left : List Int}

/-- An operator lacks cells just if there are not two, whatever they are. -/
theorem operate_eq_stackUnderflow_iff {op : Operator} :
    operate op cells = .error (.stackUnderflow, left) ↔ cells.length < 2 ∧ left = [] := by
  match cells with
  | [] => simp [operate, eq_comm]
  | [top] => simp [operate, eq_comm]
  | right :: left' :: below =>
    have enough : ¬ (right :: left' :: below).length < 2 := Nat.not_lt.2 (Nat.le_add_left 2 _)
    simp only [enough, false_and, iff_false, operate]
    split <;> simp

theorem of_obey_eq_error {command : Command} {e : Error}
    (failed : obey command cells = .error (e, left)) : cells.length < 2 ∧ left = [] := by
  match cells with
  | [] => cases command <;> cases failed <;> simp
  | [top] => cases command <;> cases failed <;> simp
  | top :: next :: below => cases command <;> cases failed

end Effect

theorem Dictionary.enterAll_append (d : Dictionary) (first later : List Declaration) :
    d.enterAll (first ++ later) = (d.enterAll first).enterAll later :=
  List.foldl_append

namespace Moment
variable {m m' last : Moment} {e : Error} {s : State} {declared : List Declaration}

/-! ### Declarations on the way -/

/-- The declaration that is found at the moment, if declarations are looked for and there is one. -/
def declaration? (m : Moment) : Option Declaration :=
  match m.phase, Declaration.scan m.source with
  | .declarations, .ok found => found.value?
  | _, _ => none

/-- Steps lead from one moment to another, and the declarations are those found on the way, in
order. -/
inductive Declares (m : Moment) : List Declaration → Moment → Prop where
  | none : Declares m [] m
  | step {declared before after} : Declares m declared before → before.Step after →
      Declares m (declared ++ before.declaration?.toList) after

/-- A step enters the declaration that is found, and leaves the words alone if none is. -/
theorem Step.words (step : m.Step m') :
    m'.state.words = m.state.words.enterAll m.declaration?.toList := by
  cases step with
  | @declaration start source rest declaration s found =>
    have here : declaration? ⟨.declarations, start, source, s⟩ = some declaration := by
      simp only [declaration?, found]
      rfl
    have small := Declaration.lower_name_of_scan_eq_hit found
    rw [here, Option.toList_some, Dictionary.enterAll_cons, small]
    rfl
  | @noDeclaration start source missed s found =>
    have undeclared : declaration? ⟨.declarations, start, source, s⟩ = none := by
      simp only [declaration?, found]
      rfl
    rw [undeclared]
    rfl
  | _ => rfl

theorem Declares.words (declares : m.Declares declared last) :
    last.state.words = m.state.words.enterAll declared := by
  induction declares with
  | none => rfl
  | step _ step ih => rw [step.words, ih, Dictionary.enterAll_append]

theorem Leads.exists_declares (leads : m.Leads last) : ∃ declared, m.Declares declared last := by
  induction leads with
  | refl => exact ⟨[], .none⟩
  | tail _ step ih =>
    obtain ⟨declared, declares⟩ := ih
    exact ⟨_, declares.step step⟩

/-! ### Last moments -/

theorem EndsIn.words (ends : m.EndsIn (.error e s)) : s.words = m.state.words := by
  cases ends <;> rfl

/-- Whatever lacks cells leaves none. -/
theorem EndsIn.stackUnderflow (ends : m.EndsIn (.error .stackUnderflow s)) :
    m.state.cells.length < 2 ∧ s.cells = [] := by
  rcases ends.cause with ⟨effect, meets, failed, -⟩ | ⟨digits, long⟩ | kind | kind
  · cases meets with
    | operator found => exact Effect.operate_eq_stackUnderflow_iff.1 failed
    | command found => exact Effect.of_obey_eq_error failed
  · cases long
  · cases kind
  · cases kind

end Moment

namespace Machine

/-- **What a failed run leaves.** On any machine, a run that fails comes to a last moment, at which
the dictionary is the one it began with and the declarations found up to there, in order; and that
is left. If it fails for want of cells there was at most one, and none is left. If it fails for a
division by zero, a division is found there above two cells, the top one zero, and all cells are
left as they are. -/
theorem fails_leaves {machine after : Machine} {text : Text} {e : Error}
    (fails : machine.Fails text e after) :
    ∃ declared last s,
      (Moment.begin text.withPlainSpaces { toMachine := machine }).Declares declared last ∧
      last.EndsIn (.error e s) ∧ s.toMachine = after ∧
      after.words = machine.words.enterAll declared ∧
      (e = .stackUnderflow → last.state.cells.length < 2 ∧ after.cells = []) ∧
      (e = .divisionByZero → last.phase = .operators ∧
        (∃ rest, Operator.scan last.source = .ok (.hit .divide rest)) ∧
        after.cells = last.state.cells ∧ ∃ next below, after.cells = 0 :: next :: below) := by
  obtain ⟨last, s, ⟨-, leads⟩, ends, rfl⟩ := fails_iff_endsIn.1 fails
  obtain ⟨declared, declares⟩ := leads.exists_declares
  refine ⟨declared, last, s, declares, ends, rfl, ?_, ?_, ?_⟩
  · rw [ends.words, declares.words]
    rfl
  · intro short
    subst short
    exact ends.stackUnderflow
  · intro zero
    subst zero
    obtain ⟨phase, rfl, found, cells⟩ := Moment.endsIn_divisionByZero_iff.1 ends
    exact ⟨phase, found, rfl, cells⟩

/-- Both runs declare words before they fail, and one of them takes up one of its words. -/
theorem fails_leaves_operands :
    let words : Dictionary := ⟨[⟨"sq".toList, "dup *".toList⟩]⟩
    let machine : Machine := { cells := [4], words }
    let short : Machine := { words := ⟨[⟨"sq".toList, "2".toList⟩, ⟨"a".toList, "1".toList⟩]⟩ }
    let zero : Machine := {
      cells := [0, 7, 4]
      words := ⟨[⟨"sq".toList, "dup *".toList⟩, ⟨"b".toList, "3".toList⟩]⟩ }
    (machine.Fails ": a 1 ; : SQ 2 ; a drop over".toList .stackUnderflow short ∧
        ∃ declared, short.words = machine.words.enterAll declared ∧ short.cells = []) ∧
      machine.Fails ": B 3 ; 7 0 / : c 4 ;".toList .divisionByZero zero ∧
        ∃ declared, zero.words = machine.words.enterAll declared ∧
          ∃ next below, zero.cells = 0 :: next :: below := by
  intro words machine short zero
  have lacks : machine.Fails ": a 1 ; : SQ 2 ; a drop over".toList .stackUnderflow short :=
    fails_of_eval? 3 (by decide +kernel)
  have divides : machine.Fails ": B 3 ; 7 0 / : c 4 ;".toList .divisionByZero zero :=
    fails_of_eval? 3 (by decide +kernel)
  obtain ⟨declared, last, s, -, -, -, words, left, -⟩ := fails_leaves lacks
  obtain ⟨declared', last', s', -, -, -, words', -, left'⟩ := fails_leaves divides
  exact ⟨⟨lacks, declared, words, (left rfl).2⟩, divides, declared', words', (left' rfl).2.2.2⟩

end Machine
end WordStack
