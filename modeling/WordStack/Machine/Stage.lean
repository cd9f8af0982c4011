import WordStack.Machine.Basic

/-! The stages of a pass: one kind of item at a time.

A stage recognises items of its kind at the front of the text and acts on each,
until there is no item of its kind. Whatever the recogniser leaves on a miss is
not adopted: the stage hands on the text as it stood there. A stage ends because
its recogniser consumes. -/
namespace WordStack

/-- A kind of item: how it is recognised, what it does, what is noted when no further item is
found. -/
structure Stage (α : Type) where
  scan : Text → Except Error (Scan α)
  act : α → Action Unit
  stop : Text → Action Unit := fun _ => pure ()
  consumes : Consumes scan

/-- Takes items off the front as long as there are any, and gives what is left. -/
def Stage.run {α : Type} (stage : Stage α) (source : Text) : Action Text :=
  match _ : stage.scan source with
  | .error e => throw e
  | .ok (.miss _) => do
    stage.stop source
    return source
  | .ok (.hit value rest) => do
    stage.act value
    stage.run rest
termination_by source.length
decreasing_by exact stage.consumes ‹_›

namespace Stage
variable {α : Type} {stage : Stage α} {source : Text}

theorem run_of_error {e : Error} (found : stage.scan source = .error e) :
    stage.run source = throw e := by
  rw [run]
  split <;> simp_all

theorem run_of_miss {rest : Text} (found : stage.scan source = .ok (.miss rest)) :
    stage.run source = (do stage.stop source; return source) := by
  rw [run]
  split <;> simp_all

theorem run_eq_ok_of_miss {rest : Text} {s t : State}
    (found : stage.scan source = .ok (.miss rest)) (stopped : stage.stop source s = .ok () t) :
    stage.run source s = .ok source t := by
  rw [run_of_miss found]
  simp only [bind, EStateM.bind, stopped]
  rfl

theorem run_of_hit {value : α} {rest : Text} (found : stage.scan source = .ok (.hit value rest)) :
    stage.run source = (do stage.act value; stage.run rest) := by
  rw [run]
  split <;> simp_all

/-- A stage that comes to its end leaves a text in which its recogniser finds nothing. -/
theorem scan_of_run_eq_ok {rest : Text} {s t : State} (ran : stage.run source s = .ok rest t) :
    ∃ missed, stage.scan rest = .ok (.miss missed) := by
  induction source using Stage.run.induct stage generalizing s with
  | case1 source e found =>
    rw [run_of_error found] at ran
    cases ran
  | case2 source missed found =>
    rw [run_of_miss found] at ran
    simp only [bind, EStateM.bind] at ran
    split at ran
    · cases ran
      exact ⟨missed, found⟩
    · cases ran
  | case3 source value left found ih =>
    rw [run_of_hit found] at ran
    simp only [bind, EStateM.bind] at ran
    split at ran
    · exact ih ran
    · cases ran

/-- Each numeral is pushed. -/
def numerals : Stage Int where
  scan := Numeral.scan
  act := Action.push
  consumes := Numeral.scan_consumes

def operators : Stage Operator where
  scan := Operator.scan
  act := Action.operate
  consumes := Operator.scan_consumes

def declarations : Stage Declaration where
  scan := Declaration.scan
  act := Action.declare
  consumes := Declaration.scan_consumes

/-- Commands are obeyed. What stops them, short of an error and the end of the text, is a
numeral. -/
def commands : Stage Command where
  scan := Command.scan
  act := Action.obey
  stop := fun source =>
    if source = [] then pure ()
    else Action.note (.strayNumeral (Text.lower (Text.token source)))
  consumes := Command.scan_consumes

end Stage
end WordStack
