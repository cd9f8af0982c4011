import WordStack.Proofs.Comparison
import WordStack.Proofs.Ending

/-! What the stack cannot decide.

An item may fail for what it meets on the stack, but if it does not, the cells have
no say in what comes next: what is recognised, declared and expanded depends on
the text and the dictionary alone, and an item adds or takes away the same number
of cells wherever it acts (`Effect.Gains`). So two runs of one text that differ in
their stacks only, and are not ended by them, end alike (`ends_alike`). -/
namespace WordStack

/-! ### What an item adds to the height -/

/-- How many cells a command leaves more than it finds. -/
def Command.gain : Command → Int
  | .drop => -1
  | .dup => 1
  | .swap => 0
  | .over => 1

namespace Effect

/-- Where the effect succeeds, it leaves so many cells more than it finds. -/
def Gains (effect : Effect) (gain : Int) : Prop :=
  ∀ cells left, effect cells = .ok left → (left.length : Int) = cells.length + gain

theorem push_gains (cell : Int) : Gains (push cell) 1 := by
  intro cells left done
  cases done
  rfl

theorem operate_gains (op : Operator) : Gains (operate op) (-1) := by
  intro cells left done
  unfold operate at done
  split at done
  · split at done
    · cases done
    · cases done
      simp only [List.length_cons]
      omega
  · cases done

theorem obey_gains (command : Command) : Gains (obey command) command.gain := by
  intro cells left done
  unfold obey at done
  split at done <;> cases done <;> simp only [List.length_cons, Command.gain] <;> omega

end Effect

/-! ### Two runs on two stacks -/

namespace Comparison

/-- The dictionaries and the records are the same, and the stacks differ in height as much as two
others of the given heights. Nothing is claimed after an error that comes of the cells. -/
def heights (height height' : Nat) : Comparison where
  Alike s t := s.words = t.words ∧ s.log = t.log ∧
    s.cells.length + height' = t.cells.length + height
  Left := Effect.IsStackError
  Right := Effect.IsStackError

variable {height height' : Nat}

theorem heights_act {effect : Effect} {gain : Int} (sound : effect.Sound)
    (gains : effect.Gains gain) :
    (heights height height').Agree Eq effect.act effect.act := by
  intro s t alike
  obtain ⟨words, log, heights⟩ := alike
  simp only [Effect.act]
  cases first : effect s.cells with
  | error failed => exact .left (sound _ _ _ first)
  | ok cells =>
    cases second : effect t.cells with
    | error failed => exact .right (sound _ _ _ second)
    | ok cells' =>
      have left := gains _ _ first
      have right := gains _ _ second
      have heights' : cells.length + height' = cells'.length + height := by omega
      exact .ok rfl ⟨words, log, heights'⟩

theorem heights_fair : (heights height height').Fair where
  push cell := heights_act (Effect.push_sound cell) (Effect.push_gains cell)
  operate op := by
    rw [Action.operate_eq]
    exact heights_act (Effect.operate_sound op) (Effect.operate_gains op)
  obey command := by
    rw [Action.obey_eq]
    exact heights_act (Effect.obey_sound command) (Effect.obey_gains command)
  note record alike := ⟨alike.1, congrArg (record :: ·) alike.2.1, alike.2.2⟩
  words alike := alike.1
  enter alike _ := ⟨rfl, alike.2⟩

end Comparison

namespace Machine

/-- **The stack has no say.** Two runs of one text with one dictionary, on any two stacks, end
alike unless one of them is ended by its cells: without an error or with the same one, with the same
words and records, and with as many cells more or less than at the beginning. -/
theorem ends_alike {words : Dictionary} {cells cells' : List Int} {text : Text}
    {report report' : Report}
    (ends : Machine.Ends { cells, words } text report)
    (ends' : Machine.Ends { cells := cells', words } text report')
    (clear : ∀ e, report.error? = some e → ¬ Effect.IsStackError e)
    (clear' : ∀ e, report'.error? = some e → ¬ Effect.IsStackError e) :
    report.error? = report'.error? ∧ report.machine.words = report'.machine.words ∧
      report.log = report'.log ∧
      (report.machine.stack.length : Int) - cells.length =
        report'.machine.stack.length - cells'.length := by
  obtain ⟨passes, ended⟩ := ends
  obtain ⟨passes', ended'⟩ := ends'
  obtain ⟨result, run, rfl⟩ := Option.map_eq_some_iff.1 ended
  obtain ⟨result', run', rfl⟩ := Option.map_eq_some_iff.1 ended'
  have alike : (Comparison.heights cells.length cells'.length).Alike
      { toMachine := { cells, words } } { toMachine := { cells := cells', words } } :=
    ⟨rfl, rfl, Nat.add_comm ..⟩
  have runs := Comparison.heights_fair.runsMatch (passes + passes') text.withPlainSpaces alike
  rw [Pass.repeated_eq_some_of_le (Nat.le_add_right ..) run,
    Pass.repeated_eq_some_of_le (Nat.le_add_left ..) run'] at runs
  cases runs with
  | left stack => exact absurd stack (clear _ rfl)
  | right stack => exact absurd stack (clear' _ rfl)
  | both ends =>
    cases ends with
    | left stack => exact absurd stack (clear _ rfl)
    | right stack => exact absurd stack (clear' _ rfl)
    | ok _ after =>
      obtain ⟨words, log, heights⟩ := after
      simp only [Report.ofResult, stack, List.length_reverse]
      exact ⟨trivial, words, congrArg List.reverse log, by omega⟩
    | error after =>
      obtain ⟨words, log, heights⟩ := after
      simp only [Report.ofResult, stack, List.length_reverse]
      exact ⟨trivial, words, by rw [log], by omega⟩

/-- Runs that declare a word, expand it and end at an unknown one, on no cells and on two. -/
theorem ends_alike_unknown_word :
    let words : Dictionary := ⟨[⟨"inc".toList, "1 +".toList⟩]⟩
    let log : List Record := [.defined "inc".toList "1 +".toList, .strayNumeral "3".toList,
      .expanded "1 +".toList, .strayNumeral "1".toList, .strayNumeral "2".toList,
      .aborted .unknownWord (.unknownWord "nope".toList)]
    let report : Report := ⟨{ cells := [2, 4], words }, log, some (.unknownWord "nope".toList)⟩
    let report' : Report :=
      ⟨{ cells := [2, 4, 0, 7], words }, log, some (.unknownWord "nope".toList)⟩
    let text := ": inc 1 + ; 3 INC 2 nope".toList
    Machine.Ends {} text report ∧ Machine.Ends { cells := [0, 7] } text report' ∧
      (report.machine.stack.length : Int) - ([] : List Int).length =
        report'.machine.stack.length - [(0 : Int), 7].length := by
  intro words log report report' text
  have ends : Machine.Ends {} text report := ⟨5, by decide +kernel⟩
  have ends' : Machine.Ends { cells := [0, 7] } text report' := ⟨5, by decide +kernel⟩
  have clear : ∀ e, some (Error.unknownWord "nope".toList) = some e → ¬ Effect.IsStackError e := by
    rintro e ⟨⟩
    simp [Effect.IsStackError]
  exact ⟨ends, ends', (ends_alike ends ends' clear clear).2.2.2⟩

end Machine
end WordStack
