import WordStack.Proofs.Comparison
import WordStack.Proofs.Cutting
import WordStack.Proofs.Ending
import WordStack.Proofs.Entering
import WordStack.Proofs.Lowercase

/-! The dictionaries there are.

A dictionary comes of seeds and of runs, whatever their ends, and every word in it
has passed the checks made on entering: it has a name, which no decimal digit
leads although it was lowered since, and a text with something in it. -/
namespace WordStack

/-- Runs, whatever their ends, lead from one machine to another. -/
inductive Machine.LeadsTo (start : Machine) : Machine → Prop where
  | none : LeadsTo start start
  | run {machine text report} : LeadsTo start machine → machine.Ends text report →
      LeadsTo start report.machine

/-- A run that ends leads on, by its outcome. -/
theorem Machine.LeadsTo.eval? {start machine after : Machine} (leads : LeadsTo start machine)
    (text : Text) (passes : Nat)
    (ended : (machine.eval? passes text).map (·.machine) = some after) : LeadsTo start after := by
  obtain ⟨report, run, rfl⟩ := Option.map_eq_some_iff.1 ended
  exact leads.run ⟨passes, run⟩

namespace Dictionary

/-- The dictionary of a machine that has been seeded with some words and has run some texts. -/
def Obtained (words : Dictionary) : Prop :=
  ∃ seeds start machine, ofEntries seeds = .ok start ∧
    Machine.LeadsTo { words := start } machine ∧ machine.words = words

/-- Every word has passed the checks that are made when it is entered. -/
structure Checked (d : Dictionary) : Prop where
  named : ∀ entry ∈ d.entries, entry.name ≠ []
  letterLed : ∀ entry ∈ d.entries, Text.isDigitLed entry.name = false
  full : ∀ entry ∈ d.entries, ¬ Text.IsGap entry.text

variable {d after : Dictionary} {key text : Text}

theorem checked_empty : Checked {} := ⟨nofun, nofun, nofun⟩

theorem mem_entries_put {entry : Entry} (member : entry ∈ (d.put key text).entries) :
    entry = ⟨key, text⟩ ∨ entry ∈ d.entries := by
  obtain ⟨entries⟩ := d
  simp only [put] at member ⊢
  induction entries with
  | nil => exact .inl (by simpa [place] using member)
  | cons first rest ih =>
    by_cases here : first.name = key
    · simp only [place, if_pos here, List.mem_cons] at member ⊢
      exact member.imp_right .inr
    · simp only [place, if_neg here, List.mem_cons] at member ⊢
      rcases member with same | later
      · exact .inr (.inl same)
      · exact (ih later).imp_right .inr

theorem Checked.set (checked : d.Checked) (entered : d.set key text = .ok after) :
    after.Checked := by
  obtain ⟨named, led, full, rfl⟩ := set_eq_ok_iff.1 entered
  refine ⟨fun entry member => ?_, fun entry member => ?_, fun entry member => ?_⟩
  · rcases mem_entries_put member with rfl | old
    · exact mt Text.lower_eq_nil_iff.1 named
    · exact checked.named entry old
  · rcases mem_entries_put member with rfl | old
    · exact (Text.isDigitLed_lower key).trans led
    · exact checked.letterLed entry old
  · rcases mem_entries_put member with rfl | old
    · exact mt Text.trim_eq_nil_iff.2 full
    · exact checked.full entry old

theorem checked_ofEntries {seeds : List Entry} (seeded : ofEntries seeds = .ok d) : d.Checked := by
  suffices grown : ∀ {seeds : List Entry} {start : Dictionary}, start.Checked →
      seeds.foldlM (fun d entry => d.set entry.name entry.text) start = .ok d → d.Checked from
    grown checked_empty seeded
  intro seeds
  induction seeds with
  | nil =>
    rintro start checked ⟨⟩
    exact checked
  | cons entry rest ih =>
    intro start checked seeded
    rw [List.foldlM_cons] at seeded
    cases first : start.set entry.name entry.text with
    | error e => simp [first, bind, Except.bind] at seeded
    | ok next => exact ih (checked.set first) (by simpa [first, bind, Except.bind] using seeded)

theorem exists_entry_of_get? (known : d.get? key = some text) :
    ∃ entry ∈ d.entries, entry.name = Text.lower key ∧ entry.text = text := by
  obtain ⟨entry, found, rfl⟩ := Option.map_eq_some_iff.1 known
  exact ⟨entry, List.mem_of_find?_eq_some found, by simpa using List.find?_some found, rfl⟩

theorem Checked.get?_nil (checked : d.Checked) : d.get? [] = none := by
  refine Option.eq_none_iff_forall_ne_some.2 fun text known => ?_
  obtain ⟨entry, member, name, -⟩ := exists_entry_of_get? known
  exact checked.named entry member name

theorem Checked.get?_of_isDigitLed (checked : d.Checked)
    (led : Text.isDigitLed key = true) : d.get? key = none := by
  refine Option.eq_none_iff_forall_ne_some.2 fun text known => ?_
  obtain ⟨entry, member, name, -⟩ := exists_entry_of_get? known
  have letter := checked.letterLed entry member
  rw [name, Text.isDigitLed_lower, led] at letter
  cases letter

theorem Checked.not_isGap_of_get? (checked : d.Checked) (known : d.get? key = some text) :
    ¬ Text.IsGap text := by
  obtain ⟨entry, member, -, rfl⟩ := exists_entry_of_get? known
  exact checked.full entry member

theorem Checked.append_ne_nil {behind : Text} (checked : d.Checked)
    (known : d.get? key = some text) : text ++ behind ≠ [] := fun wholeNil => by
  have full := checked.not_isGap_of_get? known
  rw [(List.append_eq_nil_iff.1 wholeNil).1] at full
  exact full Text.isGap_nil

end Dictionary

/-- Where nothing is left before a word would be expanded, a pass has nothing more to do. -/
theorem Pass.back_nil {s : State} (checked : s.words.Checked) : back [] s = .ok [] s := by
  have commands : Command.scan [] = .ok (.miss []) := rfl
  rw [back, Action.bind_of_ok (Action.expand_of_none checked.get?_nil)]
  exact Stage.run_eq_ok_of_miss commands rfl

/-! ### Runs keep what was checked -/

namespace Comparison

/-- The machines are the same, with a dictionary of checked words, and the records may be any.
Nothing is claimed once the first run has met an excused error. -/
def unlogged (Excused : Error → Prop) : Comparison where
  Alike s t := s.toMachine = t.toMachine ∧ s.words.Checked
  Left := Excused
  Right _ := False

variable {Excused : Error → Prop}

theorem unlogged_act (effect : Effect) : (unlogged Excused).Agree Eq effect.act effect.act := by
  rintro ⟨machine, log⟩ ⟨_, log'⟩ ⟨rfl, checked⟩
  simp only [Effect.act]
  split
  · exact .ok rfl ⟨rfl, checked⟩
  · exact .error ⟨rfl, checked⟩

theorem unlogged_fair : (unlogged Excused).Fair where
  push cell := unlogged_act (Effect.push cell)
  operate op := by
    rw [Action.operate_eq]
    exact unlogged_act (Effect.operate op)
  obey command := by
    rw [Action.obey_eq]
    exact unlogged_act (Effect.obey command)
  note _ alike := alike
  words alike := congrArg Machine.words alike.1
  enter alike entered := by
    obtain ⟨same, checked⟩ := alike
    refine ⟨?_, checked.set entered⟩
    rw [same]

end Comparison

namespace Pass
variable {source rest : Text} {s t : State}

theorem checked_of_front (checked : s.words.Checked) (made : front source s = .ok rest t) :
    t.words.Checked := by
  have fair : (Comparison.unlogged fun _ => False).Fair := Comparison.unlogged_fair
  exact ((fair.front source).of_ok ⟨rfl, checked⟩ made made).2.2

theorem Leads.checked {passes : Nat} (leads : Leads watched passes source s rest t)
    (checked : s.words.Checked) : t.words.Checked := by
  have fair : (Comparison.unlogged fun _ => False).Fair := Comparison.unlogged_fair
  induction leads with
  | none => exact checked
  | more _ made _ ih => exact ih ((fair.watched _).of_ok ⟨rfl, checked⟩ made made).2.2

end Pass

theorem Machine.checked_of_ends {machine : Machine} {text : Text} {report : Report}
    (checked : machine.words.Checked) (ends : machine.Ends text report) :
    report.machine.words.Checked := by
  obtain ⟨passes, ended⟩ := ends
  obtain ⟨result, run, rfl⟩ := Option.map_eq_some_iff.1 ended
  have alike : (Comparison.unlogged fun _ => False).Alike { toMachine := machine }
      { toMachine := machine } := ⟨rfl, checked⟩
  have runs := Comparison.unlogged_fair.runsMatch passes text.withPlainSpaces alike
  rw [run] at runs
  obtain ⟨s, ⟨-, after⟩, left⟩ := runs.alike_self (fun _ => id) fun _ => id
  rw [left]
  exact after

/-- **In a dictionary that seeds and runs have led to, every word has passed its checks.** -/
theorem Dictionary.Obtained.checked {words : Dictionary} (obtained : words.Obtained) :
    words.Checked := by
  obtain ⟨seeds, start, machine, seeded, leads, rfl⟩ := obtained
  induction leads with
  | none => exact checked_ofEntries seeded
  | run _ ends ih => exact Machine.checked_of_ends ih ends

end WordStack
