import Mathlib.Computability.RegularExpressions
import WordStack.Proofs.CellRange

/-! What the records tell.

A run notes what it does to the dictionary and what it takes from it. Its records
come in rounds, one for each pass: some definitions, at most one expansion, and the
numeral that stopped the commands; the last round lacks the numeral, unless the
pass stalled, and an error that has a kind comes last of all. The definitions, made
again in order, give the dictionary that the run leaves. No definition is noted that
is not made, and none is made that is not noted (`log_tells`). -/
namespace WordStack

namespace Record

/-! ### The form of a log -/

inductive Form where
  | definition
  | expansion
  | numeral
  | abort
deriving DecidableEq, Repr

def form : Record → Form
  | defined .. | redefined .. => .definition
  | expanded _ => .expansion
  | strayNumeral _ => .numeral
  | aborted .. => .abort

namespace Form
open RegularExpression

/-- Any number of definitions. -/
def definitions : RegularExpression Form := star (char definition)

/-- One expansion or none. -/
def atMostOne (form : Form) : RegularExpression Form := 1 + char form

/-- The records of passes that have come to their end. -/
def rounds : RegularExpression Form :=
  star (definitions * atMostOne expansion * char numeral)

/-- The records of a run: rounds, and what is left of one. -/
def unfinished : RegularExpression Form := rounds * definitions * atMostOne expansion

/-- The records of a run that has come to its end. -/
def story : RegularExpression Form := unfinished * atMostOne abort

end Form

/-! ### Definitions made again -/

/-- The dictionary after what a record says was done: a definition takes the place of the name, if
that is known, and else comes last. -/
def replayed (words : Dictionary) : Record → Dictionary
  | defined name text | redefined name text =>
    if words.names.contains name then ⟨words.entries.set (words.names.idxOf name) ⟨name, text⟩⟩
    else ⟨words.entries ++ [⟨name, text⟩]⟩
  | _ => words

/-- The dictionary after what a log says was done, oldest record first. -/
def replay (words : Dictionary) (log : List Record) : Dictionary := log.foldl replayed words

/-- Whether a record says what is so with the dictionary: that a name is new or known, or what a
word stands for. -/
def Fits (words : Dictionary) : Record → Prop
  | defined name _ => name ∉ words.names
  | redefined name _ => name ∈ words.names
  | expanded text => ∃ name, words.find? name = some text
  | strayNumeral _ | aborted .. => True

end Record

namespace Record
variable {words : Dictionary} {record : Record}

theorem form_definition (words : Dictionary) (declaration : Declaration) :
    (Action.definition words declaration).form = .definition := by
  unfold Action.definition
  split <;> rfl

theorem replayed_of_definition (name text : Text) :
    replayed words (defined name text) = words.put name text := by
  simp only [replayed, List.contains_iff_mem]
  split
  · rw [Dictionary.put_of_mem ‹_›]
  · rw [Dictionary.put_of_not_mem ‹_›]

theorem replayed_definition (words : Dictionary) (declaration : Declaration) :
    replayed words (Action.definition words declaration) =
      words.put declaration.name declaration.text := by
  rw [← replayed_of_definition]
  unfold Action.definition
  split <;> rfl

/-- What is noted of a declaration is so: its name is in small letters, so that it is looked up as
it will be kept. -/
theorem fits_definition {declaration : Declaration}
    (small : Text.lower declaration.name = declaration.name) :
    Fits words (Action.definition words declaration) := by
  have known : words.contains declaration.name = true ↔ declaration.name ∈ words.names := by
    rw [Dictionary.contains, Dictionary.get?, small, Dictionary.isSome_find?_iff]
  unfold Action.definition
  split
  · exact known.1 ‹_›
  · exact mt known.2 ‹_›

/-! ### Logs that tell what was done -/

/-- A log, newest record first, tells how a dictionary has come of another: each record says what
was so when it was noted. -/
inductive Tells (start : Dictionary) : List Record → Dictionary → Prop where
  | nil : Tells start [] start
  | cons {log words} (record : Record) : Tells start log words → record.Fits words →
      Tells start (record :: log) (record.replayed words)

variable {start : Dictionary} {log : List Record}

theorem replay_append (before after : List Record) :
    replay start (before ++ after) = replay (replay start before) after :=
  List.foldl_append

theorem Tells.replay_reverse (tells : Tells start log words) :
    replay start log.reverse = words := by
  induction tells with
  | nil => rfl
  | cons record _ _ ih =>
    rw [List.reverse_cons, replay_append, ih]
    rfl

theorem Tells.fits (tells : Tells start log words) {before after : List Record}
    (split : log.reverse = before ++ record :: after) : record.Fits (replay start before) := by
  induction tells generalizing after with
  | nil => simp at split
  | cons last told fits ih =>
    -- the log is newest first: the record is the head, or it was noted before
    rw [List.reverse_cons] at split
    rcases List.eq_nil_or_concat after with rfl | ⟨rest, other, rfl⟩
    · obtain ⟨same, alone⟩ := List.append_inj' split rfl
      obtain rfl : last = record := by simpa using alone
      rw [← same, told.replay_reverse]
      exact fits
    · rw [List.concat_eq_append, ← List.cons_append, ← List.append_assoc] at split
      exact ih (List.append_inj' split rfl).1

end Record

/-! ### Every moment -/

namespace Record.Form
open RegularExpression Computability
variable {form : Form} {before after : List Form}

theorem nil_mem_atMostOne : [] ∈ (atMostOne form).matches' := .inl rfl

theorem self_mem_atMostOne : [form] ∈ (atMostOne form).matches' := .inr rfl

theorem nil_mem_star {P : RegularExpression Form} : [] ∈ P.star.matches' :=
  Language.nil_mem_kstar P.matches'

theorem append_mem_star {P : RegularExpression Form} (many : before ∈ P.star.matches')
    (next : after ∈ P.matches') : before ++ after ∈ P.star.matches' :=
  Set.mem_of_mem_of_subset (Language.append_mem_mul many next)
    (kstar_mul_le_kstar (a := P.matches'))

/-- A stray numeral comes to the end of a round. -/
theorem append_numeral_mem_rounds (told : before ∈ unfinished.matches') :
    before ++ [numeral] ∈ rounds.matches' := by
  obtain ⟨_, ⟨past, done, defined, made, rfl⟩, expanded, once, rfl⟩ := told
  have round : (defined ++ expanded) ++ [numeral] ∈
      (definitions * atMostOne expansion * char numeral).matches' :=
    Language.append_mem_mul (Language.append_mem_mul made once) rfl
  have whole : past ++ ((defined ++ expanded) ++ [numeral]) ∈ rounds.matches' :=
    append_mem_star done round
  simpa only [List.append_assoc] using whole

end Record.Form

namespace Phase
open Record.Form

/-- The forms of what is noted until a run looks for an item of the kind. -/
def soFar : Phase → RegularExpression Record.Form
  | numerals | operators => rounds
  | declarations | word => rounds * definitions
  | commands _ => unfinished

end Phase

namespace Moment
open Record.Form
variable {m m' : Moment} {start : Dictionary}

/-- What is noted on the way to a moment has the forms that belong there. -/
def InForm (m : Moment) : Prop := m.state.log.reverse.map Record.form ∈ m.phase.soFar.matches'

theorem Step.inForm (step : m.Step m') (told : m.InForm) : m'.InForm := by
  unfold InForm at told ⊢
  cases step with
  | numeral _ | noNumeral _ | operator _ _ | noDeclaration _ | command _ _ => exact told
  | noOperator _ =>
    rw [← List.append_nil (List.map _ _)]
    exact Language.append_mem_mul told nil_mem_star
  | @declaration _ _ _ declaration s _ =>
    obtain ⟨past, done, defined, made, told⟩ := told
    rw [List.reverse_cons, List.map_append, ← told, List.append_assoc]
    have form : [(Action.definition s.words declaration).form] = [definition] :=
      congrArg ([·]) (Record.form_definition s.words declaration)
    exact Language.append_mem_mul done (append_mem_star made form)
  | word _ =>
    rw [List.reverse_cons, List.map_append]
    exact Language.append_mem_mul told self_mem_atMostOne
  | noWord _ =>
    rw [← List.append_nil (List.map _ _)]
    exact Language.append_mem_mul told nil_mem_atMostOne
  | @pass _ _ source _ s _ _ _ =>
    show (List.reverse (_ :: s.log)).map Record.form ∈ rounds.matches'
    rw [List.reverse_cons, List.map_append]
    exact append_numeral_mem_rounds told

theorem mem_unfinished_of_soFar (phase : Phase) {forms : List Record.Form}
    (told : forms ∈ phase.soFar.matches') : forms ∈ unfinished.matches' := by
  cases phase with
  | numerals | operators =>
    have whole : (forms ++ []) ++ [] ∈ unfinished.matches' :=
      Language.append_mem_mul (Language.append_mem_mul told nil_mem_star) nil_mem_atMostOne
    simpa only [List.append_nil] using whole
  | declarations | word =>
    have whole : forms ++ [] ∈ unfinished.matches' :=
      Language.append_mem_mul told nil_mem_atMostOne
    simpa only [List.append_nil] using whole
  | commands _ => exact told

/-- The records noted on the way to a moment tell how its dictionary came about. -/
def Told (start : Dictionary) (m : Moment) : Prop :=
  Record.Tells start m.state.log m.state.words

theorem Step.told (step : m.Step m') (told : m.Told start) : m'.Told start := by
  cases step with
  | numeral _ | noNumeral _ | operator _ _ | noOperator _ | noDeclaration _ | noWord _
  | command _ _ => exact told
  | @declaration _ _ _ declaration s found =>
    have small := Declaration.lower_name_of_scan_eq_hit found
    have more := told.cons _ (Record.fits_definition small)
    rwa [Record.replayed_definition] at more
  | word known => exact told.cons (.expanded _) ⟨_, known⟩
  | pass _ _ _ => exact told.cons (.strayNumeral _) trivial

/-- As long as a run goes on, no error is noted. -/
def Unaborted (m : Moment) : Prop := ∀ record ∈ m.state.log, record.form ≠ .abort

theorem Step.unaborted (step : m.Step m') (running : m.Unaborted) : m'.Unaborted := by
  unfold Unaborted at running ⊢
  cases step with
  | numeral _ | noNumeral _ | operator _ _ | noOperator _ | noDeclaration _ | noWord _
  | command _ _ => exact running
  | @declaration _ _ _ declaration s _ =>
    refine List.forall_mem_cons.2 ⟨?_, running⟩
    rw [Record.form_definition]
    decide
  | word _ => exact List.forall_mem_cons.2 ⟨by simp [Record.form], running⟩
  | pass _ _ _ => exact List.forall_mem_cons.2 ⟨by simp [Record.form], running⟩

end Moment

/-! ### Ends -/

/-- The state in which a run ends. -/
def State.ofResult : EStateM.Result Error State Unit → State
  | .ok _ s | .error _ s => s

/-- The record of the error that ended a run, if that has a kind. -/
def Report.abort? (report : Report) : Option Record :=
  report.error?.bind fun e => e.kind.map (Record.aborted · e)

theorem Report.log_ofResult (result : EStateM.Result Error State Unit) :
    (ofResult result).log =
      (State.ofResult result).log.reverse ++ (ofResult result).abort?.toList := by
  cases result with
  | ok _ s => exact (List.append_nil _).symm
  | error e s => rfl

theorem Report.words_ofResult (result : EStateM.Result Error State Unit) :
    (ofResult result).machine.words = (State.ofResult result).words := by
  cases result <;> rfl

theorem Report.aborted_mem_abort? {report : Report} {kind : Kind} {e : Error} :
    Record.aborted kind e ∈ report.abort? ↔ report.error? = some e ∧ e.kind = some kind := by
  simp only [abort?, Option.mem_def, Option.bind_eq_some_iff, Option.map_eq_some_iff]
  constructor
  · rintro ⟨e, failed, kind, known, same⟩
    cases same
    exact ⟨failed, known⟩
  · intro ⟨failed, known⟩
    exact ⟨e, failed, kind, known, rfl⟩

theorem Report.form_of_mem_abort? {report : Report} {record : Record}
    (member : record ∈ report.abort?) : record.form = .abort := by
  simp only [abort?, Option.mem_def, Option.bind_eq_some_iff, Option.map_eq_some_iff] at member
  obtain ⟨e, -, kind, -, rfl⟩ := member
  rfl

namespace Moment
variable {m : Moment} {result : EStateM.Result Error State Unit} {start : Dictionary}

/-- A run that ends leaves the dictionary as it is, and notes at most a last numeral. -/
theorem EndsIn.ofResult (ends : m.EndsIn result) :
    (State.ofResult result).words = m.state.words ∧
      ((State.ofResult result).log = m.state.log ∨
        (∃ asked, m.phase = .commands asked) ∧
          ∃ token, (State.ofResult result).log = .strayNumeral token :: m.state.log) := by
  cases ends with
  | stalled _ _ => exact ⟨rfl, .inr ⟨⟨_, rfl⟩, _, rfl⟩⟩
  | _ => exact ⟨rfl, .inl rfl⟩

end Moment

namespace Machine
open Record.Form
variable {machine : Machine} {text : Text} {report : Report}

/-- What a run has noted before the error that may have ended it. -/
theorem Ends.exists_log (ends : machine.Ends text report) :
    ∃ log, report.log = log.reverse ++ report.abort?.toList ∧
      log.reverse.map Record.form ∈ unfinished.matches' ∧
      Record.Tells machine.words log report.machine.words ∧
      ∀ record ∈ log, record.form ≠ .abort := by
  by_cases left : text = []
  · subst left
    rw [ends_nil_iff] at ends
    subst ends
    exact ⟨[], rfl, Moment.mem_unfinished_of_soFar .numerals nil_mem_star, .nil, nofun⟩
  · obtain ⟨last, result, visits, endsIn, rfl⟩ := (ends_iff_endsIn left).1 ends
    have forms : last.InForm := visits.induction nil_mem_star Moment.Step.inForm
    have told : last.Told machine.words := visits.induction .nil Moment.Step.told
    have running : last.Unaborted := visits.induction nofun Moment.Step.unaborted
    obtain ⟨words, log⟩ := endsIn.ofResult
    refine ⟨_, Report.log_ofResult result, ?_⟩
    rw [Report.words_ofResult, words]
    rcases log with same | ⟨⟨asked, phase⟩, token, more⟩
    · rw [same]
      exact ⟨Moment.mem_unfinished_of_soFar _ forms, told, running⟩
    · -- the pass has stalled, and its numeral makes the last round a whole one
      rw [more]
      unfold Moment.InForm at forms
      rw [phase] at forms
      refine ⟨?_, told.cons (.strayNumeral token) trivial,
        List.forall_mem_cons.2 ⟨by simp [Record.form], running⟩⟩
      rw [List.reverse_cons, List.map_append]
      exact Moment.mem_unfinished_of_soFar .numerals (append_numeral_mem_rounds forms)

theorem Ends.tells (ends : machine.Ends text report) :
    Record.Tells machine.words report.log.reverse report.machine.words := by
  obtain ⟨log, whole, -, told, -⟩ := ends.exists_log
  rw [whole, List.reverse_append, List.reverse_reverse]
  cases abort : report.abort? with
  | none => exact told
  | some record =>
    have form := Report.form_of_mem_abort? abort
    cases record with
    | aborted kind e => exact told.cons (.aborted kind e) trivial
    | _ => cases form -- no other record is of that form

theorem Ends.story (ends : machine.Ends text report) :
    report.log.map Record.form ∈ Record.Form.story.matches' := by
  obtain ⟨log, whole, forms, -, -⟩ := ends.exists_log
  rw [whole, List.map_append]
  refine Language.append_mem_mul forms ?_
  cases abort : report.abort? with
  | none => exact nil_mem_atMostOne
  | some record =>
    rw [Option.toList_some, List.map_singleton, Report.form_of_mem_abort? abort]
    exact self_mem_atMostOne

theorem Ends.aborted_mem_iff (ends : machine.Ends text report) {kind : Kind} {e : Error} :
    .aborted kind e ∈ report.log ↔ report.error? = some e ∧ e.kind = some kind := by
  obtain ⟨log, whole, -, -, running⟩ := ends.exists_log
  rw [whole, List.mem_append, List.mem_reverse, Option.mem_toList, ← Option.mem_def,
    Report.aborted_mem_abort?]
  constructor
  · rintro (early | last)
    · exact absurd rfl (running _ early)
    · exact last
  · exact .inr

/-- The kind that a caller is given is the one that is noted. -/
theorem Ends.kind?_eq_ok_some_iff (ends : machine.Ends text report) {kind : Kind} :
    report.kind? = .ok (some kind) ↔ ∃ e, .aborted kind e ∈ report.log := by
  simp only [ends.aborted_mem_iff]
  constructor
  · intro given
    unfold Report.kind? at given
    split at given
    · cases given
    · rename_i e failed
      split at given
      · rename_i own kind
        obtain rfl := Option.some.inj (Except.ok.inj given)
        exact ⟨e, failed, kind⟩
      · cases given
  · rintro ⟨e, failed, own⟩
    unfold Report.kind?
    rw [failed]
    simp only [own]

theorem Ends.longNumeral {e : Error} (ends : machine.Ends text report)
    (failed : report.error? = some e) (unkind : e.kind = none) :
    ∃ digits, e = .longNumeral digits := by
  obtain ⟨last, s, -, endsIn, -⟩ := fails_iff_endsIn.1 ⟨report, ends, failed, rfl⟩
  exact endsIn.longNumeral unkind

/-- **The records of a run tell the whole story of its dictionary.** They come in rounds of
definitions, at most one expansion and a numeral that stopped the commands, of which the last may
lack the numeral; then comes the error that ended the run, if it has a kind, and no error is
noted but that one. An error without a kind is a numeral that is too long. The definitions made
again give the dictionary that the run leaves, in its order. Each record fits the dictionary as it
is when its turn comes: a word is noted as redefined just if its name is there, and as expanded
with the text that some name has. All this can be read off the messages: no other records have the
same. -/
theorem log_tells (ends : machine.Ends text report) :
    report.log.map Record.form ∈ Record.Form.story.matches' ∧
    (∀ kind e, .aborted kind e ∈ report.log ↔ report.error? = some e ∧ e.kind = some kind) ∧
    (∀ e, report.error? = some e → e.kind = none → ∃ digits, e = .longNumeral digits) ∧
    Record.replay machine.words report.log = report.machine.words ∧
    (∀ before record after, report.log = before ++ record :: after →
      record.Fits (Record.replay machine.words before)) ∧
    ∀ others : List Record, others.map Record.message = report.log.map Record.message →
      others = report.log := by
  have told := ends.tells
  have whole := told.replay_reverse
  rw [List.reverse_reverse] at whole
  refine ⟨ends.story, fun _ _ => ends.aborted_mem_iff, fun _ => ends.longNumeral, whole,
    fun before record after split => ?_, fun others same => ?_⟩
  · exact told.fits ((List.reverse_reverse _).trans split)
  · exact Record.message_injective.list_map same

/-- A run that redefines a word of the machine and defines another, expands both, and ends by an
unknown word. -/
theorem log_tells_unknown_word :
    let machine : Machine := { words := ⟨[⟨"a".toList, "2 3".toList⟩]⟩ }
    let error : Error := .unknownWord "x".toList
    let report : Report := {
      machine :=
        { cells := [5, 7, 1, 1], words := ⟨[⟨"a".toList, "dup".toList⟩, ⟨"b".toList, "5".toList⟩]⟩ }
      log := [.redefined "a".toList "dup".toList, .defined "b".toList "5".toList,
        .expanded "dup".toList, .strayNumeral "7".toList, .expanded "5".toList,
        .strayNumeral "5".toList, .aborted .unknownWord error]
      error? := some error }
    machine.Ends "1 : A dup ; : B 5 ; a 7 b x".toList report ∧
      report.log.map Record.form ∈ Record.Form.story.matches' ∧
      .aborted .unknownWord error ∈ report.log ∧
      Record.replay machine.words report.log = report.machine.words := by
  intro machine error report
  have ends : machine.Ends "1 : A dup ; : B 5 ; a 7 b x".toList report :=
    ⟨4, by decide +kernel⟩
  obtain ⟨story, aborted, -, replayed, -, -⟩ := log_tells ends
  exact ⟨ends, story, (aborted _ _).2 ⟨rfl, rfl⟩, replayed⟩

end Machine
end WordStack
