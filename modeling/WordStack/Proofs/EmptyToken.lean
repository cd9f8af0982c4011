import WordStack.Proofs.CellRange
import WordStack.Proofs.Plainness
import WordStack.Proofs.Taking

/-! The empty token.

Where a text begins with whitespace its first token is empty, and nothing is found
there: an empty token is no numeral, no word has its name, and the commands refuse
it as unknown. A program that begins with a blank fails so at once. On a machine that
began empty no other does. What is left behind an item begins with a token if it is
not empty, and so does the text of a word, so that no empty token is ever met further
on (`fails_on_empty_token_iff`). -/
namespace WordStack

/-! ### The message -/

theorem Error.message_eq_iff {e : Error} :
    e.message = "unknown word ''" ↔ e = .unknownWord [] := by
  have wording : "unknown word ''" = (Error.unknownWord []).message := by decide
  rw [wording, Error.message_injective.eq_iff]

/-! ### Moments at a token -/

namespace Moment

/-- What is left begins with a token, if it is not empty; and so did the text in which a word was
looked for, with which nothing else is left. -/
structure AtToken (m : Moment) : Prop where
  led : Text.isSpaceLed m.source = false
  asked : ∀ asked, m.phase = .commands asked →
    Text.isSpaceLed asked = false ∧ (asked = [] → m.source = [])

variable {m m' : Moment} {e : Error} {s : State}

theorem Step.atToken (step : m.Step m') (good : m.state.toMachine.WellFormed)
    (before : m.AtToken) : m'.AtToken := by
  have led := before.led
  cases step with
  | numeral found => exact ⟨(Numeral.parted_of_scan found).1.led, nofun⟩
  | operator found => exact ⟨(Operator.parted_of_scan found).led, nofun⟩
  | declaration found =>
    obtain ⟨inside, -, -, parted⟩ := Declaration.parted_of_scan found
    exact ⟨parted.led, nofun⟩
  | noNumeral | noOperator | noDeclaration => exact ⟨led, nofun⟩
  | @word _ source text s known =>
    obtain ⟨entry, member, name, rfl⟩ := Dictionary.exists_entry_of_get? known
    have word := good.words.words entry member
    refine ⟨?_, ?_⟩
    · rw [Text.isSpaceLed_append word.full]
      exact word.trimmed.led
    · rintro _ ⟨⟩
      refine ⟨led, ?_⟩
      rintro rfl
      exact absurd name word.named
  | noWord =>
    refine ⟨led, ?_⟩
    rintro _ ⟨⟩
    exact ⟨led, id⟩
  | command found =>
    refine ⟨(Command.parted_of_scan found).1.led, ?_⟩
    rintro asked ⟨⟩
    obtain ⟨led', askedNil⟩ := before.asked _ rfl
    refine ⟨led', fun nothingAsked => ?_⟩
    have left := (Command.scan_eq_hit_iff.1 found).1
    exact absurd (askedNil nothingAsked) left
  | pass => exact ⟨led, nofun⟩

/-- At a token, no error is about the empty one. -/
theorem EndsIn.ne_unknownWord_nil (ends : m.EndsIn (.error e s)) (before : m.AtToken) :
    e ≠ .unknownWord [] := by
  intro same
  cases ends with
  | numeral refused =>
    obtain ⟨count, rfl⟩ := Numeral.exists_of_scan_eq_error refused
    cases same
  | operator found failed =>
    rcases Effect.operate_sound _ _ _ _ failed with rfl | rfl
    · cases same
    · cases same
  | declaration refused =>
    subst same
    cases Declaration.kind_of_scan_eq_error refused
  | @token _ _ source _ _ refused =>
    subst same
    rcases Command.of_scan_eq_error refused with ⟨count, long⟩ | unknown
    · cases long
    · have tokenNil := Text.lower_eq_nil_iff.1 (Error.unknownWord.inj unknown).symm
      have sourceNil : source = [] := by
        by_contra left
        exact Text.token_ne_nil left before.led tokenNil
      rw [sourceNil] at refused
      cases refused
  | command found failed =>
    subst same
    cases Effect.eq_stackUnderflow_of_obey failed
  | @stalled asked source missed s left found =>
    -- the blame is on what stood where a word was looked for, and that was a token
    obtain ⟨led, sourceNil⟩ := before.asked asked rfl
    have nonempty := Text.token_ne_nil (mt sourceNil left) led
    cases known : s.words.get? (Text.token asked) with
    | some stored =>
      rw [Pass.blame_of_some known] at same
      cases same
    | none =>
      rw [Pass.blame_of_none known] at same
      exact nonempty (Error.unknownWord.inj same)

end Moment

namespace Machine
variable {machine : Machine} {text : Text}

/-- A text that begins with a blank is refused at once. -/
theorem fails_of_blank (checked : machine.words.Checked)
    (blank : text.head?.any Text.isBlank = true) :
    machine.Fails text (.unknownWord []) machine := by
  cases text with
  | nil => cases blank
  | cons c rest =>
    have plain : Text.withPlainSpaces (c :: rest) = ' ' :: Text.withPlainSpaces rest :=
      congrArg (· :: Text.withPlainSpaces rest) (if_pos blank)
    generalize Text.withPlainSpaces rest = source at plain
    have tokenNil : Text.token (' ' :: source) = [] := Text.token_of_isSpaceLed rfl
    have numeral : Numeral.scan (' ' :: source) = .ok (.miss _) :=
      Numeral.scan_eq_miss_iff.2 ⟨tokenNil ▸ Numeral.readCell_nil, rfl⟩
    have operator : Operator.scan (' ' :: source) = .ok (.miss _) := Operator.scan_of_none rfl source
    have declaration : Declaration.scan (' ' :: source) = .ok (.miss _) :=
      Declaration.scan_of_ne (by decide)
    have word : machine.words.get? (Text.token (' ' :: source)) = none :=
      tokenNil ▸ checked.get?_nil
    have command : Command.scan (' ' :: source) = .error (.unknownWord []) := by
      rw [Command.scan, if_neg (List.cons_ne_nil _ _), tokenNil]
      rfl
    let last : Moment := ⟨.commands (' ' :: source), ' ' :: source, ' ' :: source,
      { toMachine := machine }⟩
    refine fails_iff_endsIn.2 ⟨last, _, ⟨List.cons_ne_nil c rest, ?_⟩, .token command, rfl⟩
    rw [plain]
    exact .head (.noNumeral numeral) (.head (.noOperator operator)
      (.head (.noDeclaration declaration) (.single (.noWord word))))

/-- Where a text does not begin with a blank, every moment of a run is at a token. -/
theorem Visits.atToken {m : Moment} (good : machine.WellFormed)
    (visits : machine.Visits text m) (letter : text.head?.any Text.isBlank = false) : m.AtToken := by
  have kept : (m.source.Plain ∧ m.state.toMachine.WellFormed) ∧ m.AtToken := by
    refine visits.induction
      (motive := fun m => (m.source.Plain ∧ m.state.toMachine.WellFormed) ∧ m.AtToken) ?_ ?_
    · exact ⟨⟨Text.plain_withPlainSpaces text, good⟩, Text.isSpaceLed_withPlainSpaces letter, nofun⟩
    · intro m m' step before
      exact ⟨step.wellFormed before.1, step.atToken before.1.2 before.2⟩
  exact kept.2

/-- **An unknown empty token is met at the front of the text or nowhere.** On a machine that began
empty, whatever has been run on it, a run is ended by an unknown word that is empty just if the text
begins with a blank, and leaves the machine as it was. In the run of any other text there is a token
at every moment at which something is left. -/
theorem fails_on_empty_token_iff (leads : Machine.LeadsTo {} machine) (text : Text) :
    (∀ report, machine.Ends text report →
      ((∃ e, report.error? = some e ∧ e.kind = some .unknownWord ∧
          e.message = "unknown word ''") ↔ text.head?.any Text.isBlank = true) ∧
        (text.head?.any Text.isBlank = true → report.machine = machine)) ∧
    (text.head?.any Text.isBlank = true → machine.Fails text (.unknownWord []) machine) ∧
    (text.head?.any Text.isBlank = false →
      ∀ m, machine.Visits text m → Text.token m.source = [] → m.source = []) := by
  have good := wellFormed_of_leadsTo leads
  have obtained : machine.words.Obtained := ⟨[], {}, machine, rfl, leads, rfl⟩
  refine ⟨fun report ends => ⟨⟨?_, fun blank => ?_⟩, fun blank => ?_⟩,
    fails_of_blank obtained.checked, fun letter m visits tokenNil => ?_⟩
  · rintro ⟨e, failed, unknown, message⟩
    obtain rfl := Error.message_eq_iff.1 message
    obtain ⟨last, s, visits, endsIn, -⟩ := fails_iff_endsIn.1 ⟨report, ends, failed, rfl⟩
    by_contra letter
    exact endsIn.ne_unknownWord_nil (visits.atToken good (Bool.eq_false_iff.2 letter)) rfl
  · obtain ⟨report', ends', failed, -⟩ := fails_of_blank obtained.checked blank
    rw [ends.unique ends']
    exact ⟨_, failed, rfl, Error.message_eq_iff.2 rfl⟩
  · obtain ⟨report', ends', -, same⟩ := fails_of_blank obtained.checked blank
    rw [ends.unique ends', same]
  · by_contra left
    exact Text.token_ne_nil left (visits.atToken good letter).led tokenNil

/-- A control character at the front, and one behind a word on a machine on which a run has
failed. -/
theorem fails_on_empty_token_iff_control :
    let machine : Machine := { cells := [3], words := ⟨[⟨"sq".toList, "dup *".toList⟩]⟩ }
    Machine.LeadsTo {} machine ∧
      machine.Fails "\x07sq".toList (.unknownWord []) machine ∧
      ∃ report, machine.Ends "Sq\x07\t drop drop".toList report ∧
        ¬ ∃ e, report.error? = some e ∧ e.kind = some .unknownWord ∧
          e.message = "unknown word ''" := by
  intro machine
  have leads : Machine.LeadsTo {} machine :=
    Machine.LeadsTo.none.eval? ": Sq\tdup * ; 3 nope".toList 2 (by decide +kernel)
  obtain ⟨-, blank, -⟩ := fails_on_empty_token_iff leads "\x07sq".toList
  obtain ⟨told, -, -⟩ := fails_on_empty_token_iff leads "Sq\x07\t drop drop".toList
  have fails : machine.Fails "Sq\x07\t drop drop".toList (.unknownWord "*".toList)
      { machine with cells := [3, 3] } := fails_of_eval? 2 (by decide +kernel)
  obtain ⟨report, ends, -, -⟩ := fails
  exact ⟨leads, blank (by decide), report, ends, fun unknown =>
    absurd ((told report ends).1.1 unknown) (by decide)⟩

end Machine
end WordStack
