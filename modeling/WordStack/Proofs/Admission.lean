import WordStack.Proofs.Dump
import WordStack.Proofs.Grammar
import WordStack.Proofs.Kept
import WordStack.Proofs.Story

/-! How words are admitted.

A word comes into a dictionary in two ways. It is entered as a seed, or it is
declared, and then the recogniser looks at the declaration before the dictionary
looks at what was found. The two ways have their own checks, made in another order
and with other messages. One sees the name as it was spelled, the other in small
letters; one sees the text as it stands, the other trimmed. None of this makes a
difference (`checked_alike`): a word is refused in both ways or in neither, and one
that is not refused is kept alike. So whatever the recogniser finds is entered, and
a definition that is noted has been made. -/
namespace WordStack

/-! ### What is said of a word -/

/-- A word that can be written as a declaration: its name is one token, and no semicolon ends it
too soon. -/
structure Entry.Declarable (entry : Entry) : Prop where
  named : entry.name ≠ []
  solid : ∀ c ∈ entry.name, Text.isSpace c = false
  unclosed : ';' ∉ entry.name ∧ ';' ∉ entry.text

/-- The word that a record says was defined. -/
def Record.definition? : Record → Option Declaration
  | defined name text | redefined name text => some ⟨name, text⟩
  | _ => none

/-- Each word that a log, newest record first, says was defined is in the dictionary with its text,
unless the log says later that another text took its place. -/
def Record.Applied (log : List Record) (words : Dictionary) : Prop :=
  ∀ later record earlier declaration, log = later ++ record :: earlier →
    record.definition? = some declaration →
    (∀ other ∈ later, ∀ text, other.definition? ≠ some ⟨declaration.name, text⟩) →
    words.find? declaration.name = some declaration.text

/-! ### Entering -/

namespace Entry
variable {entry : Entry} {e : Error}

/-- A word is refused as an invalid word, whatever is wrong with it. -/
theorem kind_of_refusal? (refused : entry.refusal? = some e) : e.kind = some .invalidWord := by
  unfold refusal? at refused
  split at refused
  · cases refused
    rfl
  · split at refused <;> cases refused
    rfl

theorem exists_set_iff (entry : Entry) (d : Dictionary) :
    (∃ after, d.set entry.name entry.text = .ok after) ↔ entry.refusal? = none := by
  rw [Dictionary.set_eq]
  cases entry.refusal? <;> simp

theorem exists_refused_iff (entry : Entry) (d : Dictionary) :
    (∃ e, d.set entry.name entry.text = .error e ∧ e.kind = some .invalidWord) ↔
      entry.refusal? ≠ none := by
  rw [Dictionary.set_eq]
  cases judged : entry.refusal? with
  | none => simp
  | some e => simp [kind_of_refusal? judged]

/-- A word is not refused if it has a name that no decimal digit leads, and a text. -/
theorem refusal?_eq_none_iff : entry.refusal? = none ↔
    entry.name ≠ [] ∧ Text.isDigitLed entry.name = false ∧ ¬ entry.text.IsGap := by
  rw [← exists_set_iff entry {}]
  simp only [Dictionary.set_eq_ok_iff, ne_eq, Text.trim_eq_nil_iff, exists_and_left, exists_eq,
    and_true]

/-! ### Declaring -/

/-- What stands between the colon and the semicolon of a declaration. -/
def inside (entry : Entry) : Text := ' ' :: (entry.name ++ ' ' :: (entry.text ++ [' ']))

namespace Declarable
variable (declarable : entry.Declarable)
include declarable

theorem encloses : Declaration.Encloses entry.literal entry.inside [] where
  whole := by simp [literal, inside]
  unclosed := by simpa [inside] using declarable.unclosed

/-- The name is the first token, and the text has the others. -/
theorem tokens_inside : entry.inside.tokens = entry.name :: entry.text.tokens := by
  have parted : Text.isSpaceLed (' ' :: (entry.text ++ [' '])) = true := rfl
  obtain ⟨token, after⟩ := Text.cut_solid declarable.solid (.inr parted)
  rw [inside, Text.tokens_cons (by rfl), Text.tokens_of_token_ne_nil (token.symm ▸ declarable.named),
    token, after, Text.tokens_cons (by rfl), Text.tokens_append_gap Text.isGap_space]

theorem written (letterLed : Text.isDigitLed entry.name = false) (full : ¬ entry.text.IsGap) :
    Declaration.Written entry.literal entry.name (Text.trim entry.text) [] := by
  obtain ⟨before, behind, blank, blank', cut⟩ := Text.exists_append_trim entry.text
  refine ⟨?_, declarable.named, declarable.solid, letterLed, mt Text.trim_eq_nil_iff.1 full,
    Text.trimmed_trim _, ⟨declarable.unclosed.1, ?_⟩, Text.trimmed_nil⟩
  · refine ⟨[' '], ' ' :: before, behind ++ [' '], [], [], ?_, List.cons_ne_nil _ _, ?_⟩
    · have gap : Text.IsGap (' ' :: before) := Text.isGap_append.2 ⟨Text.isGap_space, blank⟩
      have gap' : Text.IsGap (behind ++ [' ']) := Text.isGap_append.2 ⟨blank', Text.isGap_space⟩
      simp only [List.forall_mem_cons]
      exact ⟨Text.isGap_space, gap, gap', Text.isGap_nil, Text.isGap_nil, nofun⟩
    · generalize Text.trim entry.text = text at cut ⊢
      rw [literal, cut]
      simp
  · exact fun member => declarable.unclosed.2 ((Text.trim_sublist _).mem member)

/-- What the recogniser makes of the word's declaration. -/
theorem scan_literal : Declaration.scan entry.literal =
    if entry.text.IsGap then .error (.noDefinition entry.name)
    else if Text.isDigitLed entry.name then .error (.digitLed entry.name)
    else .ok (.hit ⟨Text.lower entry.name, Text.trim entry.text⟩ []) := by
  have tokens := declarable.tokens_inside
  refine Declaration.Reading.scan_eq ?_
  split_ifs with blank led
  · rw [Text.tokens_of_isGap blank] at tokens
    exact .noDefinition declarable.encloses tokens
  · obtain ⟨second, more, others⟩ :=
      List.exists_cons_of_ne_nil (mt Text.tokens_eq_nil_iff.1 blank)
    rw [others] at tokens
    exact .digitLed declarable.encloses tokens led
  · exact .hit (declarable.written (Bool.eq_false_iff.2 led) blank)

/-- What is found is the word in small letters, its text trimmed. -/
theorem scan_eq_hit_iff {declaration : Declaration} {rest : Text} :
    Declaration.scan entry.literal = .ok (.hit declaration rest) ↔ entry.refusal? = none ∧
      declaration = ⟨Text.lower entry.name, Text.trim entry.text⟩ ∧ rest = [] := by
  rw [declarable.scan_literal, refusal?_eq_none_iff]
  split_ifs with blank led
  · simp [blank]
  · simp [led]
  · simp [blank, led, declarable.named, eq_comm]

/-- A declaration is refused where the word is, and as an invalid word too. -/
theorem exists_scan_error_iff :
    (∃ e, Declaration.scan entry.literal = .error e ∧ e.kind = some .invalidWord) ↔
      entry.refusal? ≠ none := by
  rw [declarable.scan_literal, ne_eq, refusal?_eq_none_iff]
  split_ifs with blank led
  · simp [blank, Error.kind]
  · simp [led, Error.kind]
  · simp [blank, led, declarable.named]

end Declarable

/-- Seeds are accepted just if the recogniser finds each of their declarations. -/
theorem exists_ofEntries_iff {seeds : List Entry}
    (declarable : ∀ entry ∈ seeds, entry.Declarable) :
    (∃ d, Dictionary.ofEntries seeds = .ok d) ↔
      ∀ entry ∈ seeds, ∃ declaration rest,
        Declaration.scan entry.literal = .ok (.hit declaration rest) := by
  have accepted : (∃ d, Dictionary.ofEntries seeds = .ok d) ↔
      ∀ entry ∈ seeds, entry.refusal? = none := by
    simp only [Dictionary.ofEntries_eq_ok_iff, Dictionary.update_eq, Prod.mk.injEq,
      List.findSome?_eq_none_iff, exists_and_right, exists_eq', true_and]
  rw [accepted]
  refine forall₂_congr fun entry member => ?_
  simp only [(declarable entry member).scan_eq_hit_iff, exists_and_left, exists_eq, and_true]

end Entry

/-! ### Noting -/

namespace Record
variable {words start : Dictionary} {log : List Record}

/-- A definition puts its text under its name, and no other record changes anything. -/
theorem replayed_eq (words : Dictionary) (record : Record) : replayed words record =
    match record.definition? with
    | some declaration => words.put declaration.name declaration.text
    | none => words := by
  cases record with
  | defined name text => exact replayed_of_definition name text
  | redefined name text => exact replayed_of_definition name text
  | _ => rfl

theorem Applied.cons (applied : Applied log words) (record : Record) :
    Applied (record :: log) (replayed words record) := by
  intro later noted earlier declaration split defined last
  rw [replayed_eq]
  cases later with
  | nil =>
    obtain ⟨rfl, -⟩ := List.cons.inj split
    rw [defined, Dictionary.find?_put, if_pos rfl]
  | cons newest later =>
    obtain ⟨rfl, rest⟩ := List.cons.inj split
    have other := last record (List.mem_cons_self ..)
    have before := applied later noted earlier declaration rest defined fun other member =>
      last other (List.mem_cons_of_mem record member)
    cases defines : record.definition? with
    | none => exact before
    | some newer =>
      have apart : declaration.name ≠ newer.name := fun same => other newer.text (same ▸ defines)
      rw [Dictionary.find?_put, if_neg apart, before]

/-- What a log tells has been done. -/
theorem Tells.applied (tells : Tells start log words) : Applied log words := by
  induction tells with
  | nil => exact fun later _ _ _ split => absurd split.symm (by simp)
  | cons record _ _ ih => exact ih.cons record

end Record

/-! ### Seeds, declarations and records -/

namespace Entry

/-- **Seeds and declarations are checked alike.** A word that can be written as a declaration is
found by the recogniser just if every dictionary takes it as a seed, and is refused as an invalid
word by both or by neither; so seeds make a dictionary just if all of them could have been declared.
What is found is entered as the word itself would be, its text trimmed. Entering what has been found
never fails, in whatever text it was found, and of the definitions noted in a run each is made, at
every moment and when the run has ended. -/
theorem checked_alike :
    (∀ entry : Entry, entry.Declarable → ∀ d : Dictionary,
      ((∃ declaration rest, Declaration.scan entry.literal = .ok (.hit declaration rest)) ↔
        ∃ after, d.set entry.name entry.text = .ok after) ∧
      ((∃ e, Declaration.scan entry.literal = .error e ∧ e.kind = some .invalidWord) ↔
        ∃ e, d.set entry.name entry.text = .error e ∧ e.kind = some .invalidWord) ∧
      ∀ declaration rest, Declaration.scan entry.literal = .ok (.hit declaration rest) →
        ∃ after, d.set declaration.name declaration.text = .ok after ∧
          d.set entry.name (Text.trim entry.text) = .ok after) ∧
    (∀ seeds : List Entry, (∀ entry ∈ seeds, entry.Declarable) →
      ((∃ d, Dictionary.ofEntries seeds = .ok d) ↔
        ∀ entry ∈ seeds, ∃ declaration rest,
          Declaration.scan entry.literal = .ok (.hit declaration rest))) ∧
    (∀ source declaration rest, Declaration.scan source = .ok (.hit declaration rest) →
      ∀ s : State, ∃ after, s.words.set declaration.name declaration.text = .ok after ∧
        Action.declare declaration s = .ok () { s with
          words := after
          log := Action.definition s.words declaration :: s.log }) ∧
    (∀ (machine : Machine) text m, machine.Visits text m →
      Record.Applied m.state.log m.state.words) ∧
    ∀ (machine : Machine) text report, machine.Ends text report →
      Record.Applied report.log.reverse report.machine.words := by
  refine ⟨fun entry declarable d => ⟨?_, ?_, ?_⟩, fun _ => exists_ofEntries_iff, ?_, ?_, ?_⟩
  · simp only [exists_set_iff, declarable.scan_eq_hit_iff, exists_and_left, exists_eq, and_true]
  · rw [declarable.exists_scan_error_iff, exists_refused_iff]
  · intro declaration rest found
    have entered := Declaration.set_of_scan_eq_hit found d
    obtain ⟨accepted, rfl, -⟩ := declarable.scan_eq_hit_iff.1 found
    obtain ⟨named, letterLed, full⟩ := refusal?_eq_none_iff.1 accepted
    have full' : Text.trim (Text.trim entry.text) ≠ [] :=
      mt Text.trim_eq_nil_iff.1 ((Text.trimmed_trim _).not_isGap (mt Text.trim_eq_nil_iff.1 full))
    exact ⟨_, entered, Dictionary.set_eq_ok_iff.2 ⟨named, letterLed, full', rfl⟩⟩
  · intro source declaration rest found s
    exact ⟨_, Declaration.set_of_scan_eq_hit found s.words, Action.declare_of_scan s found⟩
  · intro machine text m visits
    have told : m.Told machine.words := visits.induction .nil Moment.Step.told
    exact told.applied
  · exact fun machine text report ends => ends.tells.applied

/-- A name that looks like a numeral and grows when it is lowered, and one led by a digit that is
not an ASCII digit. The run redefines a word before it fails. -/
theorem checked_alike_dotted :
    let word : Entry := ⟨"-5İΣ".toList, "\t2 dup ".toList⟩
    let led : Entry := ⟨"٣x".toList, "1".toList⟩
    let found : Declaration := ⟨"-5i̇ς".toList, "2 dup".toList⟩
    let text : Text := ": İ 1 ; : i̇ 2 ; x".toList
    let log : List Record :=
      [.redefined "i̇".toList "2".toList, .defined "i̇".toList "1".toList]
    let words : Dictionary := ⟨[⟨"i̇".toList, "2".toList⟩]⟩
    let error : Error := .unknownWord "x".toList
    let report : Report :=
      ⟨{ words }, log.reverse ++ [.aborted .unknownWord error], some error⟩
    (∃ after, Dictionary.set {} found.name found.text = .ok after ∧
      Dictionary.set {} word.name (Text.trim word.text) = .ok after) ∧
    (∃ e, Declaration.scan led.literal = .error e ∧ e.kind = some .invalidWord) ∧
    (∃ d, Dictionary.ofEntries [word] = .ok d) ∧
    (∃ after, Action.declare found {} =
      .ok () { words := after, log := [.defined found.name found.text] }) ∧
    Machine.Ends {} text report ∧ Record.Applied log words ∧
    Record.Applied report.log.reverse words := by
  intro word led found text log words error report
  obtain ⟨alike, seeded, declares, moments, runs⟩ := checked_alike
  have solid : word.name.any Text.isSpace = false ∧ led.name.any Text.isSpace = false := by
    decide +kernel
  simp only [List.any_eq_false, Bool.not_eq_true] at solid
  have declarable : word.Declarable := ⟨by decide, solid.1, by decide⟩
  obtain ⟨-, -, kept⟩ := alike word declarable {}
  obtain ⟨-, refused, -⟩ := alike led ⟨by decide, solid.2, by decide⟩ {}
  have scanned : Declaration.scan word.literal = .ok (.hit found []) := by decide +kernel
  have seeds := (seeded [word] (List.forall_mem_singleton.2 declarable)).2
    (List.forall_mem_singleton.2 ⟨found, [], scanned⟩)
  have invalid : Dictionary.set {} led.name led.text = .error (.invalidName led.name) := by
    decide +kernel
  obtain ⟨after, -, declared⟩ := declares _ _ _ scanned {}
  have numeral : Numeral.scan text = .ok (.miss text) := by decide +kernel
  have operator : Operator.scan text = .ok (.miss text) := by decide +kernel
  have first : Declaration.scan text =
      .ok (.hit ⟨"i̇".toList, "1".toList⟩ ": i̇ 2 ; x".toList) := by decide +kernel
  have second : Declaration.scan ": i̇ 2 ; x".toList =
      .ok (.hit ⟨"i̇".toList, "2".toList⟩ "x".toList) := by decide +kernel
  have visits : Machine.Visits {} text ⟨.declarations, text, "x".toList, { words, log }⟩ :=
    ⟨by decide, .head (.noNumeral numeral) (.head (.noOperator operator)
      (.head (.declaration first) (.single (.declaration second))))⟩
  have ends : Machine.Ends {} text report := ⟨1, by decide +kernel⟩
  exact ⟨kept found [] scanned, refused.2 ⟨_, invalid, rfl⟩, seeds, ⟨after, declared⟩, ends,
    moments _ _ _ visits, runs _ _ _ ends⟩

end Entry
end WordStack
