import WordStack.Proofs.NumeralLed
import WordStack.Proofs.Taking
import WordStack.Proofs.Watch

/-! What a stalled pass can be.

A pass that leaves the text it began with has either done nothing or expanded a
word. If no word was expanded, every item that was found would have left a shorter
text; so none was found, and what stops the commands is a numeral that no other
stage takes: digits of a number too great for a cell. If a word was expanded, what
is left of the text, apart from whitespace at its end, has only been cut at the
front before the word and behind it, so the word's text makes up for all that was
cut off: it ends with the word. What went before the word was then a literal, for
with anything else at its front the text could not be left by the commands. -/
namespace WordStack

/-! ### What is left of a text -/

namespace Text
variable {text rest behind word stored : Text}

theorem trimRight_suffix (cut : rest <:+ text) : trimRight rest <:+ trimRight text := by
  obtain ⟨before, rfl⟩ := cut
  by_cases blank : IsGap rest
  · rw [trimRight_eq_nil_iff.2 blank]
    exact List.nil_suffix
  · rw [trimRight_append blank]
    exact List.suffix_append before _

/-- A word that stands before a text, in which another text that stands before it ends, is the end
of the other. -/
theorem suffix_of_append (solid : ∀ c ∈ word, isSpace c = false)
    (ends : trimRight (word ++ behind) <:+ trimRight (stored ++ behind)) :
    word <:+ trimRight stored := by
  have whole := (trimmed_of_solid solid).right
  by_cases blank : IsGap behind
  · rwa [trimRight_append_gap blank, trimRight_append_gap blank, whole] at ends
  · rw [trimRight_append blank, trimRight_append blank] at ends
    have ends' := trimRight_suffix ((List.suffix_append_inj_of_length_eq rfl).1 ends).1
    rwa [whole] at ends'

/-- What is left of a text, apart from whitespace at its end. -/
def TailOf (rest text : Text) : Prop := trimRight rest <:+ trimRight text

theorem EndOf.tailOf (ends : EndOf rest text) : TailOf rest text := by
  obtain ⟨gap, blank, suffix⟩ := ends
  have kept := trimRight_suffix suffix
  rwa [trimRight_append_gap blank] at kept

end Text

/-! ### What a stage takes -/

namespace Stage
variable {α : Type} {stage : Stage α} {source rest : Text} {s t : State}

theorem length_le (ran : stage.run source s = .ok rest t) : rest.length ≤ source.length := by
  induction source using Stage.run.induct stage generalizing s with
  | case1 source e found =>
    rw [run_of_error found] at ran
    cases ran
  | case2 source missed found =>
    rw [run_of_miss found] at ran
    obtain ⟨_, u, -, ran⟩ := Action.exists_of_bind_eq_ok ran
    cases ran
    exact le_rfl
  | case3 source value left found ih =>
    rw [run_of_hit found] at ran
    obtain ⟨_, u, -, ran⟩ := Action.exists_of_bind_eq_ok ran
    exact (ih ran).trans (stage.consumes found).le

/-- A stage that leaves no less than it began with has found nothing. -/
theorem of_length_le (ran : stage.run source s = .ok rest t) (long : source.length ≤ rest.length) :
    rest = source ∧ (∃ missed, stage.scan source = .ok (.miss missed)) ∧
      stage.stop source s = .ok () t := by
  match found : stage.scan source with
  | .error e =>
    rw [run_of_error found] at ran
    cases ran
  | .ok (.hit value left) =>
    rw [run_of_hit found] at ran
    obtain ⟨_, u, -, ran⟩ := Action.exists_of_bind_eq_ok ran
    have shorter := stage.consumes found
    have further := length_le ran
    omega
  | .ok (.miss missed) =>
    rw [run_of_miss found] at ran
    obtain ⟨_, u, stopped, ran⟩ := Action.exists_of_bind_eq_ok ran
    cases ran
    exact ⟨rfl, ⟨missed, rfl⟩, stopped⟩

end Stage

namespace Pass
variable {source middle next rest : Text} {s t : State}

theorem endOf_of_front (made : front source s = .ok middle t) : middle.EndOf source := by
  obtain ⟨x, u, numerals, made⟩ := Action.exists_of_bind_eq_ok made
  obtain ⟨y, v, operators, declarations⟩ := Action.exists_of_bind_eq_ok made
  have first := Stage.numerals_orderly.left _ _ _ _ numerals
  have second := Stage.operators_orderly.left _ _ _ _ operators
  have third := Stage.declarations_orderly.left _ _ _ _ declarations
  exact third.trans (second.trans first)

end Pass

/-! ### Numerals that no stage takes -/

namespace Numeral
variable {text : Text} {m : Nat}

/-- A plus sign is dropped, if there is one. -/
theorem dropPlus_cases (text : Text) : dropPlus text = text ∨ text = '+' :: dropPlus text := by
  unfold dropPlus
  split
  · exact .inr rfl
  · exact .inl rfl

/-- What is read without sign after lowering has not been changed by it. -/
theorem lower_of_readUnsigned (unsigned : readUnsigned (Text.lower text) = .ok (some m)) :
    Text.lower text = text := by
  have only := (magnitude_eq_ok_iff.1 (readUnsigned_eq_ok_iff.1 unsigned).1).2.1
  refine Text.lower_of_lower_lt fun c member => ?_
  have digit : c.isDigit = true ∨ c = '+' := by
    rcases dropPlus_cases (Text.lower text) with whole | signed
    · exact .inl (only c (whole.symm ▸ member))
    · rw [signed] at member
      exact (List.mem_cons.1 member).symm.imp_left (only c)
  rcases digit with digit | rfl
  · have range := Text.toNat_of_isDigit digit
    omega
  · decide

/-- A numeral without sign whose value is too great for a cell, though not to be read. -/
structure Oversized (token : Text) : Prop where
  nonempty : token ≠ []
  digits : ∀ c ∈ token, c.isDigit = true
  great : Cell.greatest < value token
  bounded : value token ≤ unsignedGreatest

/-- Oversized numerals that are not too long are what is read without sign, but not as a cell. -/
theorem oversized_iff (only : ∀ c ∈ text, c.isDigit = true) :
    Oversized text ∧ text.length ≤ digitLimit ↔
      (∃ m, readUnsigned text = .ok (some m)) ∧ readCell text = .ok none := by
  have whole := (unsigned_of_isDigit only).2
  constructor
  · intro ⟨oversized, short⟩
    have unsigned : readUnsigned text = .ok (some (value text)) := by
      refine readUnsigned_eq_ok_iff.2 ⟨?_, oversized.bounded⟩
      rw [whole]
      exact magnitude_eq_ok_iff.2 ⟨oversized.nonempty, only, short, rfl⟩
    refine ⟨⟨_, unsigned⟩, (readCell_of_readUnsigned only unsigned).resolve_left ?_⟩
    intro ⟨n, read⟩
    obtain ⟨m, unsigned', -, small⟩ := (readCell_digits_iff only).1 read
    rw [unsigned] at unsigned'
    cases unsigned'
    exact absurd small (Int.not_le.2 oversized.great)
  · intro ⟨⟨m, unsigned⟩, read⟩
    obtain ⟨magnitude, bounded⟩ := readUnsigned_eq_ok_iff.1 unsigned
    rw [whole] at magnitude
    obtain ⟨nonempty, -, short, rfl⟩ := magnitude_eq_ok_iff.1 magnitude
    refine ⟨⟨nonempty, only, Int.not_le.1 fun small => ?_, bounded⟩, short⟩
    rw [(readCell_digits_iff only).2 ⟨_, unsigned, rfl, small⟩] at read
    cases read

end Numeral

/-- What stops the commands is a numeral without sign, or one with a plus sign. -/
theorem Command.unsignedLed_or_signed {source : Text} (left : source ≠ [])
    (stopped : ∃ missed, scan source = .ok (.miss missed)) : source.UnsignedLed ∨
      ∃ digits m, Text.token source = Operator.add.symbol :: digits ∧
        (∀ c ∈ digits, c.isDigit = true) ∧ Numeral.readUnsigned digits = .ok (some m) := by
  obtain ⟨-, m, unsigned⟩ := (exists_scan_eq_miss_iff left).1 stopped
  rw [Numeral.lower_of_readUnsigned unsigned] at unsigned
  obtain ⟨magnitude, bounded⟩ := Numeral.readUnsigned_eq_ok_iff.1 unsigned
  have only := (Numeral.magnitude_eq_ok_iff.1 magnitude).2.1
  rcases Numeral.dropPlus_cases (Text.token source) with whole | signed
  · exact .inl ⟨whole ▸ only, m, unsigned⟩
  · refine .inr ⟨_, m, signed, only, Numeral.readUnsigned_eq_ok_iff.2 ⟨?_, bounded⟩⟩
    rwa [(Numeral.unsigned_of_isDigit only).2]

/-! ### Stalled passes -/

namespace Pass
variable {source middle rest missed : Text} {s t u : State}

/-- Behind the numerals, a numeral without sign is handed on. -/
theorem middle_of_unsignedLed (led : source.UnsignedLed)
    (made : (Stage.operators.run source >>= Stage.declarations.run) s = .ok middle t) :
    middle = source := by
  rw [Action.bind_of_ok (Stage.run_eq_ok_of_miss led.operators rfl),
    Stage.run_eq_ok_of_miss led.declarations rfl] at made
  cases made
  rfl

/-- Where a numeral stops the commands, but no numeral was found, no word is expanded. -/
theorem get?_of_missed (checked : s.words.Checked) (left : source ≠ [])
    (missed : ∃ missed, Numeral.scan source = .ok (.miss missed))
    (stopped : ∃ missed, Command.scan source = .ok (.miss missed))
    (made : front source s = .ok middle t) : t.words.get? (Text.token middle) = none := by
  have checked' := checked_of_front checked made
  obtain ⟨missed, found⟩ := missed
  have ran : Stage.numerals.run source s = .ok source s := Stage.run_eq_ok_of_miss found rfl
  rw [front, Action.bind_of_ok ran] at made
  rcases Command.unsignedLed_or_signed left stopped with led | ⟨digits, m, first, only, unsigned⟩
  · rw [middle_of_unsignedLed led made]
    exact led.get?_token checked'
  · have led := Text.unsignedLed_append only unsigned source
    have found := Operator.scan_of_signed only unsigned first
    -- the operator is taken off, and what it leaves is handed on
    rw [Stage.run_of_hit found, bind_assoc] at made
    obtain ⟨_, u, -, made⟩ := Action.exists_of_bind_eq_ok made
    rw [middle_of_unsignedLed led made]
    exact led.get?_token checked'

/-- Where no word is expanded and the text is left as it was, no stage has found anything. -/
theorem missed_of_unexpanded (left : source ≠ []) (made : front source s = .ok middle t)
    (unknown : t.words.get? (Text.token middle) = none) (made' : back middle t = .ok source u) :
    middle = source ∧ t = s ∧ u.toMachine = s.toMachine ∧
      (∃ missed, Numeral.scan source = .ok (.miss missed)) ∧
      (∃ missed, Operator.scan source = .ok (.miss missed)) ∧
      (∃ missed, Declaration.scan source = .ok (.miss missed)) ∧
      ∃ missed, Command.scan source = .ok (.miss missed) := by
  obtain ⟨x, v, numerals, made⟩ := Action.exists_of_bind_eq_ok made
  obtain ⟨y, w, operators, declarations⟩ := Action.exists_of_bind_eq_ok made
  rw [back, Action.bind_of_ok (Action.expand_of_none unknown)] at made'
  have first := Stage.length_le numerals
  have second := Stage.length_le operators
  have third := Stage.length_le declarations
  have last := Stage.length_le made'
  obtain ⟨rfl, noNumeral, stopped⟩ := Stage.of_length_le numerals (by omega)
  cases stopped
  obtain ⟨rfl, noOperator, stopped⟩ := Stage.of_length_le operators (by omega)
  cases stopped
  obtain ⟨rfl, noDeclaration, stopped⟩ := Stage.of_length_le declarations (by omega)
  cases stopped
  obtain ⟨-, noCommand, stopped⟩ := Stage.of_length_le made' (by omega)
  rw [Stage.stop_commands _ left] at stopped
  cases stopped
  exact ⟨rfl, rfl, rfl, noNumeral, noOperator, noDeclaration, noCommand⟩

/-- Where a word is expanded and the text is left as it was, the word's text ends with the word. -/
theorem suffix_of_expanded {stored : Text} (made : front source s = .ok middle t)
    (known : t.words.get? (Text.token middle) = some stored)
    (made' : back middle t = .ok source u) : Text.token middle <:+ Text.trimRight stored := by
  rw [back, Action.bind_of_ok (Action.expand_of_some known)] at made'
  have before := endOf_of_front made
  have behind := Stage.commands_orderly.left _ _ _ _ made'
  have ends := (before.trans behind).tailOf
  nth_rewrite 1 [← Text.token_append_afterToken middle] at ends
  exact Text.suffix_of_append (fun _ => Text.isSpace_of_mem_token) ends

end Pass

namespace Machine

/-- A pass that finds nothing, since what stands first is an oversized numeral. -/
structure NumeralStall (machine : Machine) (text source : Text) (before after : State) : Prop where
  numerals : ∃ missed, Numeral.scan source = .ok (.miss missed)
  operators : ∃ missed, Operator.scan source = .ok (.miss missed)
  declarations : ∃ missed, Declaration.scan source = .ok (.miss missed)
  word : before.words.expand source = .miss source
  commands : ∃ missed, Command.scan source = .ok (.miss missed)
  kept : after.toMachine = before.toMachine
  oversized : Numeral.Oversized (Text.token source)
  fails : machine.Fails text (.unknownWord (Text.token source)) after.toMachine

/-- A pass that begins with a literal and expands a word whose text ends with the word. -/
structure WordStall (machine : Machine) (text source : Text) (before after : State) : Prop where
  literal : ∃ n rest, Numeral.scan source = .ok (.hit n rest)
  expanded : ∃ middle s stored, Pass.front source before = .ok middle s ∧
    s.words.expand middle = .hit stored (stored ++ Text.afterToken middle) ∧
    Text.token middle <:+ Text.trimRight stored ∧
    machine.Fails text (.endlessWord (Text.lower (Text.token middle))) after.toMachine

variable {machine : Machine} {text source middle : Text} {before after s : State}

/-- What a stalled pass is blamed on ends the run. -/
theorem StallsAt.fails (stalls : machine.StallsAt text source before after)
    (made : Pass.front source before = .ok middle s) (made' : Pass.back middle s = .ok source after) :
    machine.Fails text (Pass.blame after.words middle) after.toMachine := by
  obtain ⟨⟨passes, leads⟩, left, -⟩ := stalls
  have watched := Pass.watched_of_front made made'
  rw [if_pos rfl] at watched
  exact fails_iff.2 ⟨after, rfl, _, leads.repeated_of_error left watched⟩

theorem NumeralStall.of_unexpanded (stalls : machine.StallsAt text source before after)
    (made : Pass.front source before = .ok middle s) (made' : Pass.back middle s = .ok source after)
    (unknown : s.words.get? (Text.token middle) = none) :
    machine.NumeralStall text source before after := by
  have left := stalls.left
  have fails := stalls.fails made made'
  obtain ⟨rfl, rfl, kept, numerals, operators, declarations, commands⟩ :=
    Pass.missed_of_unexpanded left made unknown made'
  have blame := Pass.blame_of_none (kept ▸ unknown)
  refine ⟨numerals, operators, declarations, ?_, commands, kept, ?_, blame ▸ fails⟩
  · simp only [Dictionary.expand, unknown]
  · obtain ⟨missed, noNumeral⟩ := numerals
    rcases Command.unsignedLed_or_signed left commands with led | ⟨digits, m, first, only, unsigned⟩
    · exact ((Numeral.oversized_iff led.digits).2
        ⟨led.unsigned, (Numeral.scan_eq_miss_iff.1 noNumeral).1⟩).1
    · obtain ⟨missed, noOperator⟩ := operators
      rw [Operator.scan_of_signed only unsigned first] at noOperator
      cases noOperator

theorem WordStall.of_expanded {stored : Text} (checked : before.words.Checked)
    (stalls : machine.StallsAt text source before after)
    (made : Pass.front source before = .ok middle s) (made' : Pass.back middle s = .ok source after)
    (known : s.words.get? (Text.token middle) = some stored) :
    machine.WordStall text source before after := by
  have kept := (Pass.back_again made' rfl).1
  have blame := Pass.blame_of_some (kept ▸ known)
  have ends := Pass.suffix_of_expanded made known made'
  refine ⟨?_, middle, s, stored, made, ?_, ends, blame ▸ stalls.fails made made'⟩
  · match found : Numeral.scan source with
    | .ok (.hit n rest) => exact ⟨n, rest, rfl⟩
    | .ok (.miss missed) =>
      obtain ⟨next, t, -, ran⟩ := Action.exists_of_bind_eq_ok made'
      have unknown := Pass.get?_of_missed checked stalls.left ⟨missed, found⟩
        (Stage.scan_of_run_eq_ok ran) made
      rw [unknown] at known
      cases known
    | .error e =>
      have refused : Stage.numerals.scan source = .error e := found
      rw [Pass.front, Stage.run_of_error refused] at made
      cases made
  · simp only [Dictionary.expand, known]

theorem NumeralStall.not_wordStall (numeral : machine.NumeralStall text source before after) :
    ¬ machine.WordStall text source before after := by
  intro word
  obtain ⟨missed, noNumeral⟩ := numeral.numerals
  obtain ⟨n, rest, literal⟩ := word.literal
  rw [noNumeral] at literal
  cases literal

/-- A pass that begins on an oversized numeral does nothing. -/
theorem stallsAt_of_oversized {passes : Nat} (checked : before.words.Checked)
    (leads : Pass.Leads Pass.watched passes text.withPlainSpaces { toMachine := machine }
      source before)
    (oversized : Numeral.Oversized (Text.token source))
    (short : (Text.token source).length ≤ Numeral.digitLimit) :
    ∃ after, machine.StallsAt text source before after := by
  obtain ⟨unsigned, read⟩ := (Numeral.oversized_iff oversized.digits).1 ⟨oversized, short⟩
  have led : source.UnsignedLed := ⟨oversized.digits, unsigned⟩
  have noNumeral := Numeral.scan_eq_miss_iff.2 ⟨read, rfl⟩
  have front : Pass.front source before = .ok source before := by
    rw [Pass.front, Action.bind_of_ok (Stage.run_eq_ok_of_miss noNumeral rfl),
      Action.bind_of_ok (Stage.run_eq_ok_of_miss led.operators rfl)]
    exact Stage.run_eq_ok_of_miss led.declarations rfl
  obtain ⟨after, back⟩ : ∃ after, Pass.back source before = .ok source after := by
    rw [Pass.back, Action.bind_of_ok (Action.expand_of_none (led.get?_token checked))]
    exact ⟨_, Stage.run_eq_ok_of_miss led.commands (Stage.stop_commands before led.ne_nil)⟩
  exact ⟨after, ⟨passes, leads⟩, led.ne_nil, (Action.bind_of_ok front).trans back⟩

/-- **A pass stalls in one of two ways.** Either it has found nothing, since the text begins with an
oversized numeral, and the error names the numeral. Or it has pushed a literal and expanded a word
whose text ends with the word as it was spelled, and the error names the word. And every pass that
begins on an oversized numeral stalls, unless there are too many digits to read. -/
theorem stall_cases {machine : Machine} {text : Text} (obtained : machine.words.Obtained) :
    (∀ {source before after}, machine.StallsAt text source before after →
      Xor (machine.NumeralStall text source before after)
        (machine.WordStall text source before after)) ∧
    ∀ {passes source before}, Pass.Leads Pass.watched passes text.withPlainSpaces
        { toMachine := machine } source before →
      Numeral.Oversized (Text.token source) →
      (Text.token source).length ≤ Numeral.digitLimit →
      ∃ after, machine.StallsAt text source before after := by
  refine ⟨fun {source before after} stalls => ?_, fun leads =>
    stallsAt_of_oversized (leads.checked obtained.checked) leads⟩
  obtain ⟨middle, s, made, made'⟩ := Action.exists_of_bind_eq_ok stalls.stalled
  have checked : before.words.Checked := by
    obtain ⟨⟨passes, leads⟩, -, -⟩ := stalls
    exact leads.checked obtained.checked
  cases known : s.words.get? (Text.token middle) with
  | none =>
    have numeral := NumeralStall.of_unexpanded stalls made made' known
    exact .inl ⟨numeral, numeral.not_wordStall⟩
  | some stored =>
    have word := WordStall.of_expanded checked stalls made made' known
    exact .inr ⟨word, fun numeral => numeral.not_wordStall word⟩

/-- A word that calls itself behind a literal, and a numeral that is left to the second pass. -/
theorem stall_cases_self_call :
    let words : Dictionary := ⟨[⟨"a".toList, "2 A".toList⟩]⟩
    let after : State :=
      { cells := [2], words, log := [.strayNumeral "2".toList, .expanded "2 A".toList] }
    let before : State := { cells := [7], words, log := [.strayNumeral "3000000000".toList] }
    (Machine.StallsAt { words } "2 A".toList "2 A".toList { words } after ∧
      Xor (Machine.NumeralStall { words } "2 A".toList "2 A".toList { words } after)
        (Machine.WordStall { words } "2 A".toList "2 A".toList { words } after)) ∧
      ∃ after, Machine.StallsAt { words } "7 3000000000".toList "3000000000".toList before after := by
  intro words after before
  have obtained : words.Obtained := ⟨words.entries, words, _, by decide +kernel, .none, rfl⟩
  have stalls : Machine.StallsAt { words } "2 A".toList "2 A".toList { words } after :=
    ⟨⟨0, .none⟩, by decide, by decide +kernel⟩
  have leads : Pass.Leads Pass.watched 1 (Text.withPlainSpaces "7 3000000000".toList)
      { toMachine := { words } } "3000000000".toList before :=
    .one (by decide) (by decide +kernel)
  have oversized : Numeral.Oversized (Text.token "3000000000".toList) :=
    ⟨by decide, List.all_eq_true.1 (by decide), by decide +kernel, by decide +kernel⟩
  exact ⟨⟨stalls, (stall_cases obtained).1 stalls⟩,
    (stall_cases obtained).2 leads oversized (by decide +kernel)⟩

end Machine
end WordStack
