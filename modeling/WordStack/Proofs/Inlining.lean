import WordStack.Proofs.Shadowing
import WordStack.Proofs.Stall
import WordStack.Proofs.WellFormed

/-! Words and the texts they stand for.

A word that begins a program stands for its text, but what takes its place is not
read from the beginning of a pass: numerals, operators and declarations have had
their turn, and only commands are looked for. If the text begins with a command,
the program with the text written out comes to that command too; if it begins with a
numeral, that is left to the next pass, which begins with the text. In both cases the
word and its text do the same (`runsAlike_inlined`). If it begins with anything else,
be it a word or an operator, the token there is unknown, and nothing has been done. -/
namespace WordStack

/-! ### Runs that are alike but for their records -/

/-- How a run ends, records apart: the machine it leaves, and the error that ended it, if any. -/
def Report.outcome (report : Report) : Machine × Option Error := (report.machine, report.error?)

/-- The run of a text ends by the outcome, whatever it notes. -/
def Machine.EndsBy (machine : Machine) (text : Text) (outcome : Machine × Option Error) : Prop :=
  ∃ report, machine.Ends text report ∧ report.outcome = outcome

/-- On the machine, the runs of two texts end alike, records apart, or neither of them ends. -/
def Machine.RunsAlike (machine : Machine) (text text' : Text) : Prop :=
  ∀ outcome, machine.EndsBy text outcome ↔ machine.EndsBy text' outcome

namespace Pass
variable {source source' rest : Text} {s t : State} {outcome : Machine × Option Error}

/-- From the state, the run of a text ends by the outcome. -/
def ComesBy (source : Text) (s : State) (outcome : Machine × Option Error) : Prop :=
  ∃ result, ComesTo watched source s result ∧ (Report.ofResult result).outcome = outcome

theorem comesBy_of_ok (left : source ≠ []) (made : watched source s = .ok rest t) :
    ComesBy source s outcome ↔ ComesBy rest t outcome := by
  simp only [ComesBy, comesTo_of_ok left made]

theorem comesBy_of_error {e : Error} (left : source ≠ []) (failed : watched source s = .error e t) :
    ComesBy source s outcome ↔ (t.toMachine, some e) = outcome := by
  simp only [ComesBy, comesTo_of_error left failed, exists_eq_left]
  rfl

theorem ComesBy.of_toMachine_eq (comes : ComesBy source s outcome)
    (same : s.toMachine = t.toMachine) (checked : s.words.Checked) : ComesBy source t outcome := by
  obtain ⟨result, ⟨passes, ended⟩, rfl⟩ := comes
  have alike : (Comparison.unlogged fun _ => False).Alike s t := ⟨same, checked⟩
  have runs := Comparison.unlogged_fair.runsMatch passes source alike
  rw [ended] at runs
  generalize other : repeated watched passes source t = run at runs
  cases runs with
  | both ends =>
    cases ends with
    | ok _ alike =>
      refine ⟨_, ⟨passes, other⟩, ?_⟩
      simp only [Report.ofResult, Report.outcome, alike.1]
    | error alike =>
      refine ⟨_, ⟨passes, other⟩, ?_⟩
      simp only [Report.ofResult, Report.outcome, alike.1]
    | left excused => exact excused.elim
    | right excused => exact excused.elim
  | left excused => exact excused.elim
  | right excused => exact excused.elim

/-- What was noted before makes no difference to how a run ends. -/
theorem comesBy_congr (same : s.toMachine = t.toMachine) (checked : s.words.Checked) :
    ComesBy source s outcome ↔ ComesBy source t outcome := by
  have checked' : t.words.Checked := by
    rwa [← congrArg Machine.words same]
  exact ⟨fun comes => comes.of_toMachine_eq same checked,
    fun comes => comes.of_toMachine_eq same.symm checked'⟩

/-- Runs whose first passes do the same, records apart, end alike. -/
theorem comesBy_of_matches (left : source ≠ []) (left' : source' ≠ [])
    (ends :
      (Comparison.unlogged fun _ => False).Matches Eq (watched source s) (watched source' t)) :
    ComesBy source s outcome ↔ ComesBy source' t outcome := by
  generalize made : watched source s = ended, made' : watched source' t = ended' at ends
  cases ends with
  | ok related alike =>
    subst related
    rw [comesBy_of_ok left made, comesBy_of_ok left' made', comesBy_congr alike.1 alike.2]
  | error alike => rw [comesBy_of_error left made, comesBy_of_error left' made', alike.1]
  | left excused => exact excused.elim
  | right excused => exact excused.elim

end Pass

theorem Machine.endsBy_iff {machine : Machine} {text : Text} {outcome : Machine × Option Error} :
    machine.EndsBy text outcome ↔
      Pass.ComesBy text.withPlainSpaces { toMachine := machine } outcome := by
  constructor
  · intro ⟨report, ⟨passes, ended⟩, same⟩
    obtain ⟨result, run, rfl⟩ := Option.map_eq_some_iff.1 ended
    exact ⟨result, ⟨passes, run⟩, same⟩
  · intro ⟨result, ⟨passes, run⟩, same⟩
    exact ⟨Report.ofResult result, ⟨passes, by rw [eval?, run]; rfl⟩, same⟩

/-! ### First tokens -/

/-- A token that is left to the words: it is no cell, and begins neither an operator nor a
declaration. -/
structure Text.Wordlike (token : Text) : Prop where
  nonempty : token ≠ []
  noCell : Numeral.readCell token = .ok none
  noOperator : ∀ c ∈ token.head?, Operator.ofSymbol? c = none
  noColon : token.head? ≠ some ':'

namespace Text
variable {text : Text}

theorem ne_nil_of_token (nonempty : token text ≠ []) : text ≠ [] := by
  intro textNil
  exact nonempty (by rw [textNil]; rfl)

theorem head?_token (nonempty : token text ≠ []) : (token text).head? = text.head? := by
  rw [← List.head?_append_of_ne_nil _ nonempty, token_append_afterToken]

end Text

namespace Numeral
variable {text : Text}

/-- Only digits and plus signs make a numeral without sign, whether or not it is read. -/
theorem isDigit_of_readUnsigned_ne (numeral : readUnsigned text ≠ .ok none) {c : Char}
    (member : c ∈ text) : c.isDigit = true ∨ c = '+' := by
  have only : ∀ c ∈ dropPlus text, c.isDigit = true := by
    by_contra letter
    have noDigits : dropPlus text = [] ∨ (dropPlus text).any (!·.isDigit) = true :=
      .inr (by simpa using letter)
    apply numeral
    simp only [readUnsigned, magnitude, if_pos noDigits, Except.map, Option.filter_none]
  rcases dropPlus_cases text with whole | signed
  · exact .inl (only c (whole.symm ▸ member))
  · rw [signed] at member
    rcases List.mem_cons.1 member with plus | later
    · exact .inr plus
    · exact .inl (only c later)

/-- A numeral without sign is the same in small letters, and nothing else becomes one. -/
theorem readUnsigned_lower (text : Text) : readUnsigned (Text.lower text) = readUnsigned text := by
  have low {text : Text} (numeral : readUnsigned text ≠ .ok none) :
      ∀ c ∈ text, c.toNat < 0x41 := by
    intro c member
    rcases isDigit_of_readUnsigned_ne numeral member with digit | rfl
    · have range := Text.toNat_of_isDigit digit
      omega
    · decide
  by_cases numeral : readUnsigned text = .ok none
  · by_cases numeral' : readUnsigned (Text.lower text) = .ok none
    · rw [numeral, numeral']
    · rw [Text.lower_of_lower_lt (low numeral')]
  · rw [Text.lower_of_lt (low numeral)]

end Numeral

/-- A character below the capital letters begins a text in small letters if it begins the text. -/
theorem Text.head?_lower_of_lt {c : Char} (low : c.toNat < 0x41) (rest : Text) :
    (lower (c :: rest)).head? = some c := by
  rw [lower, lowerFrom, (isSmall_of_lt low).small]
  rfl

namespace Command
variable {source : Text} {command : Command}

/-- The name of a command has no digits and no signs. -/
theorem ofName?_of_readUnsigned {token : Text} {n : Nat}
    (unsigned : Numeral.readUnsigned token = .ok (some n)) : ofName? token = none := by
  apply List.find?_eq_none.2
  intro command _ named
  rw [← of_decide_eq_true named] at unsigned
  cases command <;> cases unsigned

theorem scan_of_ofName? (left : source ≠ [])
    (named : ofName? (Text.lower (Text.token source)) = some command) :
    scan source = .ok (.hit command (Text.trimLeft (Text.afterToken source))) :=
  scan_eq_hit_iff.2 ⟨left, named, rfl⟩

theorem scan_of_readUnsigned {n : Nat} (left : source ≠ [])
    (unsigned : Numeral.readUnsigned (Text.token source) = .ok (some n)) :
    ∃ missed, scan source = .ok (.miss missed) := by
  rw [← Numeral.readUnsigned_lower] at unsigned
  exact (exists_scan_eq_miss_iff left).2 ⟨ofName?_of_readUnsigned unsigned, n, unsigned⟩

theorem scan_of_unknown (left : source ≠ [])
    (unnamed : ofName? (Text.lower (Text.token source)) = none)
    (unnumbered : Numeral.readUnsigned (Text.token source) = .ok none) :
    scan source = .error (.unknownWord (Text.lower (Text.token source))) := by
  have read : read (Text.lower (Text.token source)) =
      .error (.unknownWord (Text.lower (Text.token source))) := by
    simp only [Command.read, unnamed, Numeral.readUnsigned_lower, unnumbered]
  rw [scan, if_neg left, read]
  rfl

/-- A token that names a command is not found by any stage before. -/
theorem wordlike_of_ofName? {token : Text} (named : ofName? (Text.lower token) = some command) :
    token.Wordlike := by
  have same : command.name = Text.lower token := by simpa using List.find?_some named
  have letter : ∀ c ∈ token.head?, 0x41 ≤ c.toNat := by
    intro c first
    by_contra low
    obtain ⟨rest, rfl⟩ := List.head?_eq_some_iff.1 first
    have first' := Text.head?_lower_of_lt (Nat.lt_of_not_le low) rest
    rw [← same] at first'
    cases command <;> cases first' <;> exact low (by decide)
  have noOperator : ∀ c ∈ token.head?, Operator.ofSymbol? c = none := by
    intro c first
    have letter := letter c first
    unfold Operator.ofSymbol?
    split <;> first | rfl | exact absurd letter (by decide)
  have letterLed : Text.isDigitLed token = false := by
    rw [← Text.isDigitLed_lower, ← same]
    cases command <;> decide +kernel
  have noCell := Numeral.readCell_of_head (Option.bind_eq_none_iff.2 noOperator) letterLed
  refine ⟨?_, noCell, noOperator, ?_⟩
  · intro tokenNil
    rw [tokenNil] at same
    cases command <;> cases same
  · intro colon
    exact absurd (letter ':' colon) (by decide)

/-- Where a word is known there is no numeral to stop the commands. -/
theorem scan_ne_miss_of_known {words : Dictionary} (checked : words.Checked) {stored : Text}
    (wordlike : (Text.token source).Wordlike)
    (known : words.get? (Text.token source) = some stored) (left : source ≠ []) (missed : Text) :
    scan source ≠ .ok (.miss missed) := by
  intro stopped
  rcases unsignedLed_or_signed left ⟨missed, stopped⟩ with led | ⟨digits, m, signed, -, -⟩
  · rw [led.get?_token checked] at known
    cases known
  · have plus := wordlike.noOperator '+' (by rw [signed]; rfl)
    cases plus

end Command

/-! ### A pass that begins with a word -/

namespace Pass
variable {source start asked middle stored : Text} {s : State}

/-- Where the first token is left to the words, a pass begins with them. -/
theorem watched_of_wordlike (wordlike : (Text.token source).Wordlike) :
    watched source s = afterDeclarations source source s := by
  obtain ⟨c, rest, rfl⟩ := List.exists_cons_of_ne_nil (Text.ne_nil_of_token wordlike.nonempty)
  have first : (Text.token (c :: rest)).head? = some c := Text.head?_token wordlike.nonempty
  have numeral := Numeral.scan_eq_miss_iff.2 ⟨wordlike.noCell, rfl⟩
  have operator := Operator.scan_of_none (wordlike.noOperator c first) rest
  have declaration : Declaration.scan (c :: rest) = .ok (.miss []) := by
    apply Declaration.scan_of_head?_ne
    rw [← Text.head?_token wordlike.nonempty]
    exact wordlike.noColon
  rw [watched_eq, Stage.bind_of_miss numeral rfl, afterNumerals, Stage.bind_of_miss operator rfl,
    afterOperators, Stage.bind_of_miss declaration rfl]

/-- The watch is of no account where commands cannot come back to the beginning of the pass. -/
theorem afterWord_eq (moves : ∀ rest t, Stage.commands.run middle s = .ok rest t → rest ≠ start) :
    afterWord start asked middle s = Stage.commands.run middle s := by
  rw [afterWord]
  cases ran : Stage.commands.run middle s with
  | error e t => rw [Action.bind_of_error ran]
  | ok rest t => rw [Action.bind_of_ok ran, watch_of_ne (moves rest t ran)]

/-- **A pass that begins with a word** comes to the commands with its text in its place. -/
theorem watched_of_known (checked : s.words.Checked) (wordlike : (Text.token source).Wordlike)
    (known : s.words.get? (Text.token source) = some stored) :
    watched source s = Stage.commands.run (stored ++ Text.afterToken source)
      { s with log := .expanded stored :: s.log } := by
  rw [watched_of_wordlike wordlike, afterDeclarations,
    Action.bind_of_ok (Action.expand_of_some known)]
  apply afterWord_eq
  -- what has stopped the commands does not begin with a word
  intro rest t ran same
  obtain ⟨missed, stopped⟩ := Stage.scan_of_run_eq_ok ran
  rw [same] at stopped
  have left := Text.ne_nil_of_token wordlike.nonempty
  exact Command.scan_ne_miss_of_known checked wordlike known left missed stopped

/-- A pass that begins with a command, if that is no word, comes to it at once. -/
theorem watched_of_command {command : Command}
    (named : Command.ofName? (Text.lower (Text.token source)) = some command)
    (unknown : s.words.get? (Text.token source) = none) :
    watched source s = Stage.commands.run source s := by
  have wordlike := Command.wordlike_of_ofName? named
  have left := Text.ne_nil_of_token wordlike.nonempty
  rw [watched_of_wordlike wordlike, afterDeclarations,
    Action.bind_of_ok (Action.expand_of_none unknown)]
  apply afterWord_eq
  -- a command has been taken, so less is left
  intro rest t ran same
  obtain ⟨-, ⟨missed, stopped⟩, -⟩ := Stage.of_length_le ran (by rw [same])
  have found : Stage.commands.scan source = _ := Command.scan_of_ofName? left named
  rw [found] at stopped
  cases stopped

end Pass

/-! ### Words and their texts -/

namespace Text
variable {word behind : Text}

theorem parted_withPlainSpaces (parted : ∀ c ∈ behind.head?, isBlank c = true) :
    behind.withPlainSpaces = [] ∨ isSpaceLed behind.withPlainSpaces = true := by
  cases behind with
  | nil => exact .inl rfl
  | cons c behind =>
    have blank : isBlank c = true := parted c rfl
    have space : isSpaceLed (' ' :: withPlainSpaces behind) = true := rfl
    exact .inr (by simpa [withPlainSpaces, blank] using space)

/-- A first token without blanks is read as it is written. -/
theorem withPlainSpaces_append_of_solid (solid : ∀ c ∈ word, isBlank c = false) (behind : Text) :
    (word ++ behind).withPlainSpaces = word ++ behind.withPlainSpaces := by
  rw [withPlainSpaces_append, (plain_of_solid solid).withPlainSpaces]

theorem token_append_of_parted (parted : behind = [] ∨ isSpaceLed behind = true) :
    token (word ++ behind) = token word := by
  rcases parted with rfl | led
  · rw [List.append_nil]
  · exact token_append led

end Text

namespace Pass
variable {word stored behind : Text} {s : State} {outcome : Machine × Option Error}
  (checked : s.words.Checked) (parted : behind = [] ∨ Text.isSpaceLed behind = true)
  (solid : ∀ c ∈ word, Text.isSpace c = false) (wordlike : word.Wordlike)
  (known : s.words.get? word = some stored)
include checked parted solid wordlike known

theorem watched_word : watched (word ++ behind) s =
    Stage.commands.run (stored ++ behind) { s with log := .expanded stored :: s.log } := by
  obtain ⟨token, after⟩ := Text.cut_solid solid parted
  have begun : watched (word ++ behind) s = Stage.commands.run (stored ++ _) _ :=
    watched_of_known checked (token.symm ▸ wordlike) (token.symm ▸ known)
  rwa [after] at begun

/-- A numeral is left to the next pass, which begins with the word's text. -/
theorem comesBy_word_of_numeral {n : Nat}
    (unsigned : Numeral.readUnsigned (Text.token stored) = .ok (some n)) :
    ComesBy (word ++ behind) s outcome ↔ ComesBy (stored ++ behind) s outcome := by
  have left : stored ++ behind ≠ [] := checked.append_ne_nil known
  have head : Text.token (stored ++ behind) = Text.token stored :=
    Text.token_append_of_parted parted
  obtain ⟨missed, stopped⟩ := Command.scan_of_readUnsigned left (head.symm ▸ unsigned)
  have made : Stage.commands.run (stored ++ behind) { s with log := .expanded stored :: s.log } =
      .ok (stored ++ behind) { s with
        log := .strayNumeral (Text.lower (Text.token (stored ++ behind))) ::
          .expanded stored :: s.log } :=
    Stage.run_eq_ok_of_miss stopped (Stage.stop_commands _ left)
  rw [← watched_word checked parted solid wordlike known] at made
  exact (comesBy_of_ok (by simp [wordlike.nonempty]) made).trans (comesBy_congr rfl checked)

/-- Both passes come to the command, and differ in their records only. -/
theorem comesBy_word_of_command {command : Command}
    (named : Command.ofName? (Text.lower (Text.token stored)) = some command)
    (unknown : s.words.get? (Text.token stored) = none) :
    ComesBy (word ++ behind) s outcome ↔ ComesBy (stored ++ behind) s outcome := by
  have head : Text.token (stored ++ behind) = Text.token stored :=
    Text.token_append_of_parted parted
  have pass : watched (stored ++ behind) s = Stage.commands.run (stored ++ behind) s :=
    watched_of_command (head.symm ▸ named) (head.symm ▸ unknown)
  have fair : (Comparison.unlogged fun _ => False).Fair := Comparison.unlogged_fair
  apply comesBy_of_matches (by simp [wordlike.nonempty]) (checked.append_ne_nil known)
  rw [watched_word checked parted solid wordlike known, pass]
  exact Comparison.agree_same fair.obey fair.stop _ _ _ ⟨rfl, checked⟩

/-- Any other token is unknown to the commands. -/
theorem watched_word_of_unknown
    (unnumbered : Numeral.readUnsigned (Text.token stored) = .ok none)
    (unnamed : Command.ofName? (Text.lower (Text.token stored)) = none) :
    watched (word ++ behind) s = .error (.unknownWord (Text.lower (Text.token stored)))
      { s with log := .expanded stored :: s.log } := by
  have left : stored ++ behind ≠ [] := checked.append_ne_nil known
  have head : Text.token (stored ++ behind) = Text.token stored :=
    Text.token_append_of_parted parted
  have refused := Command.scan_of_unknown left (head.symm ▸ unnamed) (head.symm ▸ unnumbered)
  have failed : Stage.commands.run (stored ++ behind) = _ := Stage.run_of_error refused
  rw [watched_word checked parted solid wordlike known, failed, head]
  rfl

end Pass

namespace Machine

/-- **A word means its text written out, or fails at once.** The word begins a program, and is a
token that no stage before the words would find. Where its text begins with a numeral, or with a
command that is not itself a word, the program with the text in the word's place comes to the same
end, with the same error and the same machine, or neither ends. Where its text begins with anything
else, the run fails for that token, and leaves the machine as it was. -/
theorem runsAlike_inlined {machine : Machine} (obtained : machine.words.Obtained)
    {word stored behind : Text} (solid : ∀ c ∈ word, Text.isBlank c = false)
    (wordlike : word.Wordlike) (known : machine.words.get? word = some stored)
    (plain : stored.withPlainSpaces = stored) (parted : ∀ c ∈ behind.head?, Text.isBlank c = true) :
    ((∃ n, Numeral.readUnsigned (Text.token stored) = .ok (some n)) ∨
        (∃ command, Command.ofName? (Text.lower (Text.token stored)) = some command) ∧
          machine.words.get? (Text.token stored) = none →
      machine.RunsAlike (word ++ behind) (stored ++ behind)) ∧
    (Numeral.readUnsigned (Text.token stored) = .ok none →
      Command.ofName? (Text.lower (Text.token stored)) = none →
      machine.Fails (word ++ behind) (.unknownWord (Text.lower (Text.token stored))) machine) := by
  have checked := obtained.checked
  have parted' := Text.parted_withPlainSpaces parted
  have solid' : ∀ c ∈ word, Text.isSpace c = false := fun c member =>
    (Bool.or_eq_false_iff.1 (solid c member)).1
  have read := Text.withPlainSpaces_append_of_solid solid behind
  refine ⟨fun begins outcome => ?_, fun unnumbered unnamed => ?_⟩
  · rw [endsBy_iff, endsBy_iff, read, Text.withPlainSpaces_append, plain]
    rcases begins with ⟨n, unsigned⟩ | ⟨⟨command, named⟩, unknown⟩
    · exact Pass.comesBy_word_of_numeral checked parted' solid' wordlike known unsigned
    · exact Pass.comesBy_word_of_command checked parted' solid' wordlike known named unknown
  · have failed := Pass.watched_word_of_unknown (s := { toMachine := machine }) checked parted'
      solid' wordlike known unnumbered unnamed
    have left : word ++ behind.withPlainSpaces ≠ [] := by simp [wordlike.nonempty]
    rw [fails_iff, read]
    exact ⟨_, rfl, (Pass.comesTo_of_error left failed).2 rfl⟩

/-- A text that begins with a command, one that begins with a numeral, and one that begins with
another word. -/
theorem runsAlike_inlined_square :
    let words : Dictionary := ⟨[⟨"square".toList, "Dup *".toList⟩, ⟨"inc".toList, "1 +".toList⟩,
      ⟨"cube".toList, "square over *".toList⟩]⟩
    let machine : Machine := { cells := [3], words }
    machine.RunsAlike "Square inc".toList "Dup * inc".toList ∧
      machine.RunsAlike "inc\tdrop drop".toList "1 +\tdrop drop".toList ∧
      machine.Fails "CUBE 7".toList (.unknownWord "square".toList) machine := by
  intro words machine
  have obtained : words.Obtained := ⟨words.entries, words, _, by decide +kernel, .none, rfl⟩
  have solid {word : Text} (blankless : word.any Text.isBlank = false) :
      ∀ c ∈ word, Text.isBlank c = false := by
    simpa using blankless
  have noOperator {token : Text} (letter : token.head?.bind Operator.ofSymbol? = none) :
      ∀ c ∈ token.head?, Operator.ofSymbol? c = none :=
    Option.bind_eq_none_iff.1 letter
  have parted {behind : Text} (blank : behind.head?.all Text.isBlank = true) :
      ∀ c ∈ behind.head?, Text.isBlank c = true :=
    (Option.all_eq_true _ _).1 blank
  have square := @runsAlike_inlined machine obtained "Square".toList "Dup *".toList " inc".toList
    (solid (by decide)) ⟨by decide, by decide +kernel, noOperator (by decide), by decide⟩
    (by decide +kernel) (by decide +kernel) (parted (by decide))
  have inc := @runsAlike_inlined machine obtained "inc".toList "1 +".toList "\tdrop drop".toList
    (solid (by decide)) ⟨by decide, by decide +kernel, noOperator (by decide), by decide⟩
    (by decide +kernel) (by decide +kernel) (parted (by decide))
  have cube := @runsAlike_inlined machine obtained "CUBE".toList "square over *".toList " 7".toList
    (solid (by decide)) ⟨by decide, by decide +kernel, noOperator (by decide), by decide⟩
    (by decide +kernel) (by decide +kernel) (parted (by decide))
  exact ⟨square.1 (.inr ⟨⟨.dup, by decide +kernel⟩, by decide +kernel⟩),
    inc.1 (.inl ⟨1, by decide +kernel⟩), cube.2 (by decide +kernel) (by decide +kernel)⟩

end Machine
end WordStack
