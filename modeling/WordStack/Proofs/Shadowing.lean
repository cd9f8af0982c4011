import WordStack.Proofs.Checked
import WordStack.Proofs.Moment

/-! Words named like numerals and operators.

A word can be named `-5` or `*x`, since only a decimal digit may not begin a name.
Numerals and operators are looked for before words, so for the most part such a
word is never expanded: a text comes to the stage of words from that of operators,
and there its front was no operator and no numeral either. But a declaration hands
on what stands behind it to the stage of words in the same pass. Right behind a
declaration, and only there, a word goes before a numeral or an operator of its
name. -/
namespace WordStack

/-! ### Words at every moment -/

theorem Moment.Step.checked {m m' : Moment} (step : m.Step m') (checked : m.state.words.Checked) :
    m'.state.words.Checked := by
  cases step with
  | declaration found => exact checked.set (Declaration.set_of_scan_eq_hit found _)
  | numeral | noNumeral | operator | noOperator | noDeclaration | word | noWord | command | pass =>
    exact checked

namespace Machine
variable {machine : Machine} {text : Text} {m : Moment}

theorem Visits.checked (visits : machine.Visits text m) (obtained : machine.words.Obtained) :
    m.state.words.Checked :=
  visits.induction obtained.checked Moment.Step.checked

/-- A moment is the first of its run, or another one led to it. -/
theorem Visits.exists_before (visits : machine.Visits text m) :
    m = Moment.begin text.withPlainSpaces { toMachine := machine } ∨
      ∃ before, machine.Visits text before ∧ before.Step m := by
  obtain ⟨left, leads⟩ := visits
  rcases leads.cases_tail with rfl | ⟨before, leads, step⟩
  · exact .inl rfl
  · exact .inr ⟨before, ⟨left, leads⟩, step⟩

/-- Declarations are looked for where there is no operator, or behind another declaration. -/
theorem Visits.declarations (visits : machine.Visits text m) (phase : m.phase = .declarations) :
    (∃ missed, Operator.scan m.source = .ok (.miss missed)) ∨
      ∃ before, machine.Visits text before ∧ before.phase = .declarations ∧ before.Step m := by
  rcases visits.exists_before with rfl | ⟨before, earlier, step⟩
  · cases phase
  · cases step with
    | noOperator found => exact .inl ⟨_, found⟩
    | declaration found => exact .inr ⟨_, earlier, rfl, .declaration found⟩
    | numeral | noNumeral | operator | noDeclaration | word | noWord | command | pass => cases phase

/-- A word is looked for where no declaration is found. -/
theorem Visits.word (visits : machine.Visits text m) (phase : m.phase = .word) :
    ∃ behind, machine.Visits text behind ∧ behind.phase = .declarations ∧
      behind.source = m.source ∧ behind.Step m := by
  rcases visits.exists_before with rfl | ⟨before, earlier, step⟩
  · cases phase
  · cases step with
    | noDeclaration found => exact ⟨_, earlier, rfl, rfl, .noDeclaration found⟩
    | numeral | noNumeral | operator | noOperator | declaration | word | noWord | command | pass =>
      cases phase

end Machine

/-! ### What can be a word -/

/-- A token that begins with neither an operator nor a digit is no numeral. -/
theorem Numeral.readCell_of_head {token : Text}
    (plain : token.head?.bind Operator.ofSymbol? = none)
    (letterLed : Text.isDigitLed token = false) : readCell token = .ok none := by
  cases token with
  | nil => rfl
  | cons c rest =>
    have noSymbol : Operator.ofSymbol? c = none := plain
    have noDigit : c.isDigit = false := by
      refine Bool.eq_false_iff.2 fun digit => ?_
      have decimal : Text.isDecimal c = false := letterLed
      rw [Text.isDecimal_of_isDigit digit] at decimal
      cases decimal
    have unsigned : splitSign (c :: rest) = (1, c :: rest) := by
      refine (splitSign_cases (c :: rest)).resolve_right ?_
      rintro ⟨op, digits, sign, same, -⟩
      rw [(List.cons.inj same).1, Operator.ofSymbol?_symbol] at noSymbol
      cases noSymbol
    simp [readCell, unsigned, magnitude, noDigit, Except.map]

theorem Operator.head?_of_scan {source missed : Text} (found : scan source = .ok (.miss missed)) :
    (Text.token source).head?.bind ofSymbol? = none := by
  cases source with
  | nil => rfl
  | cons c rest =>
    by_cases space : Text.isSpace c = true
    · have led : Text.isSpaceLed (c :: rest) = true := space
      rw [Text.token_of_isSpaceLed led]
      rfl
    · rw [Text.token_cons (Bool.eq_false_iff.2 space)]
      cases symbol : ofSymbol? c with
      | none => simpa using symbol
      | some op => simp [scan, symbol] at found

namespace Machine
variable {machine : Machine} {text stored : Text} {m : Moment}

/-- **A word is expanded in the place of a numeral or an operator only right behind a declaration**,
in the same pass. Anywhere else the token that is expanded is no numeral and does not begin with an
operator, and nowhere does it begin with a decimal digit. -/
theorem Visits.expanded (obtained : machine.words.Obtained) (visits : machine.Visits text m)
    (phase : m.phase = .word) (known : m.state.words.get? (Text.token m.source) = some stored) :
    Text.isDigitLed (Text.token m.source) = false ∧
      (Numeral.readCell (Text.token m.source) = .ok none ∧
          (Text.token m.source).head?.bind Operator.ofSymbol? = none ∨
        ∃ before behind, machine.Visits text before ∧ before.phase = .declarations ∧
          before.Step behind ∧ behind.phase = .declarations ∧ behind.Step m) := by
  have checked := visits.checked obtained
  have letterLed : Text.isDigitLed (Text.token m.source) = false := by
    refine Bool.eq_false_iff.2 fun digit => ?_
    rw [checked.get?_of_isDigitLed digit] at known
    cases known
  obtain ⟨behind, visits', phase', source, step⟩ := visits.word phase
  refine ⟨letterLed, ?_⟩
  rcases visits'.declarations phase' with ⟨missed, found⟩ | ⟨before, visits'', phase'', step'⟩
  · have plain := Operator.head?_of_scan (source ▸ found)
    exact .inl ⟨Numeral.readCell_of_head plain letterLed, plain⟩
  · exact .inr ⟨before, behind, visits'', phase'', step', phase', step⟩

/-- A numeral goes before the word of its name. -/
theorem Visits.expanded_behind_numeral :
    let words : Dictionary := ⟨[⟨"-5".toList, "7".toList⟩, ⟨"inc".toList, "1 +".toList⟩]⟩
    let m : Moment := ⟨.word, "-5 Inc".toList, "Inc".toList, { cells := [-5], words }⟩
    Machine.Visits { words } "-5 Inc".toList m ∧
      Text.isDigitLed (Text.token m.source) = false ∧
        (Numeral.readCell (Text.token m.source) = .ok none ∧
            (Text.token m.source).head?.bind Operator.ofSymbol? = none ∨
          ∃ before behind, Machine.Visits { words } "-5 Inc".toList before ∧
            before.phase = .declarations ∧ before.Step behind ∧ behind.phase = .declarations ∧
              behind.Step m) := by
  intro words m
  have obtained : words.Obtained := ⟨words.entries, words, _, by decide +kernel, .none, rfl⟩
  have numeral : Numeral.scan "-5 Inc".toList = .ok (.hit (-5) "Inc".toList) := by decide +kernel
  have noNumeral : Numeral.scan "Inc".toList = .ok (.miss "Inc".toList) := by decide +kernel
  have noOperator : Operator.scan "Inc".toList = .ok (.miss "Inc".toList) := by decide +kernel
  have noDeclaration : Declaration.scan "Inc".toList = .ok (.miss []) := by decide +kernel
  have visits : Machine.Visits { words } "-5 Inc".toList m :=
    ⟨by decide, .head (.numeral numeral) (.head (.noNumeral noNumeral)
      (.head (.noOperator noOperator) (.single (.noDeclaration noDeclaration))))⟩
  have known : words.get? (Text.token "Inc".toList) = some "1 +".toList := by decide +kernel
  exact ⟨visits, visits.expanded obtained rfl known⟩

/-- Right behind its declaration, a word goes before a numeral. -/
theorem not_expanded_plain : ¬ ∀ {machine : Machine} {text stored : Text} {m : Moment},
    machine.words.Obtained → machine.Visits text m → m.phase = .word →
    m.state.words.get? (Text.token m.source) = some stored →
    Numeral.readCell (Text.token m.source) = .ok none ∧
      (Text.token m.source).head?.bind Operator.ofSymbol? = none := by
  intro plain
  have obtained : Dictionary.Obtained {} := ⟨[], {}, _, rfl, .none, rfl⟩
  have noNumeral : Numeral.scan ": -5 7 ; -5".toList = .ok (.miss ": -5 7 ; -5".toList) := by
    decide +kernel
  have noOperator : Operator.scan ": -5 7 ; -5".toList = .ok (.miss ": -5 7 ; -5".toList) := by
    decide +kernel
  have declaration : Declaration.scan ": -5 7 ; -5".toList =
      .ok (.hit ⟨"-5".toList, "7".toList⟩ "-5".toList) := by
    decide +kernel
  have noDeclaration : Declaration.scan "-5".toList = .ok (.miss []) := by decide +kernel
  have visits : Machine.Visits {} ": -5 7 ; -5".toList _ :=
    ⟨by decide, .head (.noNumeral noNumeral) (.head (.noOperator noOperator)
      (.head (.declaration declaration) (.single (.noDeclaration noDeclaration))))⟩
  have known : Dictionary.get? ⟨[⟨"-5".toList, "7".toList⟩]⟩ (Text.token "-5".toList) =
      some "7".toList := by
    decide +kernel
  have read : Numeral.readCell (Text.token "-5".toList) = .ok (some (-5)) := by decide +kernel
  have unread := (plain obtained visits rfl known).1
  cases read.symm.trans unread

end Machine
end WordStack
