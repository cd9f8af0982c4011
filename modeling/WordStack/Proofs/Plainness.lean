import WordStack.Proofs.Moment
import WordStack.Proofs.WellFormed

/-! What a machine that began empty has before it.

Passes keep machines well formed and texts plain because every item does, so it
can be said of every moment of a run, of one that never ends as well: the text
that is left has no blanks but plain spaces. With that, the words of a machine
that began empty are described as they stand, character by character
(`words_of_leadsTo`). -/
namespace WordStack

/-! ### What items keep, steps keep -/

namespace Comparison
variable {C : Comparison} {T : Text → Text → Prop} {α : Type}

theorem ItemsMatch.of_hit {act : α → Action Unit} {value : α} {rest : Text}
    (items : C.ItemsMatch T act (.ok (.hit value rest)) (.ok (.hit value rest))) :
    C.Agree Eq (act value) (act value) ∧ T rest rest := by
  cases items with
  | hit acts related => exact ⟨acts, related⟩

/-- A law about a single run that passes keep is kept by every step. -/
theorem Kinship.step {m m' : Moment} (kin : C.Kinship T)
    (numerals : ∀ {x y}, T x y → C.ItemsMatch T Action.push (Numeral.scan x) (Numeral.scan y))
    (step : m.Step m') (related : T m.source m.source) (alike : C.Alike m.state m.state) :
    T m'.source m'.source ∧ C.Alike m'.state m'.state := by
  cases step with
  | numeral found =>
    have items := numerals related
    rw [found] at items
    obtain ⟨acts, left⟩ := items.of_hit
    exact ⟨left, (acts.of_ok alike rfl rfl).2⟩
  | operator found done =>
    have items := kin.operators related
    rw [found] at items
    obtain ⟨acts, left⟩ := items.of_hit
    have acted := Effect.act_of_ok done
    rw [← Action.operate_eq] at acted
    exact ⟨left, (acts.of_ok alike acted acted).2⟩
  | @declaration _ _ _ _ s found =>
    have items := kin.declarations related
    rw [found] at items
    obtain ⟨acts, left⟩ := items.of_hit
    have acted := Action.declare_of_scan s found
    exact ⟨left, (acts.of_ok alike acted acted).2⟩
  | word known =>
    have expanded := Action.expand_of_some known
    exact (kin.expand related).of_ok alike expanded expanded
  | command found done =>
    have items := kin.commands related
    rw [found] at items
    obtain ⟨acts, left⟩ := items.of_hit
    have acted := Effect.act_of_ok done
    rw [← Action.obey_eq] at acted
    exact ⟨left, (acts.of_ok alike acted acted).2⟩
  | @pass _ _ _ _ s left _ _ =>
    have stopped := Stage.stop_commands s left
    exact ⟨related, ((kin.stop related).of_ok alike stopped stopped).2⟩
  | noNumeral _ | noOperator _ | noDeclaration _ | noWord _ => exact ⟨related, alike⟩

end Comparison

/-! ### Every moment -/

theorem Moment.Step.wellFormed {m m' : Moment} (step : m.Step m')
    (good : m.source.Plain ∧ m.state.toMachine.WellFormed) :
    m'.source.Plain ∧ m'.state.toMachine.WellFormed := by
  obtain ⟨⟨-, plain⟩, -, kept⟩ := Comparison.wellFormed_kinship.step
    Comparison.wellFormed_numerals step ⟨rfl, good.1⟩ ⟨rfl, good.2⟩
  exact ⟨plain, kept⟩

theorem Machine.Visits.wellFormed {machine : Machine} {text : Text} {m : Moment}
    (good : machine.WellFormed) (visits : machine.Visits text m) :
    m.source.Plain ∧ m.state.toMachine.WellFormed :=
  visits.induction ⟨Text.plain_withPlainSpaces text, good⟩ Moment.Step.wellFormed

namespace Text
variable {text : Text} {c : Char}

theorem Plain.of_mem (plain : Plain text) (member : c ∈ text) :
    isControl c = false ∧ (isSpace c = true → c = ' ') := by
  refine ⟨Bool.eq_false_iff.2 fun control => ?_, fun space =>
    plain c member (isBlank_of_isSpace space)⟩
  have same := plain c member (Bool.or_eq_true_iff.2 (.inr control))
  subst same
  exact absurd control (by decide)

theorem Trimmed.getLast?_any (trimmed : Trimmed text) : text.getLast?.any isSpace = false := by
  cases last : text.getLast? with
  | none => rfl
  | some c =>
    have full : text ≠ [] := by
      rintro rfl
      cases last
    have letter := List.rdropWhile_eq_self_iff.1 trimmed.right full
    rw [List.getLast?_eq_getLast_of_ne_nil full] at last
    cases last
    simpa using letter

end Text

/-- **The words of a machine that began empty**, whatever has been run on it, and the texts that a
run on it has before it. A name is in small letters, has no whitespace, control character or
semicolon, and is not led by a digit; a text is trimmed, has no semicolon or control character, and
no whitespace but plain spaces; no two words share a name. Every text that is left at any moment of
any run has no control character and no whitespace but plain spaces. -/
theorem Machine.words_of_leadsTo {machine : Machine} (leads : Machine.LeadsTo {} machine) :
    (∀ entry ∈ machine.words.entries,
      (entry.name ≠ [] ∧ Text.lower entry.name = entry.name ∧
        Text.isDigitLed entry.name = false ∧
        ∀ c ∈ entry.name, Text.isSpace c = false ∧ Text.isControl c = false ∧ c ≠ ';') ∧
      entry.text ≠ [] ∧ entry.text.head?.any Text.isSpace = false ∧
        entry.text.getLast?.any Text.isSpace = false ∧
        ∀ c ∈ entry.text,
          c ≠ ';' ∧ Text.isControl c = false ∧ (Text.isSpace c = true → c = ' ')) ∧
    (machine.words.entries.map (·.name)).Nodup ∧
    ∀ text m, machine.Visits text m →
      ∀ c ∈ m.source, Text.isControl c = false ∧ (Text.isSpace c = true → c = ' ') := by
  have good := Machine.wellFormed_of_leadsTo leads
  refine ⟨fun entry member => ?_, good.words.distinct, fun text m visits c => ?_⟩
  · have word := good.words.words entry member
    refine ⟨⟨word.named, word.small, word.letterLed, fun c there => ?_⟩, word.full,
      word.trimmed.led, word.trimmed.getLast?_any, fun c there => ?_⟩
    · have letter := Bool.or_eq_false_iff.1 (word.solid c there)
      exact ⟨letter.1, letter.2, ne_of_mem_of_not_mem there word.closed.1⟩
    · exact ⟨ne_of_mem_of_not_mem there word.closed.2, word.plain.of_mem there⟩
  · exact (visits.wellFormed good).1.of_mem

/-- A machine on which a run has failed, behind two declarations with odd names and blanks, and a
moment of a run on it that expands one of the words. -/
theorem Machine.words_of_leadsTo_failed :
    let word : Entry := ⟨"größe".toList, "1  2".toList⟩
    let machine : Machine := { cells := [7], words := ⟨[word, ⟨"-5".toList, "x".toList⟩]⟩ }
    let m : Moment := ⟨.commands "Größe drop".toList, "Größe drop".toList, "1  2 drop".toList,
      { toMachine := machine, log := [.expanded word.text] }⟩
    Machine.LeadsTo {} machine ∧ machine.Visits "Größe\tdrop".toList m ∧
      Text.lower word.name = word.name ∧ (machine.words.entries.map (·.name)).Nodup ∧
      ∀ c ∈ m.source, Text.isControl c = false ∧ (Text.isSpace c = true → c = ' ') := by
  intro word machine m
  have leads : Machine.LeadsTo {} machine :=
    Machine.LeadsTo.none.eval? ": Größe\t1\u00a0\x0b2 ;\x07: -5 x ; 7 zzz".toList 4
      (by decide +kernel)
  have visits : machine.Visits "Größe\tdrop".toList m := by
    have numeral : Numeral.scan "Größe drop".toList = .ok (.miss "Größe drop".toList) := by
      decide +kernel
    have operator : Operator.scan "Größe drop".toList = .ok (.miss "Größe drop".toList) := by
      decide +kernel
    have declaration : Declaration.scan "Größe drop".toList = .ok (.miss []) := by decide +kernel
    have known : machine.words.get? (Text.token "Größe drop".toList) = some word.text := by
      decide +kernel
    have after : Text.afterToken "Größe drop".toList = " drop".toList := by decide +kernel
    have plain : Text.withPlainSpaces "Größe\tdrop".toList = "Größe drop".toList := by
      decide +kernel
    have last : Moment.Step ⟨.word, "Größe drop".toList, "Größe drop".toList,
        { toMachine := machine }⟩ _ := .word known
    rw [after] at last
    refine ⟨by decide, ?_⟩
    rw [plain]
    exact .head (.noNumeral numeral) (.head (.noOperator operator)
      (.head (.noDeclaration declaration) (.single last)))
  have told := words_of_leadsTo leads
  exact ⟨leads, visits, (told.1 word (List.mem_cons_self ..)).1.2.1, told.2.1,
    told.2.2 _ m visits⟩

end WordStack
