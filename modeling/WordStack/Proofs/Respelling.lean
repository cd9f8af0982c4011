import Mathlib.Data.List.Forall2
import WordStack.Proofs.Cutting
import WordStack.Proofs.LetterCase
import WordStack.Proofs.Watch

/-! Programs that are spelled in another way.

Texts may be spelled differently and yet be programs that do the same. What it
takes is said of a relation of texts (`Text.Respelling`): cutting, trimming and
joining keep it, first tokens are the same but for the case of ASCII letters, and
the characters that are looked for one by one stay. Then a run that comes to the
end of a text has its like over every text that is related: it leaves the same
stack and the same names, which stand for related texts
(`Machine.completes_of_respelling`). The texts that are declared differ in
spelling, too, and are read again when they are expanded, so the dictionaries are
related and not the same. -/
namespace WordStack

/-! ### Dictionaries -/

namespace Dictionary

/-- The same names in the same order, each for a text that is related. -/
def Corresponds (R : Text → Text → Prop) (d d' : Dictionary) : Prop :=
  List.Forall₂ (fun entry entry' => entry.name = entry'.name ∧ R entry.text entry'.text)
    d.entries d'.entries

variable {R : Text → Text → Prop} {d d' : Dictionary}

theorem corresponds_rfl (refl : ∀ text, R text text) : Corresponds R d d :=
  List.forall₂_same.2 fun entry _ => ⟨rfl, refl entry.text⟩

theorem Corresponds.find? (alike : Corresponds R d d') (name : Text) :
    Option.Rel R (d.find? name) (d'.find? name) := by
  obtain ⟨entries⟩ := d
  obtain ⟨entries'⟩ := d'
  have pairs : List.Forall₂ (fun entry entry' : Entry => entry.name = entry'.name ∧
      R entry.text entry'.text) entries entries' := alike
  simp only [Dictionary.find?]
  induction pairs with
  | nil => exact .none
  | @cons entry entry' rest rest' pair _ ih =>
    by_cases here : entry.name = name
    · have there : entry'.name = name := pair.1 ▸ here
      simpa [here, there] using Option.Rel.some pair.2
    · have elsewhere : entry'.name ≠ name := pair.1 ▸ here
      simpa [here, elsewhere] using ih ‹_›

theorem Corresponds.get? (alike : Corresponds R d d') {key key' : Text}
    (same : Text.lower key = Text.lower key') : Option.Rel R (d.get? key) (d'.get? key') := by
  rw [Dictionary.get?, Dictionary.get?, ← same]
  exact alike.find? _

theorem Corresponds.put {text text' : Text} (alike : Corresponds R d d') (name : Text)
    (related : R text text') : Corresponds R (d.put name text) (d'.put name text') := by
  obtain ⟨entries⟩ := d
  obtain ⟨entries'⟩ := d'
  have pairs : List.Forall₂ (fun entry entry' : Entry => entry.name = entry'.name ∧
      R entry.text entry'.text) entries entries' := alike
  simp only [Corresponds, Dictionary.put]
  induction pairs with
  | nil => exact .cons ⟨rfl, related⟩ .nil
  | @cons entry entry' rest rest' pair later ih =>
    by_cases here : entry.name = name
    · have there : entry'.name = name := pair.1 ▸ here
      simpa [place, here, there] using And.intro related later
    · have elsewhere : entry'.name ≠ name := pair.1 ▸ here
      simpa [place, here, elsewhere] using And.intro pair (ih later)

end Dictionary

/-! ### What a respelling owes -/

namespace Text

/-- The characters that are looked for one by one. -/
def marks : Text := ['+', '-', '*', '/', ':', ';']

/-- What a relation of texts owes for related texts to be programs that do the same. -/
structure Respelling (R : Text → Text → Prop) : Prop where
  symm : ∀ {x y}, R x y → R y x
  nil : ∀ {y}, R [] y → y = []
  /-- A mark that stands first stands first in the other text. -/
  mark : ∀ {c x y}, c ∈ marks → R (c :: x) y → ∃ y', y = c :: y' ∧ R x y'
  append : ∀ {x y z w}, R x y → R z w → R (x ++ z) (y ++ w)
  token : ∀ {x y}, R x y → (token x).map Char.toLower = (token y).map Char.toLower
  afterToken : ∀ {x y}, R x y → R (afterToken x) (afterToken y)
  trimLeft : ∀ {x y}, R x y → R (trimLeft x) (trimLeft y)
  trimRight : ∀ {x y}, R x y → R (trimRight x) (trimRight y)
  declared : ∀ {x y}, R x y → R (x.takeWhile (· != ';')) (y.takeWhile (· != ';'))
  undeclared : ∀ {x y}, R x y → R (x.dropWhile (· != ';')) (y.dropWhile (· != ';'))

namespace Respelling
variable {R : Text → Text → Prop} {x y : Text} (respelling : Respelling R)
include respelling

theorem nil_iff (related : R x y) : x = [] ↔ y = [] := by
  constructor
  · rintro rfl
    exact respelling.nil related
  · rintro rfl
    exact respelling.nil (respelling.symm related)

/-- A mark leads both texts or neither. -/
theorem head?_iff {c : Char} (marked : c ∈ marks) (related : R x y) :
    x.head? = some c ↔ y.head? = some c := by
  have leads : ∀ {z w}, R z w → z.head? = some c → w.head? = some c := by
    intro z w related led
    obtain ⟨z, rfl⟩ := List.head?_eq_some_iff.1 led
    obtain ⟨w, rfl, -⟩ := respelling.mark marked related
    rfl
  exact ⟨leads related, leads (respelling.symm related)⟩

theorem trim (related : R x y) : R (Text.trim x) (Text.trim y) :=
  respelling.trimRight (respelling.trimLeft related)

theorem readCell_token (related : R x y) :
    Numeral.readCell (Text.token x) = Numeral.readCell (Text.token y) := by
  rw [← Numeral.readCell_map_toLower, respelling.token related, Numeral.readCell_map_toLower]

theorem lower_token (related : R x y) : lower (Text.token x) = lower (Text.token y) := by
  rw [← lower_map_toLower, respelling.token related, lower_map_toLower]

theorem isDigitLed_token (related : R x y) :
    isDigitLed (Text.token x) = isDigitLed (Text.token y) := by
  rw [← isDigitLed_map_toLower, respelling.token related, isDigitLed_map_toLower]

end Respelling
end Text

/-! ### Runs over texts that are spelled differently -/

namespace Comparison
open Text (Respelling)

/-- The cells are the same and so are the names, for related texts; the records may be any. The
first run is known not to fail. -/
def respelled (R : Text → Text → Prop) : Comparison where
  Alike s t := s.cells = t.cells ∧ Dictionary.Corresponds R s.words t.words
  Left _ := True
  Right _ := False

variable {R : Text → Text → Prop} {x y : Text}

theorem respelled_act (effect : Effect) : (respelled R).Agree Eq effect.act effect.act := by
  intro s t alike
  obtain ⟨cells, words⟩ := alike
  simp only [Effect.act, ← cells]
  cases effect s.cells with
  | ok left => exact .ok rfl ⟨rfl, words⟩
  | error failed => exact .left trivial

theorem respelled_operate (op : Operator) :
    (respelled R).Agree Eq (Action.operate op) (Action.operate op) := by
  rw [Action.operate_eq]
  exact respelled_act _

theorem respelled_obey (command : Command) :
    (respelled R).Agree Eq (Action.obey command) (Action.obey command) := by
  rw [Action.obey_eq]
  exact respelled_act _

section
variable (respelling : Respelling R)
include respelling

theorem respelled_declare {declaration declaration' : Declaration}
    (named : declaration.name = declaration'.name) (related : R declaration.text declaration'.text) :
    (respelled R).Agree Eq (Action.declare declaration) (Action.declare declaration') := by
  intro s t alike
  rw [Action.declare_eq, Action.declare_eq]
  cases entered : s.words.set declaration.name declaration.text with
  | error e => exact .left trivial
  | ok words =>
    obtain ⟨nonempty, led, full, rfl⟩ := Dictionary.set_eq_ok_iff.1 entered
    have full' := mt (respelling.nil_iff (respelling.trim related)).2 full
    have entered' := (Dictionary.set_eq_ok_iff (d := t.words)).2 ⟨nonempty, led, full', rfl⟩
    rw [← named, entered']
    exact .ok rfl ⟨alike.1, alike.2.put _ related⟩

theorem respelled_numerals (related : R x y) :
    (respelled R).ItemsMatch R Action.push (Numeral.scan x) (Numeral.scan y) := by
  unfold Numeral.scan
  rw [respelling.readCell_token related]
  cases Numeral.readCell (Text.token y) with
  | error e => exact .left trivial
  | ok n? =>
    cases n? with
    | none => exact .miss
    | some n =>
      exact .hit (respelled_act (Effect.push n))
        (respelling.trimLeft (respelling.afterToken related))

theorem exists_cons_of_ofSymbol? {c : Char} {op : Operator} (known : Operator.ofSymbol? c = some op)
    (related : R (c :: x) y) : ∃ y', y = c :: y' ∧ R x y' := by
  refine respelling.mark ?_ related
  rw [← Operator.symbol_of_ofSymbol? known]
  cases op <;> decide

theorem respelled_operators (related : R x y) :
    (respelled R).ItemsMatch R Action.operate (Operator.scan x) (Operator.scan y) := by
  cases x with
  | nil =>
    rw [respelling.nil related]
    exact .miss
  | cons c x =>
    rw [Operator.scan]
    cases known : Operator.ofSymbol? c with
    | some op =>
      obtain ⟨y, rfl, behind⟩ := exists_cons_of_ofSymbol? respelling known related
      simp only [Operator.scan, known]
      exact .hit (respelled_operate op) (respelling.trimLeft behind)
    | none =>
      cases y with
      | nil => exact .miss
      | cons d y =>
        rw [Operator.scan]
        cases known' : Operator.ofSymbol? d with
        | none => exact .miss
        | some op =>
          obtain ⟨_, same, -⟩ :=
            exists_cons_of_ofSymbol? respelling known' (respelling.symm related)
          rw [(List.cons.inj same).1, known'] at known
          cases known

/-- What is read between colon and semicolon is a declaration of the same name for a related
text. -/
theorem read_of_respelling {declaration : Declaration} (related : R x y)
    (read : Declaration.read x = .ok declaration) :
    ∃ declaration', Declaration.read y = .ok declaration' ∧
      declaration.name = declaration'.name ∧ R declaration.text declaration'.text := by
  obtain ⟨nonempty, full, led, rfl⟩ := Declaration.read_eq_ok_iff.1 read
  have texts := respelling.trim (respelling.afterToken related)
  have nonempty' := mt (respelling.nil_iff related).2 nonempty
  have full' := mt (respelling.nil_iff texts).2 full
  have led' := respelling.isDigitLed_token related ▸ led
  exact ⟨_, Declaration.read_eq_ok_iff.2 ⟨nonempty', full', led', rfl⟩,
    respelling.lower_token related, texts⟩

theorem respelled_declarations (related : R x y) :
    (respelled R).ItemsMatch R Action.declare (Declaration.scan x) (Declaration.scan y) := by
  by_cases colon : x.head? = some ':'
  · obtain ⟨source, rfl⟩ := List.head?_eq_some_iff.1 colon
    obtain ⟨source', rfl, sources⟩ := respelling.mark (by decide) related
    cases found : source.dropWhile (· != ';') with
    | nil =>
      rw [Declaration.scan_unterminated (Declaration.not_mem_of_dropWhile found)]
      exact .left trivial
    | cons c after =>
      obtain rfl : c = ';' := by
        have stops := List.head?_dropWhile_not (· != ';') source
        simpa [found] using stops
      have rest := respelling.undeclared sources
      rw [found] at rest
      obtain ⟨after', found', behind⟩ := respelling.mark (by decide) rest
      rw [Declaration.scan_of_dropWhile found, Declaration.scan_of_dropWhile found']
      have bodies := respelling.trim (respelling.declared sources)
      cases read : Declaration.read (Text.trim (source.takeWhile (· != ';'))) with
      | error e => exact .left trivial
      | ok declaration =>
        obtain ⟨declaration', read', named, texts⟩ := read_of_respelling respelling bodies read
        rw [read']
        exact .hit (respelled_declare respelling named texts) (respelling.trim behind)
  · have colon' := mt (respelling.head?_iff (by decide) related).2 colon
    rw [Declaration.scan_of_head?_ne colon, Declaration.scan_of_head?_ne colon']
    exact .miss

theorem respelled_commands (related : R x y) :
    (respelled R).ItemsMatch R Action.obey (Command.scan x) (Command.scan y) := by
  unfold Command.scan
  by_cases ended : x = []
  · rw [if_pos ended, if_pos ((respelling.nil_iff related).1 ended)]
    exact .miss
  · rw [if_neg ended, if_neg (mt (respelling.nil_iff related).2 ended),
      respelling.lower_token related]
    cases Command.read (Text.lower (Text.token y)) with
    | error e => exact .left trivial
    | ok command? =>
      cases command? with
      | none => exact .miss
      | some command =>
        exact .hit (respelled_obey command) (respelling.trimLeft (respelling.afterToken related))

theorem respelled_expand (related : R x y) :
    (respelled R).Agree R (Action.expand x) (Action.expand y) := by
  intro s t alike
  have found := alike.2.get? (respelling.lower_token related)
  generalize known : s.words.get? (Text.token x) = text?,
    known' : t.words.get? (Text.token y) = text?' at found
  cases found with
  | none =>
    rw [Action.expand_of_none known, Action.expand_of_none known']
    exact .ok related alike
  | some texts =>
    rw [Action.expand_of_some known, Action.expand_of_some known']
    exact .ok (respelling.append texts (respelling.afterToken related)) alike

/-- Passes keep the spellings of a text related. -/
theorem respelled_kinship : (respelled R).Kinship R where
  operators := respelled_operators respelling
  declarations := respelled_declarations respelling
  commands := respelled_commands respelling
  stop {x y} _ := agree_stop (fun _ _ alike => alike) x y
  expand := respelled_expand respelling

/-- A run that comes to the end of a text has its like over every text that is related. -/
theorem respelled_repeated {passes : Nat} {s t s' : State} (related : R x y)
    (alike : (respelled R).Alike s t)
    (ended : Pass.repeated Pass.plain passes x s = some (.ok () s')) :
    ∃ t', Pass.repeated Pass.plain passes y t = some (.ok () t') ∧ (respelled R).Alike s' t' := by
  have runs := runsMatch respelling.nil_iff
    ((respelled_kinship respelling).plain (respelled_numerals respelling)) passes related alike
  rw [ended] at runs
  generalize Pass.repeated Pass.plain passes y t = run at runs ⊢
  cases runs with
  | right excused => exact excused.elim
  | both ends =>
    cases ends with
    | right excused => exact excused.elim
    | ok _ after => exact ⟨_, rfl, after⟩

end

end Comparison

/-- **A program that completes, completes in every spelling**, with the same stack and the same
names for related texts. -/
theorem Machine.completes_of_respelling {R : Text → Text → Prop} (respelling : Text.Respelling R)
    (refl : ∀ text, R text text) {machine after : Machine} {text text' : Text}
    (related : R text.withPlainSpaces text'.withPlainSpaces)
    (completes : machine.Completes text after) :
    ∃ words, Dictionary.Corresponds R after.words words ∧
      machine.Completes text' { after with words } := by
  obtain ⟨s, rfl, passes, ended⟩ := completes_iff_comesTo.1 completes
  have alike : (Comparison.respelled R).Alike { toMachine := machine } { toMachine := machine } :=
    ⟨rfl, Dictionary.corresponds_rfl refl⟩
  obtain ⟨t, ended', cells, words⟩ :=
    Comparison.respelled_repeated respelling related alike ended
  refine ⟨t.words, words, completes_iff_comesTo.2 ⟨t, ?_, passes, ended'⟩⟩
  rw [cells]

end WordStack
