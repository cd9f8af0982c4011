import WordStack.Proofs.Checked

/-! Machines that began empty.

What a machine holds that was not seeded has come in through programs. These are
read with plain spaces for all blanks, and so are the texts that words stand for,
since they were cut from programs: every text that a pass has before it is plain.
So the cells are in range, and every word is such as a declaration makes it, in
small letters and trimmed, without a semicolon in it and without any blank but
plain spaces in its text; and no two words share a name. Every item keeps it so,
those that fail included, hence every run does. -/
namespace WordStack

namespace Text
variable {text rest : Text}

/-- The only blanks in the text are plain spaces. -/
def Plain (text : Text) : Prop := ∀ c ∈ text, isBlank c = true → c = ' '

theorem plain_withPlainSpaces (text : Text) : Plain text.withPlainSpaces := by
  intro c member blank
  obtain ⟨d, -, rfl⟩ := List.mem_map.1 member
  by_cases blank' : isBlank d = true
  · rw [if_pos blank']
  · rw [if_neg blank'] at blank
    exact absurd blank blank'

theorem plain_of_solid (solid : ∀ c ∈ text, isBlank c = false) : Plain text := by
  intro c member blank
  rw [solid c member] at blank
  cases blank

theorem Plain.withPlainSpaces (plain : Plain text) : text.withPlainSpaces = text := by
  refine (List.map_congr_left fun c member => ?_).trans (List.map_id text)
  by_cases blank : isBlank c = true
  · rw [if_pos blank, plain c member blank]
    rfl
  · rw [if_neg blank]
    rfl

theorem Plain.sublist (plain : Plain text) (part : List.Sublist rest text) : Plain rest :=
  fun c member => plain c (part.mem member)

theorem Plain.append (plain : Plain text) (plain' : Plain rest) : Plain (text ++ rest) :=
  List.forall_mem_append.2 ⟨plain, plain'⟩

theorem Plain.trimLeft (plain : Plain text) : Plain text.trimLeft :=
  plain.sublist (List.dropWhile_sublist _)

theorem Plain.afterToken (plain : Plain text) : Plain text.afterToken :=
  plain.sublist (List.dropWhile_sublist _)

/-- The tokens of a plain text have no blanks at all. -/
theorem Plain.isBlank_of_mem_token (plain : Plain text) {c : Char} (member : c ∈ token text) :
    isBlank c = false := by
  refine Bool.eq_false_iff.2 fun blank => ?_
  have letter := isSpace_of_mem_token member
  rw [plain c ((List.takeWhile_sublist _).mem member) blank] at letter
  exact absurd letter (by decide)

end Text

/-! ### Words and machines -/

/-- A word as a declaration makes it. -/
structure Entry.WellFormed (entry : Entry) : Prop where
  named : entry.name ≠ []
  small : Text.lower entry.name = entry.name
  letterLed : Text.isDigitLed entry.name = false
  solid : ∀ c ∈ entry.name, Text.isBlank c = false
  closed : ';' ∉ entry.name ∧ ';' ∉ entry.text
  full : entry.text ≠ []
  trimmed : entry.text.Trimmed
  plain : entry.text.Plain

/-- Every word is as a declaration makes it, and is there once. -/
structure Dictionary.WellFormed (d : Dictionary) : Prop where
  words : ∀ entry ∈ d.entries, entry.WellFormed
  distinct : d.names.Nodup

structure Machine.WellFormed (machine : Machine) : Prop where
  cells : ∀ cell ∈ machine.cells, Cell.IsCell cell
  words : machine.words.WellFormed

theorem Machine.wellFormed_empty : Machine.WellFormed {} := ⟨nofun, nofun, List.nodup_nil⟩

theorem Dictionary.WellFormed.put {d : Dictionary} (wellFormed : d.WellFormed) {name text : Text}
    (word : Entry.WellFormed ⟨name, text⟩) : (d.put name text).WellFormed where
  words entry member := by
    rcases mem_entries_put member with rfl | old
    · exact word
    · exact wellFormed.words entry old
  distinct := nodup_names_put wellFormed.distinct name text

/-! ### What is read from plain texts -/

theorem Numeral.isCell_of_readCell {text : Text} {n : Int} (read : readCell text = .ok (some n)) :
    Cell.IsCell n := by
  unfold readCell at read
  cases found : magnitude (splitSign text).2 with
  | error e => simp [found, Except.map] at read
  | ok value? =>
    simp only [found, Except.map, Except.ok.injEq, Option.filter_eq_some_iff] at read
    exact of_decide_eq_true read.2

/-- A declaration in a plain text makes a well-formed word. -/
theorem Declaration.wellFormed_of_read {body : Text} {declaration : Declaration}
    (plain : body.Plain) (led : Text.isSpaceLed body = false) (closed : ';' ∉ body)
    (found : read body = .ok declaration) :
    Entry.WellFormed ⟨Text.lower declaration.name, declaration.text⟩ := by
  obtain ⟨nonempty, full, letterLed, rfl⟩ := read_eq_ok_iff.1 found
  have part : List.Sublist (Text.trim (Text.afterToken body)) body :=
    (Text.trim_sublist _).trans (List.dropWhile_sublist _)
  -- lowered twice, the name is what it is lowered once
  simp only [Text.lower_lower]
  refine ⟨mt Text.lower_eq_nil_iff.1 (Text.token_ne_nil nonempty led), Text.lower_lower _,
    (Text.isDigitLed_lower _).trans letterLed, fun c member => Bool.eq_false_iff.2 fun blank => ?_,
    ⟨fun member => ?_, fun member => closed (part.mem member)⟩, full, Text.trimmed_trim _,
    plain.sublist part⟩
  · obtain ⟨d, there, blank⟩ := Text.exists_isBlank_of_mem_lower member blank
    rw [plain.isBlank_of_mem_token there] at blank
    cases blank
  · exact closed ((List.takeWhile_sublist _).mem (Text.semicolon_mem_of_lower member))

/-! ### Items keep machines well formed -/

/-- The cells that an effect leaves, whether or not it fails. -/
def Effect.left : Except (Error × List Int) (List Int) → List Int
  | .ok after => after
  | .error (_, left) => left

/-- What an effect leaves of cells in range is in range. -/
def Effect.Ranged (effect : Effect) : Prop :=
  ∀ cells : List Int, (∀ cell ∈ cells, Cell.IsCell cell) →
    ∀ cell ∈ left (effect cells), Cell.IsCell cell

theorem Effect.push_ranged {cell : Int} (range : Cell.IsCell cell) : (push cell).Ranged := by
  intro cells ranged other member
  rcases List.mem_cons.1 member with rfl | below
  · exact range
  · exact ranged other below

theorem Effect.operate_ranged (op : Operator) : (operate op).Ranged := by
  intro cells ranged
  unfold operate
  split
  · rename_i right next below
    split
    · exact ranged
    · intro cell member
      rcases List.mem_cons.1 member with rfl | rest
      · exact op.isCell_apply next right
      · exact ranged cell (List.mem_cons_of_mem _ (List.mem_cons_of_mem _ rest))
  · exact nofun

theorem Effect.obey_ranged (command : Command) : (obey command).Ranged := by
  intro cells ranged
  unfold obey
  split <;> simp_all [left]

namespace Comparison

/-- A run beside itself, of a well-formed machine. -/
def wellFormed : Comparison where
  Alike s t := s = t ∧ s.toMachine.WellFormed
  Left _ := False
  Right _ := False

/-- A text beside itself, with plain spaces for all blanks. -/
def SamePlain (x y : Text) : Prop := x = y ∧ x.Plain

theorem wellFormed_act {effect : Effect} (ranged : effect.Ranged) :
    wellFormed.Agree Eq effect.act effect.act := by
  rintro s _ ⟨rfl, good⟩
  have after := ranged s.cells good.cells
  simp only [Effect.act]
  cases made : effect s.cells with
  | ok cells =>
    rw [made] at after
    exact .ok rfl ⟨rfl, after, good.words⟩
  | error failed =>
    rw [made] at after
    exact .error ⟨rfl, after, good.words⟩

theorem wellFormed_declare {declaration : Declaration}
    (word : Entry.WellFormed ⟨Text.lower declaration.name, declaration.text⟩) :
    wellFormed.Agree Eq (Action.declare declaration) (Action.declare declaration) := by
  rintro s _ ⟨rfl, good⟩
  rw [Action.declare_eq]
  cases entered : s.words.set declaration.name declaration.text with
  | error e => exact .error ⟨rfl, good.cells, good.words⟩
  | ok words =>
    obtain ⟨-, -, -, rfl⟩ := Dictionary.set_eq_ok_iff.1 entered
    exact .ok rfl ⟨rfl, good.cells, good.words.put word⟩

variable {x y : Text}

theorem wellFormed_numerals (same : SamePlain x y) :
    wellFormed.ItemsMatch SamePlain Action.push (Numeral.scan x) (Numeral.scan y) := by
  obtain ⟨rfl, plain⟩ := same
  unfold Numeral.scan
  cases read : Numeral.readCell (Text.token x) with
  | error e => exact .error
  | ok n? =>
    cases n? with
    | none => exact .miss
    | some n =>
      exact .hit (wellFormed_act (Effect.push_ranged (Numeral.isCell_of_readCell read)))
        ⟨rfl, plain.afterToken.trimLeft⟩

theorem wellFormed_operators (same : SamePlain x y) :
    wellFormed.ItemsMatch SamePlain Action.operate (Operator.scan x) (Operator.scan y) := by
  obtain ⟨rfl, plain⟩ := same
  cases x with
  | nil => exact .miss
  | cons c x =>
    simp only [Operator.scan]
    cases Operator.ofSymbol? c with
    | none => exact .miss
    | some op =>
      have acts : wellFormed.Agree Eq (Action.operate op) (Action.operate op) := by
        rw [Action.operate_eq]
        exact wellFormed_act (Effect.operate_ranged op)
      exact .hit acts ⟨rfl, (plain.sublist (List.sublist_cons_self c x)).trimLeft⟩

theorem wellFormed_declarations (same : SamePlain x y) :
    wellFormed.ItemsMatch SamePlain Action.declare (Declaration.scan x) (Declaration.scan y) := by
  obtain ⟨rfl, plain⟩ := same
  by_cases colon : x.head? = some ':'
  · obtain ⟨source, rfl⟩ := List.head?_eq_some_iff.1 colon
    have plain' := plain.sublist (List.sublist_cons_self ':' source)
    cases found : source.dropWhile (· != ';') with
    | nil =>
      rw [Declaration.scan_unterminated (Declaration.not_mem_of_dropWhile found)]
      exact .error
    | cons c after =>
      have part : List.Sublist after source :=
        (List.sublist_cons_self c after).trans (found ▸ List.dropWhile_sublist _)
      have closed : ';' ∉ Text.trim (source.takeWhile (· != ';')) := fun member => by
        have before := List.mem_takeWhile_imp ((Text.trim_sublist _).mem member)
        simp at before
      rw [Declaration.scan_of_dropWhile found]
      cases read : Declaration.read (Text.trim (source.takeWhile (· != ';'))) with
      | error e => exact .error
      | ok declaration =>
        have word := Declaration.wellFormed_of_read
          (plain'.sublist ((Text.trim_sublist _).trans (List.takeWhile_sublist _)))
          (Text.trimmed_trim _).led closed read
        exact .hit (wellFormed_declare word)
          ⟨rfl, plain'.sublist ((Text.trim_sublist _).trans part)⟩
  · rw [Declaration.scan_of_head?_ne colon]
    exact .miss

theorem wellFormed_commands (same : SamePlain x y) :
    wellFormed.ItemsMatch SamePlain Action.obey (Command.scan x) (Command.scan y) := by
  obtain ⟨rfl, plain⟩ := same
  unfold Command.scan
  split
  · exact .miss
  · cases Command.read (Text.lower (Text.token x)) with
    | error e => exact .error
    | ok command? =>
      cases command? with
      | none => exact .miss
      | some command =>
        have acts : wellFormed.Agree Eq (Action.obey command) (Action.obey command) := by
          rw [Action.obey_eq]
          exact wellFormed_act (Effect.obey_ranged command)
        exact .hit acts ⟨rfl, plain.afterToken.trimLeft⟩

theorem wellFormed_expand (same : SamePlain x y) :
    wellFormed.Agree SamePlain (Action.expand x) (Action.expand y) := by
  obtain ⟨rfl, plain⟩ := same
  rintro s _ ⟨rfl, good⟩
  cases known : s.words.get? (Text.token x) with
  | none =>
    rw [Action.expand_of_none known]
    exact .ok ⟨rfl, plain⟩ ⟨rfl, good⟩
  | some text =>
    obtain ⟨entry, member, -, rfl⟩ := Dictionary.exists_entry_of_get? known
    rw [Action.expand_of_some known]
    exact .ok ⟨rfl, (good.words.words entry member).plain.append plain.afterToken⟩ ⟨rfl, good⟩

theorem wellFormed_kinship : wellFormed.Kinship SamePlain where
  operators := wellFormed_operators
  declarations := wellFormed_declarations
  commands := wellFormed_commands
  stop := by
    rintro x _ ⟨rfl, -⟩ s _ ⟨rfl, good⟩
    simp only [Stage.commands]
    split <;> exact .ok trivial ⟨rfl, good⟩
  expand := wellFormed_expand

end Comparison

/-! ### Runs keep machines well formed -/

theorem Machine.WellFormed.of_ends {machine : Machine} {text : Text} {report : Report}
    (good : machine.WellFormed) (ends : machine.Ends text report) : report.machine.WellFormed := by
  obtain ⟨passes, ended⟩ := ends
  obtain ⟨result, run, rfl⟩ := Option.map_eq_some_iff.1 ended
  have alike : Comparison.wellFormed.Alike { toMachine := machine } { toMachine := machine } :=
    ⟨rfl, good⟩
  have kept {x y : Text} (same : Comparison.SamePlain x y) :=
    Comparison.wellFormed_kinship.watched Comparison.wellFormed_numerals And.left
      (fun alike => congrArg (·.words) alike.1) same
  have runs := Comparison.runsMatch (fun same => by rw [same.1]) kept passes
    ⟨rfl, Text.plain_withPlainSpaces text⟩ alike
  rw [run] at runs
  obtain ⟨s, ⟨-, after⟩, left⟩ := runs.alike_self (fun _ => id) fun _ => id
  rw [left]
  exact after

/-- **Machines that began empty are well formed**, whatever has been run on them and however the
runs have ended. -/
theorem Machine.wellFormed_of_leadsTo {machine : Machine} (leads : Machine.LeadsTo {} machine) :
    machine.WellFormed := by
  induction leads with
  | none => exact wellFormed_empty
  | run _ ends ih => exact ih.of_ends ends

end WordStack
