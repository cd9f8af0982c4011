import WordStack.Proofs.NumeralLed
import WordStack.Proofs.Watch
import WordStack.Proofs.WellFormed

/-! Dumping a machine and restoring it.

The dump of a machine is a program: its cells as numerals, oldest first, and a
declaration for each of its words, in order. Run on an empty machine, it makes the
same machine again, if that was well formed. One pass does it. The numerals push
the cells, nothing is left for the operators, and the declarations are read back
as they were written, each of them entering a name that is new. -/
namespace WordStack

/-- The decimal text of a cell. -/
def Cell.literal (cell : Int) : Text := (toString cell).toList

/-- The declaration of a word. -/
def Entry.literal (entry : Entry) : Text :=
  ':' :: ' ' :: (entry.name ++ ' ' :: (entry.text ++ [' ', ';']))

namespace Text

/-- Texts put together, with a space between each and the next. -/
def joined (pieces : List Text) : Text := [' '].intercalate pieces

end Text

/-- The program that makes the machine. -/
def Machine.dump (machine : Machine) : Text :=
  Text.joined (machine.stack.map Cell.literal ++ machine.words.entries.map Entry.literal)

/-! ### Texts put together -/

namespace Text
variable {piece : Text} {pieces : List Text}

/-- What may be put together: trimmed texts with something in them. -/
def Pieces (pieces : List Text) : Prop := ∀ piece ∈ pieces, piece ≠ [] ∧ piece.Trimmed

theorem joined_eq_nil_iff (fit : Pieces pieces) : joined pieces = [] ↔ pieces = [] := by
  match pieces with
  | [] => exact iff_of_true rfl rfl
  | [piece] => simpa [joined] using (fit piece (List.mem_cons_self ..)).1
  | piece :: next :: rest => simp [joined, List.intercalate_cons_cons]

theorem trimmed_joined (fit : Pieces pieces) : Trimmed (joined pieces) := by
  induction pieces with
  | nil => exact trimmed_nil
  | cons piece rest ih =>
    have first := fit piece (List.mem_cons_self ..)
    have fit' : Pieces rest := fun other member => fit other (List.mem_cons_of_mem piece member)
    match rest, fit', ih fit' with
    | [], _, _ => simpa [joined] using first.2
    | next :: rest, fit', ih' =>
      rw [joined, List.intercalate_cons_cons, List.append_assoc]
      exact first.2.append ih' first.1 (mt (joined_eq_nil_iff fit').1 (List.cons_ne_nil next rest))

/-- What stands behind the first piece is the others, but for the space between. -/
theorem exists_joined_cons (piece : Text) (fit : Pieces pieces) :
    ∃ behind, joined (piece :: pieces) = piece ++ behind ∧ (behind = [] ∨ isSpaceLed behind = true) ∧
      trimLeft behind = joined pieces ∧ trim behind = joined pieces := by
  match pieces, fit with
  | [], _ => exact ⟨[], by simp [joined], .inl rfl, rfl, rfl⟩
  | next :: rest, fit =>
    have trimmed := trimmed_joined fit
    refine ⟨[' '] ++ joined (next :: rest), ?_, .inr rfl, ?_, ?_⟩
    · rw [joined, List.intercalate_cons_cons, List.append_assoc]
      rfl
    · rw [trimLeft_gap_append isGap_space, trimLeft_eq_self trimmed.led]
    · simpa using trimmed.trim_between isGap_space isGap_nil

theorem Plain.joined (plain : ∀ piece ∈ pieces, Plain piece) : Plain (joined pieces) := by
  induction pieces with
  | nil => exact nofun
  | cons piece rest ih =>
    have first := plain piece (List.mem_cons_self ..)
    have others := ih fun other member => plain other (List.mem_cons_of_mem piece member)
    have space : Plain [' '] := by simp [Plain]
    match rest, others with
    | [], _ => simpa [Text.joined] using first
    | next :: rest, others =>
      rw [Text.joined, List.intercalate_cons_cons]
      exact (first.append space).append others

end Text

/-! ### Cells -/

namespace Numeral

/-- The digits of a number are read as that number. -/
theorem magnitude_toDigits {n : Nat} (small : n ≤ 2147483648) :
    magnitude (Nat.toDigits 10 n) = .ok (some n) := by
  have only : (Nat.toDigits 10 n).any (!·.isDigit) = false := by
    refine List.any_eq_false.2 fun c member => ?_
    simp [Nat.isDigit_of_mem_toDigits (by decide) (by decide) member]
  have short : (Nat.toDigits 10 n).length ≤ 10 :=
    (Nat.length_toDigits_le_iff (by decide) (by decide)).2 (by omega)
  have fit : ¬ digitLimit < (Nat.toDigits 10 n).length := by
    simp only [digitLimit]
    omega
  have same : value (Nat.toDigits 10 n) = n := Nat.ofDigitChars_toDigits (by decide) (by decide)
  simp only [magnitude, Nat.toDigits_ne_nil, only, Bool.false_eq_true, or_self, if_false, if_neg fit,
    same]

theorem readCell_of_magnitude {text : Text} {n : Nat} {cell : Int}
    (read : magnitude (splitSign text).2 = .ok (some n)) (signed : (splitSign text).1 * n = cell)
    (range : Cell.IsCell cell) : readCell text = .ok (some cell) := by
  simp [readCell, read, Except.map, Option.filter, signed, range]

end Numeral

namespace Cell
variable {cell : Int}

theorem literal_eq (cell : Int) : literal cell =
    if 0 ≤ cell then Nat.toDigits 10 cell.toNat else '-' :: Nat.toDigits 10 (-cell).toNat := by
  rw [literal, Int.toString_eq_repr, Int.repr_eq_if]
  split <;> simp [Nat.toList_repr]

/-- **A cell is read back from its decimal text.** -/
theorem readCell_literal (range : IsCell cell) :
    Numeral.readCell (literal cell) = .ok (some cell) := by
  have bounds := range
  simp only [IsCell, least, greatest] at bounds
  rw [literal_eq]
  by_cases sign : 0 ≤ cell
  · have unsigned := (Numeral.unsigned_of_isDigit fun _ member =>
      Nat.isDigit_of_mem_toDigits (b := 10) (n := cell.toNat) (by decide) (by decide) member).1
    rw [if_pos sign]
    refine Numeral.readCell_of_magnitude (n := cell.toNat) ?_ ?_ range
    · rw [unsigned, Numeral.magnitude_toDigits (by omega)]
    · rw [unsigned]
      omega
  · rw [if_neg sign]
    refine Numeral.readCell_of_magnitude (Numeral.magnitude_toDigits (by omega)) ?_ range
    simp only [Numeral.splitSign]
    omega

theorem literal_ne_nil (cell : Int) : literal cell ≠ [] := by
  rw [literal_eq]
  split
  · exact Nat.toDigits_ne_nil
  · exact List.cons_ne_nil _ _

theorem isBlank_of_mem_literal {c : Char} (member : c ∈ literal cell) : Text.isBlank c = false := by
  have digit {n : Nat} (member : c ∈ Nat.toDigits 10 n) : Text.isBlank c = false :=
    Text.isBlank_of_isDigit (Nat.isDigit_of_mem_toDigits (by decide) (by decide) member)
  rw [literal_eq] at member
  split at member
  · exact digit member
  · rcases List.mem_cons.1 member with rfl | later
    · decide
    · exact digit later

theorem isSpace_of_mem_literal {c : Char} (member : c ∈ literal cell) : Text.isSpace c = false :=
  (Bool.or_eq_false_iff.1 (isBlank_of_mem_literal member)).1

end Cell

/-! ### Words -/

namespace Entry
variable {entry : Entry}

/-- A declaration without its colon and semicolon. -/
def body (entry : Entry) : Text := entry.name ++ ([' '] ++ entry.text)

theorem literal_eq (entry : Entry) :
    entry.literal = [':'] ++ (([' '] ++ (entry.body ++ [' '])) ++ [';']) := by
  simp [literal, body]

theorem trimmed_literal (entry : Entry) : entry.literal.Trimmed := by
  have colon : Text.Trimmed [':'] := Text.trimmed_singleton rfl
  have semicolon : Text.Trimmed [';'] := Text.trimmed_singleton rfl
  rw [literal_eq]
  exact colon.append semicolon (by decide) (by decide)

namespace WellFormed
variable (word : entry.WellFormed)
include word

theorem isSpace_of_mem_name {c : Char} (member : c ∈ entry.name) : Text.isSpace c = false :=
  (Bool.or_eq_false_iff.1 (word.solid c member)).1

theorem trimmed_body : entry.body.Trimmed :=
  (Text.trimmed_of_solid fun _ => word.isSpace_of_mem_name).append word.trimmed word.named word.full

theorem read_body : Declaration.read entry.body = .ok ⟨entry.name, entry.text⟩ := by
  have parted : Text.isSpaceLed ([' '] ++ entry.text) = true := rfl
  obtain ⟨token, after⟩ := Text.cut_solid (fun _ => word.isSpace_of_mem_name) (.inr parted)
  have text : Text.trim ([' '] ++ entry.text) = entry.text := by
    simpa using word.trimmed.trim_between Text.isGap_space Text.isGap_nil
  refine Declaration.read_eq_ok_iff.2 ⟨by simp [body, word.named], ?_, ?_, ?_⟩
  · rw [body, after, text]
    exact word.full
  · rw [body, token, word.letterLed]
  · rw [body, token, after, text, word.small]

/-- **A declaration is read back as it was written**, whatever stands behind it. -/
theorem scan_literal (behind : Text) : Declaration.scan (entry.literal ++ behind) =
    .ok (.hit ⟨entry.name, entry.text⟩ (Text.trim behind)) := by
  -- neither the name nor the text has a semicolon, so the first one is that which ends it all
  have encloses : Declaration.Encloses (entry.literal ++ behind) ([' '] ++ (entry.body ++ [' ']))
      behind := by
    refine ⟨by simp [literal_eq], ?_⟩
    have closed := word.closed
    simpa [body] using closed
  rw [encloses.scan_eq, word.trimmed_body.trim_between Text.isGap_space Text.isGap_space,
    word.read_body]
  rfl

theorem plain_literal : entry.literal.Plain := by
  have sign {c : Char} (letter : Text.isBlank c = false) : Text.Plain [c] :=
    Text.plain_of_solid (by simpa using letter)
  have space : Text.Plain [' '] := by simp [Text.Plain]
  have name : entry.name.Plain := Text.plain_of_solid word.solid
  have body : entry.body.Plain := name.append (space.append word.plain)
  rw [literal_eq]
  exact (sign rfl).append ((space.append (body.append space)).append (sign rfl))

end WellFormed
end Entry

/-! ### The pass over a dump -/

section
variable {cells : List Int} {entries : List Entry}

theorem pieces_cells (cells : List Int) : Text.Pieces (cells.map Cell.literal) := by
  intro piece member
  obtain ⟨cell, -, rfl⟩ := List.mem_map.1 member
  exact ⟨Cell.literal_ne_nil cell, Text.trimmed_of_solid fun _ => Cell.isSpace_of_mem_literal⟩

theorem pieces_words (entries : List Entry) : Text.Pieces (entries.map Entry.literal) := by
  intro piece member
  obtain ⟨entry, -, rfl⟩ := List.mem_map.1 member
  exact ⟨List.cons_ne_nil _ _, entry.trimmed_literal⟩

/-- The numerals push the cells, and leave what stands behind. -/
theorem Stage.numerals_literals (range : ∀ cell ∈ cells, Cell.IsCell cell) {rest : List Text}
    (fit : Text.Pieces rest) {missed : Text}
    (noNumeral : Numeral.scan (Text.joined rest) = .ok (.miss missed)) (s : State) :
    Stage.numerals.run (Text.joined (cells.map Cell.literal ++ rest)) s =
      .ok (Text.joined rest) { s with cells := cells.reverse ++ s.cells } := by
  induction cells generalizing s with
  | nil => exact Stage.run_eq_ok_of_miss noNumeral rfl
  | cons cell cells ih =>
    obtain ⟨behind, whole, parted, left, -⟩ := Text.exists_joined_cons (Cell.literal cell)
      (List.forall_mem_append.2 ⟨pieces_cells cells, fit⟩)
    obtain ⟨token, after⟩ := Text.cut_solid (fun _ => Cell.isSpace_of_mem_literal) parted
    have read := Cell.readCell_literal (range cell (List.mem_cons_self ..))
    have found : Stage.numerals.scan (Text.joined ((cell :: cells).map Cell.literal ++ rest)) =
        .ok (.hit cell (Text.joined (cells.map Cell.literal ++ rest))) := by
      show Numeral.scan (Text.joined (Cell.literal cell :: (cells.map Cell.literal ++ rest))) = _
      rw [whole, Numeral.scan, token, after, left, read]
      rfl
    rw [Stage.run_of_hit found]
    refine (Action.bind_of_ok (t := { s with cells := cell :: s.cells }) rfl).trans ?_
    rw [ih fun other member => range other (List.mem_cons_of_mem cell member)]
    simp

/-- The declarations enter the words behind those that are there, if none is there yet. -/
theorem Stage.declarations_literals (words : ∀ entry ∈ entries, entry.WellFormed) (s : State)
    (distinct : (s.words.names ++ entries.map (·.name)).Nodup) :
    ∃ log, Stage.declarations.run (Text.joined (entries.map Entry.literal)) s =
      .ok [] { s with words := ⟨s.words.entries ++ entries⟩, log } := by
  induction entries generalizing s with
  | nil =>
    have missed : Declaration.scan [] = .ok (.miss []) := rfl
    refine ⟨s.log, (Stage.run_eq_ok_of_miss missed rfl).trans ?_⟩
    simp [Text.joined]
  | cons entry entries ih =>
    have word := words entry (List.mem_cons_self ..)
    have words' : ∀ entry ∈ entries, entry.WellFormed := fun other member =>
      words other (List.mem_cons_of_mem entry member)
    obtain ⟨behind, whole, -, -, left⟩ := Text.exists_joined_cons entry.literal (pieces_words entries)
    have found : Stage.declarations.scan (Text.joined ((entry :: entries).map Entry.literal)) =
        .ok (.hit ⟨entry.name, entry.text⟩ (Text.joined (entries.map Entry.literal))) := by
      show Declaration.scan (Text.joined (entry.literal :: entries.map Entry.literal)) = _
      rw [whole, word.scan_literal, left]
    have new : entry.name ∉ s.words.names := fun old =>
      (List.nodup_append.1 distinct).2.2 _ old _ (List.mem_cons_self ..) rfl
    have entered : s.words.set entry.name entry.text =
        .ok ⟨s.words.entries ++ [⟨entry.name, entry.text⟩]⟩ := by
      rw [Dictionary.set_eq_ok_iff, word.small, Dictionary.put_of_not_mem new]
      refine ⟨word.named, word.letterLed, ?_, rfl⟩
      exact mt Text.trim_eq_nil_iff.1 (word.trimmed.not_isGap word.full)
    obtain ⟨log, again⟩ := ih words' { s with
        words := ⟨s.words.entries ++ [⟨entry.name, entry.text⟩]⟩
        log := Action.definition s.words ⟨entry.name, entry.text⟩ :: s.log }
      (by simpa [Dictionary.names] using distinct)
    refine ⟨log, ?_⟩
    rw [Stage.run_of_hit found]
    refine (Action.bind_of_ok (x := ()) ?_).trans (again.trans ?_)
    · show Action.declare ⟨entry.name, entry.text⟩ s = _
      rw [Action.declare_eq]
      simp only [entered]
    · simp

/-- Behind the numerals, neither a numeral nor an operator is found. -/
theorem none_before_declarations (entries : List Entry) :
    (∃ missed, Numeral.scan (Text.joined (entries.map Entry.literal)) = .ok (.miss missed)) ∧
      ∃ missed, Operator.scan (Text.joined (entries.map Entry.literal)) = .ok (.miss missed) := by
  cases entries with
  | nil => exact ⟨⟨_, rfl⟩, ⟨_, rfl⟩⟩
  | cons entry entries =>
    obtain ⟨behind, whole, -⟩ := Text.exists_joined_cons entry.literal (pieces_words entries)
    rw [List.map_cons, whole]
    exact ⟨⟨_, rfl⟩, ⟨_, rfl⟩⟩

end

theorem Dictionary.WellFormed.checked {d : Dictionary} (good : d.WellFormed) : d.Checked where
  named entry member := (good.words entry member).named
  letterLed entry member := (good.words entry member).letterLed
  full entry member := (good.words entry member).trimmed.not_isGap (good.words entry member).full

namespace Machine
variable {machine : Machine}

theorem plain_dump (good : machine.WellFormed) : machine.dump.Plain := by
  refine Text.Plain.joined fun piece member => ?_
  rcases List.mem_append.1 member with cell | word
  · obtain ⟨cell, -, rfl⟩ := List.mem_map.1 cell
    exact Text.plain_of_solid fun _ => Cell.isBlank_of_mem_literal
  · obtain ⟨entry, there, rfl⟩ := List.mem_map.1 word
    exact (good.words.words entry there).plain_literal

/-- One pass over the dump makes the machine. -/
theorem pass_dump (good : machine.WellFormed) :
    ∃ s, Pass.plain machine.dump {} = .ok [] s ∧ s.toMachine = machine := by
  obtain ⟨⟨missed, noNumeral⟩, missed', noOperator⟩ :=
    none_before_declarations machine.words.entries
  have range : ∀ cell ∈ machine.stack, Cell.IsCell cell := fun cell member =>
    good.cells cell (List.mem_reverse.1 member)
  have numerals := Stage.numerals_literals range (pieces_words machine.words.entries) noNumeral {}
  obtain ⟨log, declarations⟩ := Stage.declarations_literals good.words.words
    { cells := machine.cells } (by simpa [Dictionary.names] using good.words.distinct)
  have same : ({ cells := machine.stack.reverse ++ [] } : State) = { cells := machine.cells } := by
    simp [stack]
  have front : Pass.front machine.dump {} = .ok [] { toMachine := machine, log } := by
    refine (Action.bind_of_ok (numerals.trans (congrArg _ same))).trans ?_
    exact (Action.bind_of_ok (Stage.run_eq_ok_of_miss noOperator rfl)).trans declarations
  exact ⟨_, (Action.bind_of_ok front).trans (Pass.back_nil good.words.checked), rfl⟩

theorem eq_empty_of_dump (dumpNil : machine.dump = []) : machine = {} := by
  obtain ⟨cells, ⟨entries⟩⟩ := machine
  have pieces := List.forall_mem_append.2
    ⟨pieces_cells (stack ⟨cells, ⟨entries⟩⟩), pieces_words entries⟩
  obtain ⟨noCells, noWords⟩ := List.append_eq_nil_iff.1 ((Text.joined_eq_nil_iff pieces).1 dumpNil)
  simp only [stack, List.map_eq_nil_iff, List.reverse_eq_nil_iff] at noCells noWords
  subst noCells noWords
  rfl

/-- **A machine that began empty is restored from its dump**: the dump is a program that an empty
machine runs to its end, and the machine is then the same, stack and dictionary. -/
theorem completes_dump (leads : Machine.LeadsTo {} machine) :
    Machine.Completes {} machine.dump machine := by
  have good := wellFormed_of_leadsTo leads
  by_cases dumpNil : machine.dump = []
  · -- the empty program takes no pass
    rw [dumpNil, eq_empty_of_dump dumpNil]
    exact completes_iff_comesTo.2 ⟨{}, rfl, Pass.comesTo_nil.2 rfl⟩
  · obtain ⟨s, made, same⟩ := pass_dump good
    refine completes_iff_comesTo.2 ⟨s, same, ?_⟩
    rw [(plain_dump good).withPlainSpaces]
    exact (Pass.comesTo_of_ok dumpNil made).2 (Pass.comesTo_nil.2 rfl)

/-- Names that look like numerals, declarations and operators; the last word was declared by a
program that failed. -/
theorem completes_dump_odd_names :
    let machine : Machine := {
      cells := [9, -4, 3]
      words := ⟨[⟨"-5".toList, "7 Dup".toList⟩, ⟨":x".toList, "2 *".toList⟩,
        ⟨"+".toList, ": y 1".toList⟩, ⟨"äb".toList, "swap".toList⟩]⟩ }
    machine.dump = "3 -4 9 : -5 7 Dup ; : :x 2 * ; : + : y 1 ; : äb swap ;".toList ∧
      Machine.Completes {} machine.dump machine := by
  intro machine
  have first : Machine.LeadsTo {} { machine with
      cells := [-4, 3]
      words := ⟨machine.words.entries.take 3⟩ } :=
    Machine.LeadsTo.none.eval? "3 -4 : -5 7\tDup ; : :X 2 * ; : + : y 1 ;".toList 2
      (by decide +kernel)
  have leads : Machine.LeadsTo {} machine :=
    first.eval? "9 : ÄB swap ; nope".toList 2 (by decide +kernel)
  exact ⟨by decide +kernel, completes_dump leads⟩

end Machine
end WordStack
