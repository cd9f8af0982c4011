import WordStack.Proofs.Checked

/-! Whitespace behind a text.

Whitespace at the end of a text makes no difference to passes over it: each
recogniser finds the same item, or the same fault, and leaves texts that again
differ in whitespace at the end, if at all. -/
namespace WordStack

/-! ### Texts that differ at the end -/

namespace Text

/-- The second text is the first with whitespace behind it; behind no text there is none. -/
structure Trails (x y : Text) : Prop where
  ended : x = [] → y = []
  gap : ∃ gap, IsGap gap ∧ y = x ++ gap

variable {x y gap : Text}

theorem trails_append (nonempty : x ≠ []) (blank : IsGap gap) : Trails x (x ++ gap) :=
  ⟨fun xNil => absurd xNil nonempty, gap, blank, rfl⟩

theorem Trails.nil_iff (trails : Trails x y) : x = [] ↔ y = [] := by
  refine ⟨trails.ended, fun xNil => ?_⟩
  obtain ⟨gap, -, rfl⟩ := trails.gap
  exact (List.append_eq_nil_iff.1 xNil).1

theorem token_append_gap (blank : IsGap gap) : token (x ++ gap) = token x := by
  by_cases gapNil : gap = []
  · rw [gapNil, List.append_nil]
  · exact token_append (isSpaceLed_of_isGap blank gapNil)

theorem afterToken_append_gap (blank : IsGap gap) : afterToken (x ++ gap) = afterToken x ++ gap := by
  by_cases gapNil : gap = []
  · rw [gapNil, List.append_nil, List.append_nil]
  · exact afterToken_append (isSpaceLed_of_isGap blank gapNil)

theorem Trails.token (trails : Trails x y) : token x = token y := by
  obtain ⟨gap, blank, rfl⟩ := trails.gap
  exact (token_append_gap blank).symm

theorem trails_trimLeft (blank : IsGap gap) : Trails (trimLeft x) (trimLeft (x ++ gap)) := by
  by_cases xBlank : IsGap x
  · rw [trimLeft_eq_nil_iff.2 xBlank, trimLeft_eq_nil_iff.2 (isGap_append.2 ⟨xBlank, blank⟩)]
    exact ⟨fun _ => rfl, [], isGap_nil, rfl⟩
  · rw [trimLeft_append xBlank]
    exact trails_append (mt trimLeft_eq_nil_iff.1 xBlank) blank

theorem trim_append_gap (blank : IsGap gap) : trim (x ++ gap) = trim x := by
  by_cases xBlank : IsGap x
  · rw [trim_eq_nil_iff.2 xBlank, trim_eq_nil_iff.2 (isGap_append.2 ⟨xBlank, blank⟩)]
  · rw [trim, trimLeft_append xBlank, trimRight_append_gap blank, trim]

theorem trails_rfl : Trails x x := ⟨id, [], isGap_nil, (List.append_nil x).symm⟩

theorem Trails.trimLeft_afterToken (trails : Trails x y) :
    Trails (trimLeft (afterToken x)) (trimLeft (afterToken y)) := by
  obtain ⟨gap, blank, rfl⟩ := trails.gap
  rw [afterToken_append_gap blank]
  exact trails_trimLeft blank

end Text

/-! ### Recognisers -/

namespace Comparison
open Text (Trails)
variable {C : Comparison} {x y : Text}

theorem trails_numerals (trails : Trails x y) :
    C.ScansMatch Trails (Numeral.scan x) (Numeral.scan y) := by
  unfold Numeral.scan
  rw [trails.token]
  cases Numeral.readCell (Text.token y) with
  | error e => exact .error
  | ok n? =>
    cases n? with
    | none => exact .miss
    | some n => exact .hit trails.trimLeft_afterToken

theorem trails_operators (trails : Trails x y) :
    C.ScansMatch Trails (Operator.scan x) (Operator.scan y) := by
  obtain ⟨gap, blank, rfl⟩ := trails.gap
  cases x with
  | nil =>
    rw [trails.ended rfl]
    exact .miss
  | cons c x =>
    simp only [Operator.scan, List.cons_append]
    split
    · exact .hit (Text.trails_trimLeft blank)
    · exact .miss

theorem trails_declarations (trails : Trails x y) :
    C.ScansMatch Trails (Declaration.scan x) (Declaration.scan y) := by
  obtain ⟨gap, blank, rfl⟩ := trails.gap
  cases x with
  | nil =>
    rw [trails.ended rfl]
    exact .miss
  | cons c x =>
    rw [List.cons_append]
    by_cases colon : c = ':'
    · subst colon
      by_cases closed : ';' ∈ x
      · obtain ⟨body, after, scan⟩ := Declaration.exists_scan_append closed
        have first := scan []
        rw [List.append_nil, List.append_nil] at first
        rw [first, scan gap, Text.trim_append_gap blank]
        cases Declaration.read body with
        | error e => exact .error
        | ok declaration => exact .hit Text.trails_rfl
      · have unclosed : ';' ∉ x ++ gap := by
          rw [List.mem_append]
          rintro (inside | behind)
          · exact closed inside
          · exact absurd (blank ';' behind) (by decide)
        rw [Declaration.scan_unterminated closed, Declaration.scan_unterminated unclosed]
        exact .error
    · rw [Declaration.scan_of_ne colon, Declaration.scan_of_ne colon]
      exact .miss

theorem trails_commands (trails : Trails x y) :
    C.ScansMatch Trails (Command.scan x) (Command.scan y) := by
  unfold Command.scan
  by_cases ended : x = []
  · rw [if_pos ended, if_pos (trails.nil_iff.1 ended)]
    exact .miss
  · rw [if_neg ended, if_neg (mt trails.nil_iff.2 ended), trails.token]
    cases Command.read (Text.lower (Text.token y)) with
    | error e => exact .error
    | ok command? =>
      cases command? with
      | none => exact .miss
      | some command => exact .hit trails.trimLeft_afterToken

/-- Whitespace at the end keeps two texts alike for passes over checked dictionaries. -/
theorem trails_likeness {Excused : Error → Prop} : (unlogged Excused).Likeness Trails where
  operators := trails_operators
  declarations := trails_declarations
  commands := trails_commands
  stop {x y} _ := agree_stop (fun _ _ alike => alike) x y
  expand {x y} trails := by
    refine unlogged_fair.expand trails trails.token fun {s t text} alike known => ?_
    obtain ⟨gap, blank, rfl⟩ := trails.gap
    rw [Text.afterToken_append_gap blank, ← List.append_assoc]
    exact Text.trails_append (alike.2.append_ne_nil known) blank

/-- Unwatched runs on one machine are kept together where their texts differ in whitespace at the
end and their records differ. -/
theorem trails_runsMatch (trails : Trails x y) {s t : State} (same : s.toMachine = t.toMachine)
    (checked : s.words.Checked) (passes : Nat) :
    (unlogged fun _ => False).RunsMatch (Pass.repeated Pass.plain passes x s)
      (Pass.repeated Pass.plain passes y t) :=
  runsMatch Trails.nil_iff (trails_likeness.plain unlogged_fair trails_numerals) passes trails
    ⟨same, checked⟩

/-- Of runs that are kept together, the first comes to its end on a machine if and only if the
second does. -/
theorem RunsMatch.ok_iff {run run' : Option (EStateM.Result Error State Unit)}
    (runs : (unlogged fun _ => False).RunsMatch run run') (after : Machine) :
    (∃ u, u.toMachine = after ∧ run = some (.ok () u)) ↔
      ∃ u, u.toMachine = after ∧ run' = some (.ok () u) := by
  cases runs with
  | both ends =>
    cases ends with
    | ok _ alike => simp [alike.1]
    | error _ => simp
    | left excused => exact excused.elim
    | right excused => exact excused.elim
  | neither => simp
  | left excused => exact excused.elim
  | right excused => exact excused.elim

/-- Whitespace at the end, and what was noted before, make no difference to where an unwatched run
comes to its end. -/
theorem trails_comesTo (trails : Trails x y) {s t : State} (same : s.toMachine = t.toMachine)
    (checked : s.words.Checked) (after : Machine) :
    (∃ u, u.toMachine = after ∧ Pass.ComesTo Pass.plain x s (.ok () u)) ↔
      ∃ u, u.toMachine = after ∧ Pass.ComesTo Pass.plain y t (.ok () u) := by
  constructor
  · intro comes
    obtain ⟨u, same', passes, ended⟩ := comes
    obtain ⟨v, same'', ended'⟩ :=
      ((trails_runsMatch trails same checked passes).ok_iff after).1 ⟨u, same', ended⟩
    exact ⟨v, same'', passes, ended'⟩
  · intro comes
    obtain ⟨u, same', passes, ended⟩ := comes
    obtain ⟨v, same'', ended'⟩ :=
      ((trails_runsMatch trails same checked passes).ok_iff after).2 ⟨u, same', ended⟩
    exact ⟨v, same'', passes, ended'⟩

end Comparison
end WordStack
