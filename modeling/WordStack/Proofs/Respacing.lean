import WordStack.Proofs.Respelling
import WordStack.Proofs.Trailing

/-! Programs in other spacing.

How long the runs of blanks in a program are, and which blanks they are made of, is
of no account to a program that completes. Blanks are read as plain spaces, but the
texts of declared words keep theirs between their tokens, and these are read again
when a word is expanded; so what is left in the dictionary differs in its runs of
whitespace. Blanks that end a program are of no account at all. -/
namespace WordStack
namespace Text

/-- Texts that differ only in their runs of characters of a class: where the one has a run, the
other has a run. -/
inductive Respaced (inRun : Char → Bool) : Text → Text → Prop where
  | nil : Respaced inRun [] []
  | letter {c x y} : inRun c = false → Respaced inRun x y → Respaced inRun (c :: x) (c :: y)
  | run {gap gap' x y} : gap ≠ [] → gap' ≠ [] → (∀ c ∈ gap, inRun c = true) →
      (∀ c ∈ gap', inRun c = true) → Respaced inRun x y → Respaced inRun (gap ++ x) (gap' ++ y)

namespace Respaced
variable {inRun p : Char → Bool} {x y z w : Text}

theorem refl (inRun : Char → Bool) (text : Text) : Respaced inRun text text := by
  induction text with
  | nil => exact .nil
  | cons c text ih =>
    by_cases space : inRun c = true
    · have alone : ∀ d ∈ [c], inRun d = true := by simpa using space
      exact .run (List.cons_ne_nil c []) (List.cons_ne_nil c []) alone alone ih
    · exact .letter (Bool.eq_false_iff.2 space) ih

theorem symm (respaced : Respaced inRun x y) : Respaced inRun y x := by
  induction respaced with
  | nil => exact .nil
  | letter other _ ih => exact .letter other ih
  | run nonempty nonempty' inside inside' _ ih => exact .run nonempty' nonempty inside' inside ih

theorem nil_iff (respaced : Respaced inRun x y) : x = [] ↔ y = [] := by
  cases respaced with
  | nil => exact Iff.rfl
  | letter => simp
  | run nonempty nonempty' => simp [nonempty, nonempty']

/-- A character that is in no run stands in both texts. -/
theorem exists_cons {c : Char} (other : inRun c = false) (respaced : Respaced inRun (c :: x) y) :
    ∃ y', y = c :: y' ∧ Respaced inRun x y' := by
  generalize led : c :: x = text at respaced
  cases respaced with
  | nil => cases led
  | letter _ rest =>
    cases led
    exact ⟨_, rfl, rest⟩
  | @run gap gap' _ _ nonempty _ inside =>
    -- the run cannot begin with the character
    obtain ⟨d, gap, rfl⟩ := List.exists_cons_of_ne_nil nonempty
    cases led
    rw [inside c (List.mem_cons_self ..)] at other
    cases other

theorem append (first : Respaced inRun x y) (second : Respaced inRun z w) :
    Respaced inRun (x ++ z) (y ++ w) := by
  induction first with
  | nil => exact second
  | letter other _ ih => exact .letter other ih
  | run nonempty nonempty' inside inside' _ ih =>
    rw [List.append_assoc, List.append_assoc]
    exact .run nonempty nonempty' inside inside' ih

theorem single {gap gap' : Text} (nonempty : gap ≠ []) (nonempty' : gap' ≠ [])
    (inside : ∀ c ∈ gap, inRun c = true) (inside' : ∀ c ∈ gap', inRun c = true) :
    Respaced inRun gap gap' := by
  have run := Respaced.run nonempty nonempty' inside inside' .nil
  rwa [List.append_nil, List.append_nil] at run

theorem reverse (respaced : Respaced inRun x y) : Respaced inRun x.reverse y.reverse := by
  induction respaced with
  | nil => exact .nil
  | letter other _ ih =>
    rw [List.reverse_cons, List.reverse_cons]
    exact ih.append (.letter other .nil)
  | run nonempty nonempty' inside inside' _ ih =>
    rw [List.reverse_append, List.reverse_append]
    exact ih.append (.single (mt List.reverse_eq_nil_iff.1 nonempty)
      (mt List.reverse_eq_nil_iff.1 nonempty')
      (fun c member => inside c (List.mem_reverse.1 member))
      fun c member => inside' c (List.mem_reverse.1 member))

/-! ### Cutting -/

section
variable (passed : ∀ c, inRun c = true → p c = true)
include passed

theorem takeWhile (respaced : Respaced inRun x y) :
    Respaced inRun (x.takeWhile p) (y.takeWhile p) := by
  induction respaced with
  | nil => exact .nil
  | @letter c _ _ other _ ih =>
    by_cases goesOn : p c = true
    · simpa [List.takeWhile_cons, goesOn] using Respaced.letter other ih
    · simpa [List.takeWhile_cons, goesOn] using Respaced.nil
  | run nonempty nonempty' inside inside' _ ih =>
    rw [List.takeWhile_append_of_pos fun c member => passed c (inside c member),
      List.takeWhile_append_of_pos fun c member => passed c (inside' c member)]
    exact .run nonempty nonempty' inside inside' ih

theorem dropWhile (respaced : Respaced inRun x y) :
    Respaced inRun (x.dropWhile p) (y.dropWhile p) := by
  induction respaced with
  | nil => exact .nil
  | @letter c _ _ other rest ih =>
    by_cases goesOn : p c = true
    · simpa [List.dropWhile_cons, goesOn] using ih
    · simpa [List.dropWhile_cons, goesOn] using Respaced.letter other rest
  | run _ _ inside inside' _ ih =>
    rw [List.dropWhile_append_of_pos fun c member => passed c (inside c member),
      List.dropWhile_append_of_pos fun c member => passed c (inside' c member)]
    exact ih

end

theorem trimLeft (respaced : Respaced isSpace x y) :
    Respaced isSpace (Text.trimLeft x) (Text.trimLeft y) :=
  respaced.dropWhile fun _ space => space

theorem trimRight (respaced : Respaced isSpace x y) :
    Respaced isSpace (Text.trimRight x) (Text.trimRight y) :=
  (respaced.reverse.dropWhile fun _ space => space).reverse

theorem token (respaced : Respaced isSpace x y) : Text.token x = Text.token y := by
  induction respaced with
  | nil => rfl
  | letter other _ ih => simpa [Text.token, other] using ih
  | run nonempty nonempty' inside inside' =>
    rw [token_of_isSpaceLed (isSpaceLed_gap_append nonempty inside),
      token_of_isSpaceLed (isSpaceLed_gap_append nonempty' inside')]

theorem afterToken (respaced : Respaced isSpace x y) :
    Respaced isSpace (Text.afterToken x) (Text.afterToken y) := by
  induction respaced with
  | nil => exact .nil
  | letter other _ ih => simpa [Text.afterToken, other] using ih
  | run nonempty nonempty' inside inside' rest =>
    rw [afterToken_of_isSpaceLed (isSpaceLed_gap_append nonempty inside),
      afterToken_of_isSpaceLed (isSpaceLed_gap_append nonempty' inside')]
    exact .run nonempty nonempty' inside inside' rest

end Respaced

private theorem bne_semicolon_of_isSpace (c : Char) (space : isSpace c = true) :
    (c != ';') = true := by
  rw [bne_iff_ne]
  rintro rfl
  exact absurd space (by decide)

theorem respaced_respelling : Respelling (Respaced isSpace) where
  symm := Respaced.symm
  nil respaced := respaced.nil_iff.1 rfl
  mark {c x y} marked respaced := by
    have others : (marks.all fun c => isSpace c = false) = true := by decide
    exact respaced.exists_cons (of_decide_eq_true (List.all_eq_true.1 others c marked))
  append := Respaced.append
  token respaced := by rw [respaced.token]
  afterToken := Respaced.afterToken
  trimLeft := Respaced.trimLeft
  trimRight := Respaced.trimRight
  declared := Respaced.takeWhile bne_semicolon_of_isSpace
  undeclared := Respaced.dropWhile bne_semicolon_of_isSpace

/-- Where blanks differ in the texts, spaces differ in what is read. -/
theorem Respaced.withPlainSpaces {x y : Text} (respaced : Respaced isBlank x y) :
    Respaced isSpace x.withPlainSpaces y.withPlainSpaces := by
  induction respaced with
  | nil => exact .nil
  | letter other _ ih =>
    have letter : isSpace _ = false := (Bool.or_eq_false_iff.1 other).1
    simpa [Text.withPlainSpaces, other] using Respaced.letter letter ih
  | run nonempty nonempty' inside inside' _ ih =>
    rw [withPlainSpaces_append, withPlainSpaces_append]
    exact .run (mt withPlainSpaces_eq_nil_iff.1 nonempty)
      (mt withPlainSpaces_eq_nil_iff.1 nonempty')
      (isGap_withPlainSpaces inside) (isGap_withPlainSpaces inside') ih

/-- Programs that differ only in their runs of blanks, where those at the very end may be missing. -/
def Reblanked (x y : Text) : Prop :=
  Respaced isBlank (x.rdropWhile isBlank) (y.rdropWhile isBlank)

end Text

namespace Machine
open Text (Respaced Reblanked isBlank isSpace)

/-- Blanks at the end make no difference to where a program completes. -/
theorem completes_rdropWhile_iff {machine after : Machine} {text : Text}
    (checked : machine.words.Checked) (nonempty : text.rdropWhile isBlank ≠ []) :
    machine.Completes (text.rdropWhile isBlank) after ↔ machine.Completes text after := by
  have trails : Text.Trails (Text.withPlainSpaces (text.rdropWhile isBlank)) text.withPlainSpaces := by
    have blank : Text.IsGap (Text.withPlainSpaces (text.rtakeWhile isBlank)) :=
      Text.isGap_withPlainSpaces fun c member => List.mem_rtakeWhile_imp member
    have whole := congrArg Text.withPlainSpaces
      (List.rdropWhile_append_rtakeWhile (p := isBlank) (l := text))
    rw [Text.withPlainSpaces_append] at whole
    rw [← whole]
    exact Text.trails_append (mt Text.withPlainSpaces_eq_nil_iff.1 nonempty) blank
  rw [completes_iff_comesTo, completes_iff_comesTo]
  exact Comparison.trails_comesTo trails rfl checked after

/-- **Runs of blanks do not matter to a program that completes.** A text that differs from it in
those only completes as well, with the same stack and the same names, whose texts differ in their
runs of whitespace only. -/
theorem completes_reblanked {machine after : Machine} {text text' : Text}
    (obtained : machine.words.Obtained) (led : text.head?.any (!isBlank ·) = true)
    (reblanked : Reblanked text text') (completes : machine.Completes text after) :
    ∃ words, Dictionary.Corresponds (Respaced isSpace) after.words words ∧
      machine.Completes text' { after with words } := by
  have nonempty : text.rdropWhile isBlank ≠ [] := by
    intro coreNil
    obtain ⟨c, first, letter⟩ := (Option.any_eq_true _ _).1 led
    have blank := List.rdropWhile_eq_nil_iff.1 coreNil c (List.mem_of_head? first)
    simp [blank] at letter
  have nonempty' := mt reblanked.nil_iff.2 nonempty
  have core := (completes_rdropWhile_iff obtained.checked nonempty).2 completes
  obtain ⟨words, corresponds, core'⟩ := completes_of_respelling Text.respaced_respelling
    (Respaced.refl isSpace) reblanked.withPlainSpaces core
  exact ⟨words, corresponds, (completes_rdropWhile_iff obtained.checked nonempty').1 core'⟩

/-- Tabs, control characters and line ends for spaces, around a declaration and in it. -/
theorem completes_reblanked_seeded :
    let words : Dictionary := ⟨[⟨"two".toList, "1\u00a01 +\t".toList⟩]⟩
    let text := ": four 2 two + ; FOUR".toList
    let text' := ":\tfour  2\u0000two   +\t;\t\tFOUR \n".toList
    let after : Machine := { cells := [4], words := words.put "four".toList "2 two +".toList }
    Reblanked text text' ∧ Machine.Completes { words } text after ∧
      ∃ words', Dictionary.Corresponds (Respaced isSpace) after.words words' ∧
        Machine.Completes { words } text' { after with words := words' } := by
  intro words text text' after
  have obtained : words.Obtained := ⟨words.entries, words, _, by decide +kernel, .none, rfl⟩
  have gap (x y : Text) (fit : (x ≠ [] ∧ x.all isBlank = true) ∧ y ≠ [] ∧ y.all isBlank = true) :
      Respaced isBlank x y :=
    .single fit.1.1 fit.2.1 (List.all_eq_true.1 fit.1.2) (List.all_eq_true.1 fit.2.2)
  have same (x : Text) : Respaced isBlank x x := .refl isBlank x
  have reblanked : Reblanked text text' :=
    (same ":".toList).append <| (gap [' '] ['\t'] (by decide)).append <|
    (same "four".toList).append <| (gap [' '] [' ', ' '] (by decide)).append <|
    (same "2".toList).append <| (gap [' '] ['\u0000'] (by decide)).append <|
    (same "two".toList).append <| (gap [' '] [' ', ' ', ' '] (by decide)).append <|
    (same "+".toList).append <| (gap [' '] ['\t'] (by decide)).append <|
    (same ";".toList).append <| (gap [' '] ['\t', '\t'] (by decide)).append <|
    same "FOUR".toList
  have completes : Machine.Completes { words } text after := completes_of_eval? 8 (by decide +kernel)
  exact ⟨reblanked, completes, completes_reblanked obtained (by decide) reblanked completes⟩

end Machine
end WordStack
