import WordStack.Proofs.Respelling

/-! Programs in other letters.

Writing some ASCII letters of a program small and others big makes no difference
to a program that completes. Names are lowered wherever they come in or are looked
up, and the texts of words keep their letters, so what is left in the dictionary
differs as the programs do. -/
namespace WordStack
namespace Text

/-- Texts that differ in the case of ASCII letters only. -/
def Recased (x y : Text) : Prop := x.map Char.toLower = y.map Char.toLower

instance (x y : Text) : Decidable (Recased x y) := inferInstanceAs (Decidable (_ = _))

variable {x y : Text}

theorem recased_rfl (text : Text) : Recased text text := rfl

theorem Recased.mark {c : Char} (marked : c ∈ marks) (recased : Recased (c :: x) y) :
    ∃ y', y = c :: y' ∧ Recased x y' := by
  have letterless : c.isAlpha = false := by
    have letterless : (marks.all fun c => c.isAlpha = false) = true := by decide
    exact of_decide_eq_true (List.all_eq_true.1 letterless c marked)
  obtain ⟨d, y', rfl, same, rest⟩ := List.map_eq_cons_iff.1 recased.symm
  obtain rfl := (toLower_eq_iff letterless).1 (same.trans ((toLower_eq_iff letterless).2 rfl))
  exact ⟨y', rfl, rest.symm⟩

theorem Recased.takeWhile {p : Char → Bool} (blind : ∀ c, p c.toLower = p c)
    (recased : Recased x y) : Recased (x.takeWhile p) (y.takeWhile p) := by
  have same : p ∘ Char.toLower = p := funext blind
  have commutes : ∀ z : Text, (z.takeWhile p).map Char.toLower = (z.map Char.toLower).takeWhile p :=
    fun z => by rw [List.takeWhile_map, same]
  rw [Recased, commutes, commutes, recased]

theorem Recased.dropWhile {p : Char → Bool} (blind : ∀ c, p c.toLower = p c)
    (recased : Recased x y) : Recased (x.dropWhile p) (y.dropWhile p) := by
  have same : p ∘ Char.toLower = p := funext blind
  have commutes : ∀ z : Text, (z.dropWhile p).map Char.toLower = (z.map Char.toLower).dropWhile p :=
    fun z => by rw [List.dropWhile_map, same]
  rw [Recased, commutes, commutes, recased]

theorem Recased.reverse (recased : Recased x y) : Recased x.reverse y.reverse := by
  rw [Recased, List.map_reverse, List.map_reverse, recased]

/-- No letter becomes a semicolon. -/
private theorem toLower_bne_semicolon (c : Char) : (c.toLower != ';') = (c != ';') := by
  rw [Bool.eq_iff_iff, bne_iff_ne, bne_iff_ne]
  exact not_congr (toLower_eq_iff (by decide))

theorem recased_respelling : Respelling Recased where
  symm := Eq.symm
  nil recased := List.map_eq_nil_iff.1 recased.symm
  mark := Recased.mark
  append first second := by
    rw [Recased, List.map_append, List.map_append, first, second]
  token := Recased.takeWhile fun c => congrArg not (isSpace_toLower c)
  afterToken := Recased.dropWhile fun c => congrArg not (isSpace_toLower c)
  trimLeft := Recased.dropWhile isSpace_toLower
  trimRight recased := (recased.reverse.dropWhile isSpace_toLower).reverse
  declared := Recased.takeWhile toLower_bne_semicolon
  undeclared := Recased.dropWhile toLower_bne_semicolon

theorem Recased.withPlainSpaces (recased : Recased x y) :
    Recased x.withPlainSpaces y.withPlainSpaces := by
  rw [Recased, ← withPlainSpaces_map_toLower, ← withPlainSpaces_map_toLower, recased]

end Text

namespace Machine
open Text (Recased)

/-- **Case does not matter to a program that completes.** A text that differs from it in the case of
ASCII letters only completes as well, with the same stack and the same names, whose texts differ in
case only. -/
theorem completes_recased {machine after : Machine} {text text' : Text}
    (recased : Recased text text') (completes : machine.Completes text after) :
    ∃ words, Dictionary.Corresponds Recased after.words words ∧
      machine.Completes text' { after with words } :=
  completes_of_respelling Text.recased_respelling Text.recased_rfl recased.withPlainSpaces completes

/-- A name with a sigma that ends it, told from the ASCII letter before. -/
theorem completes_recased_sigma :
    let text := ": aΣ 2 Dup ; 1 AΣ".toList
    let text' := ": AΣ 2 dUP ; 1 aΣ".toList
    let after : Machine := { cells := [2, 2, 1], words := ⟨[⟨"aς".toList, "2 Dup".toList⟩]⟩ }
    Recased text text' ∧ Machine.Completes {} text after ∧
      ∃ words, Dictionary.Corresponds Recased after.words words ∧
        Machine.Completes {} text' { after with words } := by
  intro text text' after
  have recased : Recased text text' := by decide +kernel
  have completes : Machine.Completes {} text after := completes_of_eval? 4 (by decide +kernel)
  exact ⟨recased, completes, completes_recased recased completes⟩

end Machine
end WordStack
