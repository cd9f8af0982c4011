import WordStack.Declaration
import WordStack.Dictionary.Basic

/-! What entering words does to a dictionary.

A word that is entered twice is there once, at the place where it first came in
and with the text that came last. So the same words entered again, in the same
order, change nothing: `enterAll_enterAll`. -/
namespace WordStack.Dictionary

/-! ### One word after another -/

/-- A new name comes last, and a known one keeps its place. -/
theorem names_put (d : Dictionary) (name text : Text) :
    (d.put name text).names = if name ∈ d.names then d.names else d.names ++ [name] := by
  obtain ⟨entries⟩ := d
  simp only [put, names]
  induction entries with
  | nil => simp [place]
  | cons entry rest ih =>
    by_cases here : entry.name = name
    · simp [place, here]
    · by_cases later : name ∈ rest.map (·.name)
      · simp only [place, if_neg here, List.map_cons, ih, List.mem_cons, later, or_true, if_true]
      · simp only [place, if_neg here, List.map_cons, ih, List.mem_cons, later, Ne.symm here,
          or_self, if_false, List.cons_append]

theorem mem_names_put {d : Dictionary} {name other text : Text} :
    other ∈ (d.put name text).names ↔ other = name ∨ other ∈ d.names := by
  rw [names_put]
  split
  · rename_i known
    constructor
    · exact .inr
    · rintro (rfl | old)
      · exact known
      · exact old
  · rw [List.mem_append, List.mem_singleton, or_comm]

theorem nodup_names_put {d : Dictionary} (distinct : d.names.Nodup) (name text : Text) :
    (d.put name text).names.Nodup := by
  rw [names_put]
  split
  · exact distinct
  · rename_i new
    refine List.nodup_append.2 ⟨distinct, by simp, fun other member last alone => ?_⟩
    rw [List.mem_singleton.1 alone]
    rintro rfl
    exact new member

theorem put_of_not_mem {d : Dictionary} {name : Text} (new : name ∉ d.names) (text : Text) :
    d.put name text = ⟨d.entries ++ [⟨name, text⟩]⟩ := by
  obtain ⟨entries⟩ := d
  simp only [put, names, Dictionary.mk.injEq] at new ⊢
  induction entries with
  | nil => rfl
  | cons entry rest ih =>
    simp only [List.map_cons, List.mem_cons, not_or] at new
    simp only [place, if_neg (Ne.symm new.1), ih new.2, List.cons_append]

theorem put_of_mem {d : Dictionary} {name : Text} (known : name ∈ d.names) (text : Text) :
    d.put name text = ⟨d.entries.set (d.names.idxOf name) ⟨name, text⟩⟩ := by
  obtain ⟨entries⟩ := d
  simp only [put, names, Dictionary.mk.injEq] at known ⊢
  induction entries with
  | nil => cases known
  | cons entry rest ih =>
    by_cases here : entry.name = name
    · simp [place, here]
    · have later : name ∈ rest.map (·.name) := by
        rcases List.mem_cons.1 known with same | later
        · exact absurd same.symm here
        · exact later
      have position : (entry.name :: rest.map (·.name)).idxOf name =
          (rest.map (·.name)).idxOf name + 1 := by
        rw [List.idxOf_cons, beq_eq_false_iff_ne.2 here]
        rfl
      rw [place, if_neg here, ih later, List.map_cons, position, List.set_cons_succ]

theorem isSome_find?_iff {d : Dictionary} {name : Text} :
    (d.find? name).isSome = true ↔ name ∈ d.names := by
  simp [find?, names, List.find?_isSome]

theorem find?_put (d : Dictionary) (name text other : Text) :
    (d.put name text).find? other = if other = name then some text else d.find? other := by
  obtain ⟨entries⟩ := d
  simp only [put, find?]
  induction entries with
  | nil =>
    by_cases same : other = name
    · simp [place, same]
    · simp [place, same, Ne.symm same]
  | cons entry rest ih =>
    by_cases here : entry.name = name
    · by_cases same : other = name
      · simp [place, here, same]
      · simp [place, here, same, Ne.symm same]
    · by_cases found : entry.name = other
      · subst found
        simp [place, here]
      · simpa [place, here, found] using ih

theorem put_put_same (d : Dictionary) (name before after : Text) :
    (d.put name before).put name after = d.put name after := by
  obtain ⟨entries⟩ := d
  simp only [put, Dictionary.mk.injEq]
  induction entries with
  | nil => simp [place]
  | cons entry rest ih =>
    by_cases here : entry.name = name
    · simp [place, here]
    · simp only [place, if_neg here, ih]

/-- The order of two words matters only for the place of one that is new. -/
theorem put_put_comm {d : Dictionary} {name other : Text} (known : name ∈ d.names)
    (apart : other ≠ name) (text otherText : Text) :
    (d.put name text).put other otherText = (d.put other otherText).put name text := by
  obtain ⟨entries⟩ := d
  simp only [put, names, Dictionary.mk.injEq] at known ⊢
  induction entries with
  | nil => simp at known
  | cons entry rest ih =>
    by_cases here : entry.name = name
    · simp [place, here, apart.symm]
    · have later : name ∈ rest.map (·.name) := by
        rcases List.mem_cons.1 known with same | later
        · exact absurd same.symm here
        · exact later
      by_cases there : entry.name = other
      · simp [place, there, apart]
      · simp only [place, if_neg here, if_neg there, ih later]

/-! ### A list of declared words -/

/-- The dictionary after some declarations, in the order in which they are made. -/
def enterAll (d : Dictionary) (declarations : List Declaration) : Dictionary :=
  declarations.foldl (fun d declaration => d.put (Text.lower declaration.name) declaration.text) d

@[simp] theorem enterAll_nil (d : Dictionary) : d.enterAll [] = d := rfl

@[simp] theorem enterAll_cons (d : Dictionary) (first : Declaration) (rest : List Declaration) :
    d.enterAll (first :: rest) = (d.put (Text.lower first.name) first.text).enterAll rest := rfl

theorem mem_names_enterAll {d : Dictionary} {name : Text} (declarations : List Declaration)
    (known : name ∈ d.names) : name ∈ (d.enterAll declarations).names := by
  induction declarations generalizing d with
  | nil => exact known
  | cons first rest ih => exact ih (mem_names_put.2 (.inr known))

/-- A new text for a known word is lost if the word is declared later, and otherwise can as well
come last. -/
theorem enterAll_put {d : Dictionary} {name : Text} (known : name ∈ d.names) (text : Text)
    (declarations : List Declaration) :
    (d.put name text).enterAll declarations =
      if name ∈ declarations.map (Text.lower ·.name) then d.enterAll declarations
      else (d.enterAll declarations).put name text := by
  induction declarations generalizing d with
  | nil => simp
  | cons first rest ih =>
    have known' : name ∈ (d.put (Text.lower first.name) first.text).names :=
      mem_names_put.2 (.inr known)
    by_cases same : Text.lower first.name = name
    · simp [same, put_put_same]
    · simp only [enterAll_cons, put_put_comm known same, ih known', List.map_cons, List.mem_cons,
        Ne.symm same, false_or]

/-- **Declarations made again change nothing.** -/
theorem enterAll_enterAll (d : Dictionary) (declarations : List Declaration) :
    (d.enterAll declarations).enterAll declarations = d.enterAll declarations := by
  induction declarations generalizing d with
  | nil => rfl
  | cons first rest ih =>
    have known : Text.lower first.name ∈ (d.put (Text.lower first.name) first.text).names :=
      mem_names_put.2 (.inl rfl)
    simp only [enterAll_cons]
    rw [enterAll_put (mem_names_enterAll rest known), ih]
    by_cases later : Text.lower first.name ∈ rest.map (Text.lower ·.name)
    · rw [if_pos later]
    · -- the first word keeps the text it was given, so giving it once more is idle
      have last := enterAll_put known first.text rest
      rw [if_neg later, put_put_same] at last
      rw [if_neg later, ← last]

/-! ### What may be entered -/

theorem set_eq_ok_iff {d after : Dictionary} {key text : Text} :
    d.set key text = .ok after ↔
      key ≠ [] ∧ Text.isDigitLed key = false ∧ Text.trim text ≠ [] ∧
        after = d.put (Text.lower key) text := by
  unfold set
  by_cases keyNil : key = []
  · simp [keyNil]
  · by_cases led : Text.isDigitLed key = true
    · simp [led]
    · by_cases blank : Text.trim text = []
      · simp [keyNil, led, blank]
      · simp [keyNil, led, blank, eq_comm]

end WordStack.Dictionary
