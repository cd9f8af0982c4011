import Mathlib.Data.List.DropRight
import Mathlib.Data.List.TakeWhile
import WordStack.Declaration

/-! How texts are cut when something stands behind them.

Cutting off a token or trimming does not look further than it must: what it does
to a text it does to the text with more behind it, provided the two are parted by
whitespace, or the text has something that is not whitespace. Nor is anything
behind the terminator of a declaration looked at, except for being trimmed. -/
namespace WordStack
namespace Text

/-- Whitespace throughout. -/
def IsGap (text : Text) : Prop := ∀ c ∈ text, isSpace c = true

/-- Whether a text begins with whitespace. -/
def isSpaceLed (text : Text) : Bool := text.head?.any isSpace

variable {text rest gap : Text}

theorem isGap_nil : IsGap [] := by simp [IsGap]

theorem isGap_space : IsGap [' '] := by
  intro c member
  rw [List.mem_singleton.1 member]
  rfl

theorem isGap_append : IsGap (text ++ rest) ↔ IsGap text ∧ IsGap rest := by
  simp only [IsGap, List.mem_append, or_imp, forall_and]

theorem isSpaceLed_of_isGap (blank : IsGap gap) (nonempty : gap ≠ []) : isSpaceLed gap = true := by
  cases gap with
  | nil => exact absurd rfl nonempty
  | cons c gap => exact blank c (List.mem_cons_self ..)

theorem isSpaceLed_append (nonempty : text ≠ []) : isSpaceLed (text ++ rest) = isSpaceLed text := by
  cases text with
  | nil => exact absurd rfl nonempty
  | cons c text => rfl

theorem isSpaceLed_gap_append (nonempty : gap ≠ []) (blank : IsGap gap) :
    isSpaceLed (gap ++ rest) = true := by
  rw [isSpaceLed_append nonempty]
  exact isSpaceLed_of_isGap blank nonempty

/-! ### Trimming -/

theorem trimLeft_eq_nil_iff : trimLeft text = [] ↔ IsGap text :=
  List.dropWhile_eq_nil_iff

theorem trimRight_eq_nil_iff : trimRight text = [] ↔ IsGap text :=
  List.rdropWhile_eq_nil_iff

theorem isGap_trimLeft : IsGap (trimLeft text) ↔ IsGap text := by
  constructor
  · intro blank
    induction text with
    | nil => exact isGap_nil
    | cons c text ih =>
      by_cases space : isSpace c = true
      · have later : IsGap text := ih (by simpa [trimLeft, space] using blank)
        simpa [IsGap, space] using later
      · simpa [trimLeft, space] using blank
  · intro blank
    rw [trimLeft_eq_nil_iff.2 blank]
    exact isGap_nil

theorem trim_eq_nil_iff : trim text = [] ↔ IsGap text := by
  rw [trim, trimRight_eq_nil_iff, isGap_trimLeft]

theorem trimLeft_gap_append (blank : IsGap gap) : trimLeft (gap ++ text) = trimLeft text :=
  List.dropWhile_append_of_pos blank

theorem trimLeft_append (full : ¬ IsGap text) : trimLeft (text ++ rest) = trimLeft text ++ rest := by
  have left : (trimLeft text).isEmpty = false := by
    simpa [trimLeft_eq_nil_iff] using full
  simp only [trimLeft] at left ⊢
  simp [List.dropWhile_append, left]

theorem trimRight_append_gap (blank : IsGap gap) : trimRight (text ++ gap) = trimRight text := by
  have blank' : ∀ c ∈ gap.reverse, isSpace c = true := fun c member =>
    blank c (List.mem_reverse.1 member)
  simp only [trimRight, List.reverse_append]
  rw [List.dropWhile_append_of_pos blank']

theorem trimRight_append (full : ¬ IsGap rest) :
    trimRight (text ++ rest) = text ++ trimRight rest := by
  have full' : ¬ IsGap rest.reverse := by simpa [IsGap] using full
  have cut : trimLeft (rest.reverse ++ text.reverse) = _ := trimLeft_append full'
  simp only [trimLeft] at cut
  simp only [trimRight, List.reverse_append, cut, List.reverse_reverse]

/-- Trimming takes off whitespace and nothing else. -/
theorem exists_trimRight_append (text : Text) : ∃ gap, IsGap gap ∧ text = trimRight text ++ gap := by
  refine ⟨(text.reverse.takeWhile isSpace).reverse, ?_, ?_⟩
  · intro c member
    exact List.mem_takeWhile_imp (List.mem_reverse.1 member)
  · rw [trimRight, ← List.reverse_append, List.takeWhile_append_dropWhile, List.reverse_reverse]

theorem trimLeft_suffix (text : Text) : trimLeft text <:+ text := List.dropWhile_suffix _

theorem trim_sublist (text : Text) : (trim text).Sublist text :=
  (List.rdropWhile_prefix isSpace _).sublist.trans (List.dropWhile_sublist isSpace)

theorem trimLeft_eq_self (led : isSpaceLed text = false) : trimLeft text = text := by
  cases text with
  | nil => rfl
  | cons c text =>
    have letter : isSpace c = false := led
    simp [trimLeft, letter]

theorem isSpaceLed_trimLeft (text : Text) : isSpaceLed (trimLeft text) = false := by
  have stops := List.head?_dropWhile_not isSpace text
  unfold isSpaceLed trimLeft
  cases head : (text.dropWhile isSpace).head? with
  | none => rfl
  | some c => simpa [head] using stops

/-- A text without whitespace at either end. -/
structure Trimmed (text : Text) : Prop where
  led : isSpaceLed text = false
  right : trimRight text = text

theorem trimmed_nil : Trimmed [] := ⟨rfl, rfl⟩

theorem trimmed_trim (text : Text) : Trimmed (trim text) where
  led := by
    obtain ⟨gap, -, cut⟩ := exists_trimRight_append (trimLeft text)
    rw [trim]
    by_cases trimNil : trimRight (trimLeft text) = []
    · rw [trimNil]
      rfl
    · have led := isSpaceLed_trimLeft text
      rwa [cut, isSpaceLed_append trimNil] at led
  right := List.rdropWhile_idempotent isSpace (trimLeft text)

theorem trimmed_of_solid (solid : ∀ c ∈ text, isSpace c = false) : Trimmed text where
  led := by
    cases text with
    | nil => rfl
    | cons c text => exact solid c (List.mem_cons_self ..)
  right := List.rdropWhile_eq_self_iff.2 fun nonempty => by
    simp [solid _ (List.getLast_mem nonempty)]

theorem trimmed_singleton {c : Char} (letter : isSpace c = false) : Trimmed [c] :=
  trimmed_of_solid fun d member => by rwa [List.mem_singleton.1 member]

theorem Trimmed.not_isGap (trimmed : Trimmed text) (nonempty : text ≠ []) :
    ¬ IsGap text := fun blank => by
  have led := isSpaceLed_of_isGap blank nonempty
  rw [trimmed.led] at led
  cases led

theorem Trimmed.append {between : Text} (first : Trimmed text) (second : Trimmed rest)
    (nonempty : text ≠ []) (nonempty' : rest ≠ []) : Trimmed (text ++ (between ++ rest)) where
  led := by rw [isSpaceLed_append nonempty, first.led]
  right := by
    rw [← List.append_assoc, trimRight_append (second.not_isGap nonempty'), second.right]

/-- Trimming finds a trimmed text between whitespace. -/
theorem Trimmed.trim_between {before behind : Text} (trimmed : Trimmed text) (blank : IsGap before)
    (blank' : IsGap behind) : trim (before ++ (text ++ behind)) = text := by
  by_cases textNil : text = []
  · rw [textNil, trim_eq_nil_iff]
    exact isGap_append.2 ⟨blank, blank'⟩
  · rw [trim, trimLeft_gap_append blank, trimLeft_append (trimmed.not_isGap textNil),
      trimLeft_eq_self trimmed.led, trimRight_append_gap blank', trimmed.right]

/-! ### Tokens -/

theorem afterToken_suffix (text : Text) : afterToken text <:+ text := List.dropWhile_suffix _

theorem trimLeft_afterToken_suffix (text : Text) : trimLeft (afterToken text) <:+ text :=
  (trimLeft_suffix _).trans (afterToken_suffix text)

theorem token_of_isSpaceLed (led : isSpaceLed text = true) : token text = [] := by
  cases text with
  | nil => rfl
  | cons c text =>
    have space : isSpace c = true := led
    simp [token, space]

theorem afterToken_of_isSpaceLed (led : isSpaceLed text = true) : afterToken text = text := by
  cases text with
  | nil => rfl
  | cons c text =>
    have space : isSpace c = true := led
    simp [afterToken, space]

theorem token_cons {c : Char} (letter : isSpace c = false) : token (c :: text) = c :: token text := by
  simp [token, letter]

theorem afterToken_cons {c : Char} (letter : isSpace c = false) :
    afterToken (c :: text) = afterToken text := by
  simp [afterToken, letter]

theorem token_append (led : isSpaceLed rest = true) : token (text ++ rest) = token text := by
  induction text with
  | nil => exact token_of_isSpaceLed led
  | cons c text ih =>
    simp only [token] at ih
    by_cases space : isSpace c = true <;> simp [token, space, ih]

theorem afterToken_append (led : isSpaceLed rest = true) :
    afterToken (text ++ rest) = afterToken text ++ rest := by
  induction text with
  | nil => exact afterToken_of_isSpaceLed led
  | cons c text ih =>
    simp only [afterToken] at ih
    by_cases space : isSpace c = true <;> simp [afterToken, space, ih]

/-- A first piece without whitespace is the first token. -/
theorem cut_solid {piece behind : Text} (solid : ∀ c ∈ piece, isSpace c = false)
    (parted : behind = [] ∨ isSpaceLed behind = true) :
    token (piece ++ behind) = piece ∧ afterToken (piece ++ behind) = behind := by
  have whole : token piece = piece := List.takeWhile_eq_self_iff.2 (by simpa using solid)
  have afterNil : afterToken piece = [] := List.dropWhile_eq_nil_iff.2 (by simpa using solid)
  rcases parted with rfl | led
  · rw [List.append_nil]
    exact ⟨whole, afterNil⟩
  · rw [token_append led, afterToken_append led, whole, afterNil]
    exact ⟨rfl, rfl⟩

/-- What follows a token begins with the whitespace that ends it. -/
theorem isSpaceLed_afterToken (left : afterToken text ≠ []) : isSpaceLed (afterToken text) = true := by
  have stops := List.head?_dropWhile_not (!isSpace ·) text
  unfold isSpaceLed afterToken at *
  cases head : (text.dropWhile (!isSpace ·)).head? with
  | none => exact absurd (List.head?_eq_none_iff.1 head) left
  | some c => simpa [head] using stops

theorem cut_afterToken {piece : Text} (solid : ∀ c ∈ piece, isSpace c = false) (text : Text) :
    token (piece ++ afterToken text) = piece ∧
      afterToken (piece ++ afterToken text) = afterToken text :=
  cut_solid solid (or_iff_not_imp_left.2 isSpaceLed_afterToken)

theorem token_ne_nil (nonempty : text ≠ []) (led : isSpaceLed text = false) : token text ≠ [] := by
  cases text with
  | nil => exact absurd rfl nonempty
  | cons c text =>
    have letter : isSpace c = false := led
    simp [token, letter]

/-! ### Plain spaces -/

theorem withPlainSpaces_append (x y : Text) :
    withPlainSpaces (x ++ y) = withPlainSpaces x ++ withPlainSpaces y :=
  List.map_append

theorem withPlainSpaces_eq_nil_iff {x : Text} : withPlainSpaces x = [] ↔ x = [] :=
  List.map_eq_nil_iff

theorem not_mem_withPlainSpaces {c : Char} (letter : c ≠ ' ') (absent : c ∉ text) :
    c ∉ withPlainSpaces text := fun member => by
  obtain ⟨d, there, same⟩ := List.mem_map.1 member
  split at same
  · exact letter same.symm
  · exact absent (same ▸ there)

/-- A text that does not begin with a blank is read as one that does not begin with whitespace. -/
theorem isSpaceLed_withPlainSpaces (led : text.head?.any isBlank = false) :
    isSpaceLed (withPlainSpaces text) = false := by
  cases text with
  | nil => rfl
  | cons c text =>
    have letter : isBlank c = false := led
    have space : isSpace c = false := by
      simpa [isBlank] using (Bool.or_eq_false_iff.1 letter).1
    simpa [withPlainSpaces, isSpaceLed, letter] using space

theorem isGap_withPlainSpaces {x : Text} (blank : ∀ c ∈ x, isBlank c = true) :
    IsGap (withPlainSpaces x) := by
  intro c member
  obtain ⟨d, there, rfl⟩ := List.mem_map.1 member
  rw [if_pos (blank d there)]
  decide

end Text

/-! ### Declarations -/

namespace Declaration
variable {source : Text}

theorem scan_of_ne {c : Char} (other : c ≠ ':') : scan (c :: source) = .ok (.miss []) := by
  unfold scan
  split
  · rename_i same
    exact absurd (List.cons.inj same).1 other
  · rfl

theorem scan_of_head?_ne (other : source.head? ≠ some ':') : scan source = .ok (.miss []) := by
  cases source with
  | nil => rfl
  | cons c source => exact scan_of_ne fun same => other (congrArg some same)

theorem not_mem_of_dropWhile (dropNil : source.dropWhile (· != ';') = []) :
    ';' ∉ source := fun member => by
  have all := List.dropWhile_eq_nil_iff.1 dropNil ';' member
  simp at all

/-- A declaration is read if it has a name that no digit leads, and a text. -/
theorem read_eq_ok_iff {body : Text} {declaration : Declaration} :
    read body = .ok declaration ↔
      body ≠ [] ∧ Text.trim (Text.afterToken body) ≠ [] ∧
        Text.isDigitLed (Text.token body) = false ∧
        declaration = ⟨Text.lower (Text.token body), Text.trim (Text.afterToken body)⟩ := by
  unfold read
  by_cases bodyNil : body = []
  · simp [bodyNil]
  · by_cases blank : Text.trim (Text.afterToken body) = []
    · simp [bodyNil, blank]
    · by_cases led : Text.isDigitLed (Text.token body) = true
      · simp [bodyNil, blank, led]
      · simp [bodyNil, blank, led, eq_comm]

/-- What stands before the first semicolon is read, and what stands behind it is left. -/
theorem scan_of_dropWhile {c : Char} {after : Text} (found : source.dropWhile (· != ';') = c :: after) :
    scan (':' :: source) =
      (read (Text.trim (source.takeWhile (· != ';')))).map (Scan.hit · (Text.trim after)) := by
  simp only [scan, found]

theorem scan_unterminated (unclosed : ';' ∉ source) : scan (':' :: source) = .error .unterminated := by
  have dropNil : source.dropWhile (· != ';') = [] := by
    refine List.dropWhile_eq_nil_iff.2 fun c member => ?_
    simpa using ne_of_mem_of_not_mem member unclosed
  simp only [scan, dropNil]

/-- The text begins with a colon; `inside` stands between that and the first semicolon, and `after`
behind the semicolon. -/
structure Encloses (source inside after : Text) : Prop where
  whole : source = ':' :: (inside ++ ';' :: after)
  unclosed : ';' ∉ inside

theorem exists_encloses (colon : source.head? = some ':') (closed : ';' ∈ source) :
    ∃ inside after, Encloses source inside after := by
  obtain ⟨source, rfl⟩ := List.head?_eq_some_iff.1 colon
  have closed' : ';' ∈ source := by simpa using closed
  obtain ⟨inside, after, whole, unclosed⟩ := List.eq_append_cons_of_mem closed'
  exact ⟨inside, after, congrArg _ whole, unclosed⟩

section
variable {inside after : Text}

theorem Encloses.cut (encloses : Encloses source inside after) :
    source.tail.takeWhile (· != ';') = inside ∧
      source.tail.dropWhile (· != ';') = ';' :: after := by
  obtain ⟨rfl, unclosed⟩ := encloses
  have unclosed' : ∀ c ∈ inside, (c != ';') = true := fun c member =>
    bne_iff_ne.2 (ne_of_mem_of_not_mem member unclosed)
  rw [List.tail_cons, List.takeWhile_append_of_pos unclosed', List.dropWhile_append_of_pos unclosed']
  exact ⟨List.append_nil _, rfl⟩

theorem Encloses.unique {inside' after' : Text} (encloses : Encloses source inside after)
    (encloses' : Encloses source inside' after') : inside = inside' ∧ after = after' := by
  have before := encloses.cut.1.symm.trans encloses'.cut.1
  have behind := encloses.cut.2.symm.trans encloses'.cut.2
  exact ⟨before, (List.cons.inj behind).2⟩

theorem Encloses.scan_eq (encloses : Encloses source inside after) :
    scan source = (read (Text.trim inside)).map (Scan.hit · (Text.trim after)) := by
  obtain ⟨before, behind⟩ := encloses.cut
  have whole : ':' :: source.tail = source := by
    rw [encloses.whole]
    rfl
  have found := scan_of_dropWhile behind
  rwa [before, whole] at found

end

/-- Where the terminator is there, what stands behind it is only trimmed. -/
theorem exists_scan_append (closed : ';' ∈ source) :
    ∃ body after, ∀ tail, scan (':' :: (source ++ tail)) =
      (read body).map (Scan.hit · (Text.trim (after ++ tail))) := by
  obtain ⟨inside, after, rfl, unclosed⟩ := List.eq_append_cons_of_mem closed
  refine ⟨Text.trim inside, after, fun tail => ?_⟩
  have encloses : Encloses (':' :: (inside ++ ';' :: after ++ tail)) inside (after ++ tail) :=
    ⟨by rw [List.append_assoc, List.cons_append], unclosed⟩
  exact encloses.scan_eq

end Declaration
end WordStack
