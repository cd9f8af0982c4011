import WordStack.Proofs.Found
import WordStack.Proofs.TokenMachine

/-! The grammar of declarations.

A declaration is a colon, a name, whitespace, a text and a semicolon, with any
whitespace between the parts. What is wrong with one that is not well formed can
be seen from its tokens: it has none, or a single one, or the first of them starts
with a digit. `Reading` has one rule for each outcome, told by what the text is put
together from, and the recogniser gives just that outcome (`scan_eq_iff_reading`).
Hence every declaration of the grammar is found, with nothing lost of it but
whitespace, and it can be taken apart in one way only. -/
namespace WordStack

/-! ### The grammar -/

namespace Declaration

/-- The text is written as a declaration, with a name and a text, and a rest behind it. The gaps
between them may be empty, but for that between the name and the text. -/
structure Written (source name text rest : Text) : Prop where
  spelled : ∃ w₁ w₂ w₃ w₄ w₅ : Text, (∀ w ∈ [w₁, w₂, w₃, w₄, w₅], w.IsGap) ∧ w₂ ≠ [] ∧
    source = ':' :: (w₁ ++ name ++ w₂ ++ text ++ w₃ ++ ';' :: (w₄ ++ rest ++ w₅))
  named : name ≠ []
  solid : ∀ c ∈ name, Text.isSpace c = false
  letterLed : Text.isDigitLed name = false
  full : text ≠ []
  trimmed : text.Trimmed
  unclosed : ';' ∉ name ∧ ';' ∉ text
  trimmedRest : rest.Trimmed

/-- What is to be made of a text. -/
inductive Reading (source : Text) : Except Error (Scan Declaration) → Prop where
  | miss : source.head? ≠ some ':' → Reading source (.ok (.miss []))
  | unterminated : source.head? = some ':' → ';' ∉ source → Reading source (.error .unterminated)
  | empty {inside after} : Encloses source inside after → inside.IsGap →
      Reading source (.error .emptyDeclaration)
  | noDefinition {inside after name} : Encloses source inside after → inside.tokens = [name] →
      Reading source (.error (.noDefinition name))
  | digitLed {inside after name second more} : Encloses source inside after →
      inside.tokens = name :: second :: more → Text.isDigitLed name = true →
      Reading source (.error (.digitLed name))
  | hit {name text rest} : Written source name text rest →
      Reading source (.ok (.hit ⟨Text.lower name, text⟩ rest))

end Declaration

/-! ### Gaps and tokens -/

namespace Text
variable {text gap : Text}

instance : DecidablePred IsGap := fun text =>
  decidable_of_iff (text.all isSpace = true) List.all_eq_true

theorem tokens_of_isGap (blank : IsGap text) : tokens text = [] := by
  rw [← tokens_trimLeft, trimLeft_eq_nil_iff.2 blank, tokens_nil]

theorem tokens_eq_nil_iff : tokens text = [] ↔ IsGap text := by
  constructor
  · intro noTokens
    by_contra full
    have left := mt trimLeft_eq_nil_iff.1 full
    have first := token_ne_nil left (isSpaceLed_trimLeft text)
    rw [← tokens_trimLeft, tokens_of_token_ne_nil first] at noTokens
    cases noTokens
  · exact tokens_of_isGap

theorem tokens_append_gap (blank : IsGap gap) : tokens (text ++ gap) = tokens text := by
  by_cases gapNil : gap = []
  · rw [gapNil, List.append_nil]
  · rw [tokens_append (isSpaceLed_of_isGap blank gapNil), tokens_of_isGap blank, List.append_nil]

theorem exists_gap_append_trimLeft (text : Text) : ∃ gap, IsGap gap ∧ text = gap ++ trimLeft text :=
  ⟨text.takeWhile isSpace, fun _ => List.mem_takeWhile_imp, List.takeWhile_append_dropWhile.symm⟩

/-- A text is what is left of it when it is trimmed, between gaps. -/
theorem exists_append_trim (text : Text) :
    ∃ before behind, IsGap before ∧ IsGap behind ∧ text = before ++ (trim text ++ behind) := by
  obtain ⟨before, blank, cut⟩ := exists_gap_append_trimLeft text
  obtain ⟨behind, blank', cut'⟩ := exists_trimRight_append (trimLeft text)
  exact ⟨before, behind, blank, blank', cut.trans (congrArg (before ++ ·) cut')⟩

theorem tokens_trim (text : Text) : tokens (trim text) = tokens text := by
  obtain ⟨behind, blank, cut⟩ := exists_trimRight_append (trimLeft text)
  calc tokens (trim text)
      = tokens (trim text ++ behind) := (tokens_append_gap blank).symm
    _ = tokens (trimLeft text) := by rw [trim, ← cut]
    _ = tokens text := tokens_trimLeft

/-- Between the first token and what else there is stands whitespace. -/
theorem exists_token_append (left : trim (afterToken text) ≠ []) :
    ∃ gap behind, IsGap gap ∧ gap ≠ [] ∧ IsGap behind ∧
      text = token text ++ (gap ++ (trim (afterToken text) ++ behind)) := by
  obtain ⟨gap, behind, blank, blank', cut⟩ := exists_append_trim (afterToken text)
  refine ⟨gap, behind, blank, ?_, blank', ?_⟩
  · -- what follows the token begins with whitespace, and when it is trimmed it does not
    intro gapNil
    rw [gapNil, List.nil_append] at cut
    have nonempty := List.append_ne_nil_of_left_ne_nil left behind
    have led := isSpaceLed_afterToken (cut.symm ▸ nonempty)
    rw [cut, isSpaceLed_append left, (trimmed_trim _).led] at led
    cases led
  · rw [← cut, token_append_afterToken]

/-- A trimmed text with a token begins with it, and the other tokens stand behind it. -/
theorem Trimmed.tokens_eq_cons_iff {name : Text} {others : List Text} (trimmed : Trimmed text) :
    tokens text = name :: others ↔
      text ≠ [] ∧ token text = name ∧ tokens (afterToken text) = others := by
  by_cases textNil : text = []
  · simp [textNil]
  · rw [tokens_of_token_ne_nil (token_ne_nil textNil trimmed.led), List.cons.injEq]
    simp [textNil]

end Text

namespace Declaration
variable {source inside after name text rest : Text}

/-! ### What is read -/

theorem read_trim_of_isGap (blank : inside.IsGap) :
    read (Text.trim inside) = .error .emptyDeclaration := by
  rw [Text.trim_eq_nil_iff.2 blank]
  rfl

/-- What comes of the tokens, if there is one at all. -/
theorem read_trim_of_tokens {others : List Text} (tokens : inside.tokens = name :: others) :
    read (Text.trim inside) =
      if others = [] then .error (.noDefinition name)
      else if Text.isDigitLed name then .error (.digitLed name)
      else .ok ⟨Text.lower name, Text.trim (Text.afterToken (Text.trim inside))⟩ := by
  rw [← Text.tokens_trim, (Text.trimmed_trim inside).tokens_eq_cons_iff] at tokens
  obtain ⟨nonempty, rfl, rfl⟩ := tokens
  have bare : Text.trim (Text.afterToken (Text.trim inside)) = [] ↔
      (Text.afterToken (Text.trim inside)).tokens = [] :=
    Text.trim_eq_nil_iff.trans Text.tokens_eq_nil_iff.symm
  simp only [read, if_neg nonempty, bare]

/-! ### What is written -/

theorem not_mem_of_isGap {gap : Text} (blank : gap.IsGap) : ';' ∉ gap := fun member =>
  absurd (blank ';' member) (by decide)

/-- The parts of what is written are found by cutting and trimming. -/
theorem Written.exists_encloses (written : Written source name text rest) :
    ∃ inside after, Encloses source inside after ∧ Text.trim inside ≠ [] ∧
      Text.token (Text.trim inside) = name ∧
      Text.trim (Text.afterToken (Text.trim inside)) = text ∧ Text.trim after = rest := by
  obtain ⟨w₁, w₂, w₃, w₄, w₅, gaps, parted, spelled⟩ := written.spelled
  simp only [List.forall_mem_cons, List.not_mem_nil, false_imp_iff, implies_true, and_true] at gaps
  obtain ⟨gap₁, gap₂, gap₃, gap₄, gap₅⟩ := gaps
  obtain ⟨unclosed, unclosed'⟩ := written.unclosed
  have whole : Text.Trimmed (name ++ (w₂ ++ text)) :=
    (Text.trimmed_of_solid written.solid).append written.trimmed written.named written.full
  have inside : Text.trim (w₁ ++ name ++ w₂ ++ text ++ w₃) = name ++ (w₂ ++ text) := by
    simpa only [List.append_assoc] using whole.trim_between gap₁ gap₃
  have led : Text.isSpaceLed (w₂ ++ text) = true := Text.isSpaceLed_gap_append parted gap₂
  obtain ⟨token, behind⟩ := Text.cut_solid written.solid (.inr led)
  have body : Text.trim (w₂ ++ text) = text := by
    simpa only [List.append_nil] using written.trimmed.trim_between gap₂ Text.isGap_nil
  have left : Text.trim (w₄ ++ rest ++ w₅) = rest := by
    simpa only [List.append_assoc] using written.trimmedRest.trim_between gap₄ gap₅
  refine ⟨_, _, ⟨spelled, ?_⟩, ?_, ?_, ?_, left⟩
  · simp only [List.mem_append, not_or]
    exact ⟨⟨⟨⟨not_mem_of_isGap gap₁, unclosed⟩, not_mem_of_isGap gap₂⟩, unclosed'⟩,
      not_mem_of_isGap gap₃⟩
  · rw [inside]
    exact List.append_ne_nil_of_left_ne_nil written.named _
  · rw [inside, token]
  · rw [inside, behind, body]

theorem Written.unique {name' text' rest' : Text} (written : Written source name text rest)
    (written' : Written source name' text' rest') :
    name = name' ∧ text = text' ∧ rest = rest' := by
  obtain ⟨inside, after, encloses, -, rfl, rfl, rfl⟩ := written.exists_encloses
  obtain ⟨inside', after', encloses', -, rfl, rfl, rfl⟩ := written'.exists_encloses
  obtain ⟨rfl, rfl⟩ := encloses.unique encloses'
  exact ⟨rfl, rfl, rfl⟩

/-- What has two tokens, of which no digit leads the first, is written as a declaration. -/
theorem Encloses.written {second : Text} {more : List Text}
    (encloses : Encloses source inside after) (tokens : inside.tokens = name :: second :: more)
    (letterLed : Text.isDigitLed name = false) :
    Written source name (Text.trim (Text.afterToken (Text.trim inside))) (Text.trim after) := by
  rw [← Text.tokens_trim, (Text.trimmed_trim inside).tokens_eq_cons_iff] at tokens
  obtain ⟨nonempty, rfl, others⟩ := tokens
  have full : Text.trim (Text.afterToken (Text.trim inside)) ≠ [] := by
    intro bare
    rw [Text.tokens_of_isGap (Text.trim_eq_nil_iff.1 bare)] at others
    cases others
  have kept := Text.trim_sublist inside
  have kept' := (Text.trim_sublist _).trans ((Text.afterToken_suffix _).sublist.trans kept)
  refine ⟨?_, Text.token_ne_nil nonempty (Text.trimmed_trim inside).led,
    fun _ => Text.isSpace_of_mem_token, letterLed, full, Text.trimmed_trim _, ⟨?_, ?_⟩,
    Text.trimmed_trim after⟩
  · obtain ⟨w₁, w₃', gap₁, gap₃', cut⟩ := Text.exists_append_trim inside
    obtain ⟨w₂, w₃, gap₂, parted, gap₃, cut'⟩ := Text.exists_token_append full
    obtain ⟨w₄, w₅, gap₄, gap₅, cut''⟩ := Text.exists_append_trim after
    refine ⟨w₁, w₂, w₃ ++ w₃', w₄, w₅, ?_, parted, ?_⟩
    · simp only [List.forall_mem_cons]
      exact ⟨gap₁, gap₂, Text.isGap_append.2 ⟨gap₃, gap₃'⟩, gap₄, gap₅, nofun⟩
    · calc source
          = ':' :: (inside ++ ';' :: after) := encloses.whole
        _ = ':' :: (w₁ ++ (Text.trim inside ++ w₃') ++ ';' :: (w₄ ++ (Text.trim after ++ w₅))) := by
          rw [← cut, ← cut'']
        _ = _ := by
          generalize Text.token (Text.trim inside) = name,
            Text.trim (Text.afterToken (Text.trim inside)) = text at cut' ⊢
          rw [cut']
          simp only [List.append_assoc]
  · exact fun member => encloses.unclosed (kept.mem ((List.takeWhile_sublist _).mem member))
  · exact fun member => encloses.unclosed (kept'.mem member)

/-! ### The recogniser -/

/-- The recogniser does what the grammar says, rule by rule. -/
theorem Reading.scan_eq {outcome : Except Error (Scan Declaration)}
    (reading : Reading source outcome) : scan source = outcome := by
  cases reading with
  | miss other => exact scan_of_head?_ne other
  | unterminated colon unclosed =>
    obtain ⟨source, rfl⟩ := List.head?_eq_some_iff.1 colon
    exact scan_unterminated fun member => unclosed (List.mem_cons_of_mem _ member)
  | empty encloses blank =>
    rw [encloses.scan_eq, read_trim_of_isGap blank]
    rfl
  | noDefinition encloses tokens =>
    rw [encloses.scan_eq, read_trim_of_tokens tokens]
    rfl
  | digitLed encloses tokens led =>
    rw [encloses.scan_eq, read_trim_of_tokens tokens, if_neg (List.cons_ne_nil _ _), if_pos led]
    rfl
  | @hit name text rest written =>
    obtain ⟨inside, after, encloses, nonempty, rfl, rfl, rfl⟩ := written.exists_encloses
    have read := read_eq_ok_iff.2 ⟨nonempty, written.full, written.letterLed, rfl⟩
    rw [encloses.scan_eq, read]
    rfl

/-- The grammar says something of every text. -/
theorem exists_reading (source : Text) : ∃ outcome, Reading source outcome := by
  by_cases colon : source.head? = some ':'
  · by_cases closed : ';' ∈ source
    · obtain ⟨inside, after, encloses⟩ := exists_encloses colon closed
      match tokens : inside.tokens with
      | [] => exact ⟨_, .empty encloses (Text.tokens_eq_nil_iff.1 tokens)⟩
      | [name] => exact ⟨_, .noDefinition encloses tokens⟩
      | name :: second :: more =>
        by_cases led : Text.isDigitLed name = true
        · exact ⟨_, .digitLed encloses tokens led⟩
        · exact ⟨_, .hit (encloses.written tokens (Bool.eq_false_iff.2 led))⟩
    · exact ⟨_, .unterminated colon closed⟩
  · exact ⟨_, .miss colon⟩

/-- **Exactly the declarations of the grammar are found.** Of every text the recogniser makes what
the grammar says. It refuses a text as an invalid word if at all, and the name, the text and the
rest of what is written as a declaration are unique. -/
theorem scan_eq_iff_reading (source : Text) :
    (∀ outcome, scan source = outcome ↔ Reading source outcome) ∧
    (∀ e, scan source = .error e → e.kind = some .invalidWord) ∧
    ∀ name text rest name' text' rest', Written source name text rest →
      Written source name' text' rest' → name = name' ∧ text = text' ∧ rest = rest' := by
  refine ⟨fun outcome => ⟨fun found => ?_, Reading.scan_eq⟩, fun e => kind_of_scan_eq_error,
    fun _ _ _ _ _ _ => Written.unique⟩
  obtain ⟨other, reading⟩ := exists_reading source
  rw [reading.scan_eq] at found
  exact found ▸ reading

/-- The name is kept in small letters, and the only way to write it is as it was written. -/
theorem scan_eq_iff_reading_spread :
    let source : Text := ":\t\u2003Größe  1 Über +\n; drop ".toList
    scan source = .ok (.hit ⟨"größe".toList, "1 Über +".toList⟩ "drop".toList) ∧
      ∀ name text rest, Written source name text rest →
        name = "Größe".toList ∧ text = "1 Über +".toList ∧ rest = "drop".toList := by
  intro source
  have spaceless : "Größe".toList.any Text.isSpace = false := by decide +kernel
  have solid : ∀ c ∈ "Größe".toList, Text.isSpace c = false := by
    simpa only [List.any_eq_false, Bool.not_eq_true] using spaceless
  have written : Written source "Größe".toList "1 Über +".toList "drop".toList := {
    spelled := ⟨"\t\u2003".toList, "  ".toList, "\n".toList, " ".toList, " ".toList,
      by decide +kernel, by decide, by decide⟩
    named := by decide
    solid := solid
    letterLed := by decide +kernel
    full := by decide
    trimmed := ⟨by decide, by decide⟩
    unclosed := by decide
    trimmedRest := ⟨by decide, by decide⟩ }
  have told := scan_eq_iff_reading source
  have small : Text.lower "Größe".toList = "größe".toList := by decide +kernel
  have found := (told.1 _).2 (.hit written)
  rw [small] at found
  exact ⟨found, fun name text rest other => told.2.2 _ _ _ _ _ _ other written⟩

end Declaration
end WordStack
