import Mathlib.Data.List.DropRight
import WordStack.Proofs.Moment

/-! What recognisers take, and how stages come to an end.

An item is taken off the front of a text with all the whitespace behind it, and what
is left begins with something else. Nothing of the text is lost, but that behind a
declaration the whitespace at the very end is dropped, too. So whatever a stage finds
leaves a shorter text, which is the end of the text it was found in, and a stage that
finds nothing hands on its text as it is, whatever its recogniser says is left
(`parted_and_orderly`). -/
namespace WordStack

namespace Text
variable {source item after rest further dropped text : Text}

/-- The whitespace at the front of a text. -/
def leading (text : Text) : Text := text.takeWhile isSpace

/-- The whitespace at the end of a text. -/
def trailing (text : Text) : Text := text.rtakeWhile isSpace

/-- The source is an item and all the whitespace behind it, then what is left, and then what is
dropped. -/
structure Parted (source item rest dropped : Text) : Prop where
  whole : source = item ++ (leading (source.drop item.length) ++ (rest ++ dropped))
  nonempty : item ≠ []
  led : isSpaceLed rest = false

/-- What is left of a text is its end, apart from whitespace behind it. -/
def EndOf (rest text : Text) : Prop := ∃ gap, IsGap gap ∧ rest ++ gap <:+ text

/-! ### Texts in parts -/

theorem leading_append_trimLeft (text : Text) : leading text ++ trimLeft text = text :=
  List.takeWhile_append_dropWhile

theorem trimRight_append_trailing (text : Text) : trimRight text ++ trailing text = text :=
  List.rdropWhile_append_rtakeWhile

theorem isGap_trailing (text : Text) : IsGap (trailing text) := fun _ => List.mem_rtakeWhile_imp

theorem trailing_append (full : ¬ IsGap rest) : trailing (text ++ rest) = trailing rest := by
  have whole := trimRight_append_trailing (text ++ rest)
  rw [trimRight_append full, List.append_assoc] at whole
  nth_rewrite 3 [← trimRight_append_trailing rest] at whole
  exact List.append_cancel_left (List.append_cancel_left whole)

theorem parted_append (nonempty : item ≠ []) (left : trimLeft after = rest ++ dropped)
    (led : isSpaceLed rest = false) : Parted (item ++ after) item rest dropped where
  whole := by rw [List.drop_left, ← left, leading_append_trimLeft]
  nonempty := nonempty
  led := led

/-- A first token is an item, with the whitespace that ends it. -/
theorem parted_token (nonempty : token source ≠ []) :
    Parted source (token source) (trimLeft (afterToken source)) [] := by
  have parted : Parted (token source ++ afterToken source) (token source)
      (trimLeft (afterToken source)) [] :=
    parted_append nonempty (List.append_nil _).symm (isSpaceLed_trimLeft _)
  rwa [token_append_afterToken] at parted

theorem endOf_of_suffix (suffix : rest <:+ text) : EndOf rest text :=
  ⟨[], isGap_nil, by rwa [List.append_nil]⟩

theorem EndOf.trans (ends : EndOf rest further) (ends' : EndOf further text) : EndOf rest text := by
  obtain ⟨gap, blank, before, rfl⟩ := ends
  obtain ⟨gap', blank', before', rfl⟩ := ends'
  exact ⟨gap ++ gap', isGap_append.2 ⟨blank, blank'⟩, before' ++ before, by simp⟩

theorem Parted.suffix (parted : Parted source item rest dropped) : rest ++ dropped <:+ source :=
  ⟨item ++ leading (source.drop item.length), by
    rw [List.append_assoc]
    exact parted.whole.symm⟩

theorem Parted.endOf (parted : Parted source item rest dropped) (blank : IsGap dropped) :
    EndOf rest source :=
  ⟨dropped, blank, parted.suffix⟩

end Text

/-! ### What is taken of an item -/

section
open Text (Parted)
variable {source rest : Text}

theorem Numeral.parted_of_scan {n : Int} (found : scan source = .ok (.hit n rest)) :
    Parted source (Text.token source) rest [] ∧ readCell (Text.token source) = .ok (some n) := by
  obtain ⟨read, rfl⟩ := scan_eq_hit_iff.1 found
  exact ⟨Text.parted_token (ne_nil_of_readCell read), read⟩

theorem Operator.parted_of_scan {op : Operator} (found : scan source = .ok (.hit op rest)) :
    Parted source [op.symbol] rest [] := by
  obtain ⟨c, after, rfl, known, rfl⟩ := scan_eq_hit_iff.1 found
  have parted : Parted ([c] ++ after) [c] (Text.trimLeft after) [] :=
    Text.parted_append (List.cons_ne_nil _ _) (List.append_nil _).symm
      (Text.isSpaceLed_trimLeft after)
  rw [symbol_of_ofSymbol? known]
  exact parted

theorem Command.eq_name_of_ofName? {token : Text} {command : Command}
    (named : ofName? token = some command) : token = command.name := by
  have same := List.find?_some named
  exact (of_decide_eq_true same).symm

theorem Command.parted_of_scan {command : Command} (found : scan source = .ok (.hit command rest)) :
    Parted source (Text.token source) rest [] ∧
      Text.lower (Text.token source) = command.name := by
  obtain ⟨-, named, rfl⟩ := scan_eq_hit_iff.1 found
  have name := eq_name_of_ofName? named
  refine ⟨Text.parted_token fun tokenNil => ?_, name⟩
  rw [tokenNil] at name
  cases command <;> cases name

/-- Behind a declaration the whitespace at the end of the source is dropped, unless nothing else is
there: then it is the whitespace behind the declaration. -/
theorem Declaration.parted_of_scan {declaration : Declaration}
    (found : scan source = .ok (.hit declaration rest)) :
    ∃ inside, ';' ∉ inside ∧ read (Text.trim inside) = .ok declaration ∧
      Parted source (':' :: (inside ++ [';'])) rest
        (if rest = [] then [] else Text.trailing source) := by
  obtain ⟨inside, after, whole, unclosed, body, rfl⟩ := scan_eq_hit_iff.1 found
  have whole' : source = ':' :: (inside ++ [';']) ++ after := by
    rw [whole, List.cons_append, List.append_assoc]
    rfl
  refine ⟨inside, unclosed, body, ?_⟩
  by_cases blank : Text.IsGap after
  · have trimNil := Text.trim_eq_nil_iff.2 blank
    rw [trimNil, if_pos rfl, whole']
    exact Text.parted_append (List.cons_ne_nil _ _) (Text.trimLeft_eq_nil_iff.2 blank) rfl
  · -- what is left is not blank, so the whitespace at its end is that of the source
    have same : Text.trailing source = Text.trailing (Text.trimLeft after) := by
      have cut : source = ':' :: (inside ++ [';']) ++ Text.leading after ++ Text.trimLeft after := by
        rw [List.append_assoc, Text.leading_append_trimLeft, whole']
      rw [cut]
      exact Text.trailing_append (mt Text.isGap_trimLeft.1 blank)
    rw [if_neg (mt Text.trim_eq_nil_iff.1 blank), same, whole']
    exact Text.parted_append (List.cons_ne_nil _ _)
      (Text.trimRight_append_trailing (Text.trimLeft after)).symm (Text.trimmed_trim after).led

/-- What a declaration leaves is the end of its source, apart from whitespace. -/
theorem Declaration.endOf_of_scan {declaration : Declaration}
    (found : scan source = .ok (.hit declaration rest)) : rest.EndOf source := by
  obtain ⟨inside, -, -, parted⟩ := parted_of_scan found
  refine parted.endOf ?_
  split
  · exact Text.isGap_nil
  · exact Text.isGap_trailing source

end

/-! ### How a stage runs -/

namespace Stage
variable {α : Type} {stage : Stage α} {source rest last : Text} {s t : State} {count : Nat}
  {result : EStateM.Result Error State Text}

/-- A stage comes to a result after so many matches, at the text where it finds nothing further or
where it fails. -/
inductive Loops (stage : Stage α) :
    Text → State → Nat → Text → EStateM.Result Error State Text → Prop where
  | missed {source missed s t} : stage.scan source = .ok (.miss missed) →
      stage.stop source s = .ok () t → Loops stage source s 0 source (.ok source t)
  | refused {source e s} : stage.scan source = .error e →
      Loops stage source s 0 source (.error e s)
  | failed {source value rest e s t} : stage.scan source = .ok (.hit value rest) →
      stage.act value s = .error e t → Loops stage source s 1 source (.error e t)
  | hit {source value rest s t count last result} : stage.scan source = .ok (.hit value rest) →
      stage.act value s = .ok () t → Loops stage rest t count last result →
      Loops stage source s (count + 1) last result

/-- Finding no item is no failure, and leaves the machine alone. -/
def StopsIdly (stage : Stage α) : Prop :=
  ∀ source s, ∃ t, stage.stop source s = .ok () t ∧ t.toMachine = s.toMachine

theorem exists_loops (idle : stage.StopsIdly) (source : Text) (s : State) :
    ∃ count last, stage.Loops source s count last (stage.run source s) := by
  induction source using Stage.run.induct stage generalizing s with
  | case1 source e found =>
    rw [run_of_error found]
    exact ⟨0, source, .refused found⟩
  | case2 source missed found =>
    obtain ⟨t, stopped, -⟩ := idle source s
    rw [run_eq_ok_of_miss found stopped]
    exact ⟨0, source, .missed found stopped⟩
  | case3 source value left found ih =>
    rw [run_of_hit found]
    cases acted : stage.act value s with
    | ok _ t =>
      obtain ⟨count, last, loops⟩ := ih t
      rw [Action.bind_of_ok acted]
      exact ⟨count + 1, last, .hit found acted loops⟩
    | error e t =>
      rw [Action.bind_of_error acted]
      exact ⟨1, source, .failed found acted⟩

/-- Each match leaves a shorter text, so there are no more matches than characters. -/
theorem Loops.count_le (loops : stage.Loops source s count last result) :
    count ≤ source.length := by
  induction loops with
  | missed | refused => exact Nat.zero_le _
  | failed found _ => exact Nat.one_le_of_lt (stage.consumes found)
  | hit found _ _ ih =>
    have shorter := stage.consumes found
    omega

theorem Loops.endOf
    (ends : ∀ {x value left}, stage.scan x = .ok (.hit value left) → Text.EndOf left x)
    (loops : stage.Loops source s count last result) : last.EndOf source := by
  induction loops with
  | missed | refused | failed => exact Text.endOf_of_suffix List.suffix_rfl
  | hit found _ _ ih => exact ih.trans (ends found)

theorem Loops.eq_last (loops : stage.Loops source s count last result)
    (done : result = .ok rest t) : rest = last := by
  induction loops with
  | missed =>
    cases done
    rfl
  | refused | failed => cases done
  | hit _ _ _ ih => exact ih done

/-- A stage makes no more matches than its text is long, and what it leaves is the end of its text,
apart from whitespace. If it finds no item, its text is left as it is. -/
structure Orderly (stage : Stage α) : Prop where
  loops : ∀ source s, ∃ count last, stage.Loops source s count last (stage.run source s) ∧
    count ≤ source.length ∧ last.EndOf source
  left : ∀ source s rest t, stage.run source s = .ok rest t → rest.EndOf source
  missed : ∀ source s missed, stage.scan source = .ok (.miss missed) →
    ∃ t, stage.run source s = .ok source t ∧ t.toMachine = s.toMachine

theorem orderly (idle : stage.StopsIdly)
    (ends : ∀ {x value left}, stage.scan x = .ok (.hit value left) → Text.EndOf left x) :
    stage.Orderly where
  loops source s := by
    obtain ⟨count, last, loops⟩ := exists_loops idle source s
    exact ⟨count, last, loops, loops.count_le, loops.endOf ends⟩
  left source s rest t ran := by
    obtain ⟨count, last, loops⟩ := exists_loops idle source s
    rw [loops.eq_last ran]
    exact loops.endOf ends
  missed source s missed found := by
    obtain ⟨t, stopped, same⟩ := idle source s
    exact ⟨t, run_eq_ok_of_miss found stopped, same⟩

theorem commands_stopsIdly : commands.StopsIdly := by
  intro source s
  by_cases sourceNil : source = []
  · subst sourceNil
    exact ⟨s, rfl, rfl⟩
  · exact ⟨_, stop_commands s sourceNil, rfl⟩

theorem numerals_orderly : numerals.Orderly :=
  orderly (fun _ s => ⟨s, rfl, rfl⟩) fun found =>
    (Numeral.parted_of_scan found).1.endOf Text.isGap_nil

theorem operators_orderly : operators.Orderly :=
  orderly (fun _ s => ⟨s, rfl, rfl⟩) fun found =>
    (Operator.parted_of_scan found).endOf Text.isGap_nil

theorem declarations_orderly : declarations.Orderly :=
  orderly (fun _ s => ⟨s, rfl, rfl⟩) Declaration.endOf_of_scan

theorem commands_orderly : commands.Orderly :=
  orderly commands_stopsIdly fun found =>
    (Command.parted_of_scan found).1.endOf Text.isGap_nil

/-- **Nothing of a text is lost but whitespace at its end.** An item that is found is taken off the
front of the text, with all the whitespace behind it and nothing else: a token that is read as a
cell, the one character of an operator, a declaration up to its first semicolon, a token that names
a command. What is left begins with no whitespace, and is the whole remainder, but for the
whitespace at the very end where a declaration was taken and something is left. Hence every stage is
orderly. -/
theorem parted_and_orderly :
    (∀ {source rest n}, Numeral.scan source = .ok (.hit n rest) →
      source.Parted (Text.token source) rest [] ∧
        Numeral.readCell (Text.token source) = .ok (some n)) ∧
    (∀ {source rest op}, Operator.scan source = .ok (.hit op rest) →
      source.Parted [op.symbol] rest []) ∧
    (∀ {source rest declaration}, Declaration.scan source = .ok (.hit declaration rest) →
      ∃ inside, ';' ∉ inside ∧ Declaration.read (Text.trim inside) = .ok declaration ∧
        source.Parted (':' :: (inside ++ [';'])) rest
          (if rest = [] then [] else Text.trailing source)) ∧
    (∀ {source rest command}, Command.scan source = .ok (.hit command rest) →
      source.Parted (Text.token source) rest [] ∧
        Text.lower (Text.token source) = command.name) ∧
    numerals.Orderly ∧ operators.Orderly ∧ declarations.Orderly ∧ commands.Orderly :=
  ⟨Numeral.parted_of_scan, Operator.parted_of_scan, Declaration.parted_of_scan,
    Command.parted_of_scan, numerals_orderly, operators_orderly, declarations_orderly,
    commands_orderly⟩

/-- A declaration with whitespace at the end of its source, and a numeral that stops the commands. -/
theorem parted_and_orderly_trailing :
    let source : Text := ": Sq dup * ;\n 7 Sq \t".toList
    let rest : Text := "7 Sq".toList
    Declaration.scan source = .ok (.hit ⟨"sq".toList, "dup *".toList⟩ rest) ∧
      (∃ inside, ';' ∉ inside ∧
        Declaration.read (Text.trim inside) = .ok ⟨"sq".toList, "dup *".toList⟩ ∧
        source.Parted (':' :: (inside ++ [';'])) rest " \t".toList) ∧
      Command.scan rest = .ok (.miss []) ∧
      ∃ t, commands.run rest { cells := [3] } = .ok rest t ∧ t.toMachine = { cells := [3] } := by
  intro source rest
  obtain ⟨-, -, declaration, -, -, -, -, orderly⟩ := parted_and_orderly
  have found : Declaration.scan source = .ok (.hit ⟨"sq".toList, "dup *".toList⟩ rest) := by
    decide +kernel
  have stopped : Command.scan rest = .ok (.miss []) := by decide +kernel
  have trailing : (if rest = [] then [] else Text.trailing source) = " \t".toList := by
    decide +kernel
  have taken := declaration found
  rw [trailing] at taken
  exact ⟨found, taken, stopped, orderly.missed _ _ _ stopped⟩

end Stage
end WordStack
