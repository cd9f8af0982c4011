import Mathlib.Algebra.GroupWithZero.Nat
import Mathlib.Data.Finset.Card
import Mathlib.Logic.Relation
import WordStack.Proofs.Checked
import WordStack.Proofs.Moment
import WordStack.Proofs.TokenMachine

/-! Words that do not refer to themselves.

A text is rewritten as it runs, and can get longer with every word. It comes to an
end all the same if no word refers to itself, be it in several steps. Then words
have weights: one weighs as much as its text, which weighs as much as its tokens,
and a token outweighs every word it can come to name once operators at its front
have been taken off. An item that is found makes the text lighter, and a word gives
way to a text that is not heavier than its name.

The weights are reckoned in as many rounds as there are words. No chain of
references is longer, so one round more would change nothing. -/
namespace WordStack

namespace Text

/-- What a token can be cut down to by taking operators off its front. -/
def stripped : Text → List Text
  | [] => [[]]
  | c :: rest => (c :: rest) :: if (Operator.ofSymbol? c).isSome then stripped rest else []

theorem mem_stripped_iff {token rest : Text} : rest ∈ stripped token ↔
    ∃ symbols, token = symbols ++ rest ∧ ∀ c ∈ symbols, (Operator.ofSymbol? c).isSome = true := by
  induction token with
  | nil => simp [stripped, and_comm]
  | cons c token ih =>
    rw [stripped, List.mem_cons]
    constructor
    · rintro (rfl | shorter)
      · exact ⟨[], rfl, by simp⟩
      · by_cases symbol : (Operator.ofSymbol? c).isSome = true
        · rw [if_pos symbol, ih] at shorter
          obtain ⟨symbols, rfl, only⟩ := shorter
          exact ⟨c :: symbols, rfl, List.forall_mem_cons.2 ⟨symbol, only⟩⟩
        · simp [symbol] at shorter
    · intro ⟨symbols, cut, only⟩
      cases symbols with
      | nil => exact .inl cut.symm
      | cons d symbols =>
        obtain ⟨rfl, rfl⟩ := List.cons.inj cut
        obtain ⟨symbol, only⟩ := List.forall_mem_cons.1 only
        rw [if_pos symbol]
        exact .inr (ih.2 ⟨symbols, rfl, only⟩)

end Text

theorem Operator.isSpace_symbol (op : Operator) : Text.isSpace op.symbol = false := by
  cases op <;> decide

/-! ### References -/

namespace Dictionary
variable {d : Dictionary} {name other text : Text}

/-- A word refers to another if some token of its text is the other's name, in any case, once
operators at its front have been taken off. There need not be any. -/
def Refers (d : Dictionary) (name other : Text) : Prop :=
  other ∈ d.names ∧ ∃ text, d.find? name = some text ∧ ∃ symbols rest,
    symbols ++ rest ∈ text.tokens ∧ (∀ c ∈ symbols, (Operator.ofSymbol? c).isSome = true) ∧
      rest.lower = other

theorem refers_iff : d.Refers name other ↔ other ∈ d.names ∧ ∃ text, d.find? name = some text ∧
    ∃ token ∈ text.tokens, ∃ rest ∈ token.stripped, rest.lower = other := by
  refine and_congr_right fun _ => exists_congr fun text => and_congr_right fun _ => ?_
  constructor
  · intro ⟨symbols, rest, member, only, same⟩
    exact ⟨_, member, rest, Text.mem_stripped_iff.2 ⟨symbols, rfl, only⟩, same⟩
  · intro ⟨token, member, rest, shorter, same⟩
    obtain ⟨symbols, rfl, only⟩ := Text.mem_stripped_iff.1 shorter
    exact ⟨symbols, rest, member, only, same⟩

/-- No word refers to itself, neither at once nor through others. -/
def Acyclic (d : Dictionary) : Prop := ∀ name, ¬ Relation.TransGen d.Refers name name

/-- Where every word stands above those that its text names, none refers to itself. -/
theorem acyclic_of_rank (rank : Text → Nat)
    (falls : ∀ entry ∈ d.entries, ∀ token ∈ entry.text.tokens, ∀ rest ∈ token.stripped,
      rest.lower ∈ d.names → rank rest.lower < rank entry.name) : d.Acyclic := by
  have step {name other : Text} (refers : d.Refers name other) : rank other < rank name := by
    obtain ⟨named, text, known, token, member, rest, shorter, rfl⟩ := refers_iff.1 refers
    obtain ⟨entry, found, rfl⟩ := Option.map_eq_some_iff.1 known
    obtain rfl : entry.name = name := by simpa using List.find?_some found
    exact falls entry (List.mem_of_find?_eq_some found) token member rest shorter named
  have chained {name other : Text} (chain : Relation.TransGen d.Refers name other) :
      rank other < rank name := by
    induction chain with
    | single refers => exact step refers
    | tail _ refers ih => exact (step refers).trans ih
  exact fun name cycle => Nat.lt_irrefl _ (chained cycle)

/-- The rank of a word among words none of which refers to itself: how many it comes to refer to. -/
theorem Acyclic.exists_rank (acyclic : d.Acyclic) : ∃ rank : Text → Nat,
    (∀ name, rank name ≤ d.entries.length) ∧
      ∀ {name other}, d.Refers name other → rank other < rank name := by
  classical
  let reached (name : Text) : Finset Text :=
    d.names.toFinset.filter (Relation.TransGen d.Refers name)
  refine ⟨fun name => (reached name).card, fun name => ?_, fun {name other} refers => ?_⟩
  · calc (reached name).card
        ≤ d.names.toFinset.card := Finset.card_le_card (Finset.filter_subset _ _)
      _ ≤ d.names.length := List.toFinset_card_le _
      _ = d.entries.length := List.length_map _
  · refine Finset.card_lt_card (Finset.ssubset_iff_of_subset ?_ |>.2 ⟨other, ?_, ?_⟩)
    · exact Finset.monotone_filter_right _ fun third _ chain => .head refers chain
    · exact Finset.mem_filter.2 ⟨List.mem_toFinset.2 refers.1, .single refers⟩
    · exact fun again => acyclic other (Finset.mem_filter.1 again).2

end Dictionary

/-! ### Weights -/

namespace Text
variable {weigh weigh' : Text → Nat} {text rest : Text} {c : Char}

/-- The weight of a token: its length, and the weight of every word that it can come to name. -/
def tokenWeight (weigh : Text → Nat) (token : Text) : Nat :=
  token.length + (token.stripped.map fun rest => weigh rest.lower).sum

def weight (weigh : Text → Nat) (text : Text) : Nat := (text.tokens.map (tokenWeight weigh)).sum

theorem weight_eq (weigh : Text → Nat) (text : Text) : weight weigh text =
    if token text = [] then weight weigh (afterToken text)
      else tokenWeight weigh (token text) + weight weigh (afterToken text) := by
  rw [weight, tokens_eq]
  split <;> rfl

theorem weight_trimLeft : weight weigh (trimLeft text) = weight weigh text := by
  rw [weight, tokens_trimLeft, weight]

theorem weight_append_afterToken (before : Text) :
    weight weigh (before ++ afterToken text) =
      weight weigh before + weight weigh (afterToken text) := by
  simp only [weight, tokens_append_afterToken, List.map_append, List.sum_append]

/-- A token weighs more than what is named by it. -/
theorem weigh_lt_tokenWeight {token : Text} (nonempty : token ≠ []) :
    weigh (lower token) < tokenWeight weigh token := by
  cases token with
  | nil => exact absurd rfl nonempty
  | cons c token =>
    simp only [tokenWeight, stripped, List.length_cons, List.map_cons, List.sum_cons]
    omega

/-- A word that takes the place of the first token leaves a text lighter. -/
theorem weight_afterToken_add_lt (nonempty : token text ≠ []) :
    weigh (lower (token text)) + weight weigh (afterToken text) < weight weigh text := by
  rw [weight_eq weigh text, if_neg nonempty]
  exact Nat.add_lt_add_right (weigh_lt_tokenWeight nonempty) _

/-- Without its first token a text is lighter. -/
theorem weight_behind_lt (nonempty : token text ≠ []) :
    weight weigh (trimLeft (afterToken text)) < weight weigh text := by
  rw [weight_trimLeft]
  exact (Nat.le_add_left ..).trans_lt (weight_afterToken_add_lt nonempty)

/-- Without an operator at its front a text is lighter, whether or not that was a token. -/
theorem weight_lt_of_symbol (symbol : (Operator.ofSymbol? c).isSome = true)
    (solid : isSpace c = false) : weight weigh rest < weight weigh (c :: rest) := by
  rw [weight_eq weigh (c :: rest), token_cons solid, afterToken_cons solid,
    if_neg (List.cons_ne_nil _ _), weight_eq weigh rest]
  split
  · rename_i alone
    simp only [alone, tokenWeight, List.length_cons]
    omega
  · simp only [tokenWeight, stripped, symbol, if_true, List.length_cons, List.map_cons,
      List.sum_cons]
    omega

/-- A text weighs the same if the words that it can come to name do. -/
theorem weight_congr (same : ∀ token ∈ text.tokens, ∀ rest ∈ token.stripped,
    weigh rest.lower = weigh' rest.lower) : weight weigh text = weight weigh' text := by
  refine congrArg List.sum (List.map_congr_left fun token member => ?_)
  exact congrArg (token.length + List.sum ·) (List.map_congr_left (same token member))

end Text

namespace Dictionary
variable {d : Dictionary} {name text : Text}

/-- What words weigh, reckoned in a number of rounds. -/
def weigh (d : Dictionary) : Nat → Text → Nat
  | 0, _ => 0
  | rounds + 1, name => match d.find? name with
    | some text => text.weight (d.weigh rounds)
    | none => 0

theorem weigh_of_not_mem (rounds : Nat) (unknown : name ∉ d.names) : d.weigh rounds name = 0 := by
  cases rounds with
  | zero => rfl
  | succ rounds =>
    have unknown : d.find? name = none :=
      Option.not_isSome_iff_eq_none.1 (mt isSome_find?_iff.1 unknown)
    simp only [weigh, unknown]

/-- After as many rounds as a word's rank, its weight does not change. -/
theorem weigh_succ_eq {rank : Text → Nat}
    (falls : ∀ {name other}, d.Refers name other → rank other < rank name) {rounds : Nat}
    (enough : rank name < rounds) : d.weigh (rounds + 1) name = d.weigh rounds name := by
  induction rounds generalizing name with
  | zero => cases enough
  | succ rounds ih =>
    rw [weigh, weigh]
    cases known : d.find? name with
    | none => rfl
    | some text =>
      refine Text.weight_congr fun token member rest shorter => ?_
      by_cases named : rest.lower ∈ d.names
      · have refers : d.Refers name rest.lower :=
          refers_iff.2 ⟨named, text, known, token, member, rest, shorter, rfl⟩
        exact ih ((falls refers).trans_le (Nat.le_of_lt_succ enough))
      · rw [weigh_of_not_mem _ named, weigh_of_not_mem _ named]

/-- Every word weighs as much as its text. -/
def Weighs (d : Dictionary) (weigh : Text → Nat) : Prop :=
  ∀ {name text}, d.find? name = some text → weigh name = text.weight weigh

/-- Words none of which refers to itself have weights. -/
theorem Acyclic.weighs (acyclic : d.Acyclic) : d.Weighs (d.weigh (d.entries.length + 1)) := by
  obtain ⟨rank, bound, falls⟩ := acyclic.exists_rank
  intro name text known
  have enough : rank name < d.entries.length + 1 := Nat.lt_succ_of_le (bound name)
  rw [← weigh_succ_eq falls enough, weigh, known]

end Dictionary

/-! ### Runs that get lighter -/

namespace Moment
variable {weigh : Text → Nat} {m m' : Moment}

/-- The words are the given ones, and in what is left of the text none can be declared. -/
structure Fixed (d : Dictionary) (m : Moment) : Prop where
  words : m.state.words = d
  plain : ':' ∉ m.source

/-- The text is lighter. Or it is the same, and the pass begins with it and the other does not, or
the passes begin alike and fewer kinds of item are still to be looked for. -/
def Lighter (weigh : Text → Nat) (m m' : Moment) : Prop :=
  m.source.weight weigh < m'.source.weight weigh ∨ m.source = m'.source ∧
    (m.source = m.start ∧ m'.source ≠ m'.start ∨
      m.start = m'.start ∧ m.phasesLeft < m'.phasesLeft)

section
variable {d : Dictionary} (checked : d.Checked) (colonless : ∀ entry ∈ d.entries, ':' ∉ entry.text)
include checked colonless

/-- Every step goes on to a lighter moment. -/
theorem Step.lighter (weighs : d.Weighs weigh) (fixed : m.Fixed d) (step : m.Step m') :
    m'.Fixed d ∧ m'.Lighter weigh m := by
  obtain ⟨words, plain⟩ := fixed
  have behind (source : Text) (plain : ':' ∉ source) :
      ':' ∉ Text.trimLeft (Text.afterToken source) := fun member =>
    plain ((Text.trimLeft_afterToken_suffix source).mem member)
  cases step with
  | @numeral _ source _ n _ found =>
    obtain ⟨read, rfl⟩ := Numeral.scan_eq_hit_iff.1 found
    have nonempty := Numeral.ne_nil_of_readCell read
    exact ⟨⟨words, behind source plain⟩, .inl (Text.weight_behind_lt nonempty)⟩
  | noNumeral => exact ⟨⟨words, plain⟩, .inr ⟨rfl, .inr ⟨rfl, Nat.lt_succ_self 3⟩⟩⟩
  | operator found =>
    obtain ⟨c, after, rfl, symbol, rfl⟩ := Operator.scan_eq_hit_iff.1 found
    have solid : Text.isSpace c = false := by
      rw [← Operator.symbol_of_ofSymbol? symbol]
      exact Operator.isSpace_symbol _
    have plain' : ':' ∉ Text.trimLeft after := fun member =>
      plain (List.mem_cons_of_mem c ((Text.trimLeft_suffix after).mem member))
    refine ⟨⟨words, plain'⟩, .inl ?_⟩
    rw [Text.weight_trimLeft]
    exact Text.weight_lt_of_symbol (symbol ▸ rfl) solid
  | noOperator => exact ⟨⟨words, plain⟩, .inr ⟨rfl, .inr ⟨rfl, Nat.lt_succ_self 2⟩⟩⟩
  | declaration found =>
    obtain ⟨inside, after, rfl, -⟩ := Declaration.scan_eq_hit_iff.1 found
    exact absurd (List.mem_cons_self ..) plain
  | noDeclaration => exact ⟨⟨words, plain⟩, .inr ⟨rfl, .inr ⟨rfl, Nat.lt_succ_self 1⟩⟩⟩
  | @word _ source text s known =>
    subst words
    have nonempty : Text.token source ≠ [] := by
      intro tokenNil
      rw [tokenNil, checked.get?_nil] at known
      cases known
    obtain ⟨entry, member, -, rfl⟩ := Dictionary.exists_entry_of_get? known
    have plain' : ':' ∉ entry.text ++ Text.afterToken source := by
      rw [List.mem_append, not_or]
      exact ⟨colonless entry member, fun later =>
        plain ((Text.afterToken_suffix source).mem later)⟩
    refine ⟨⟨rfl, plain'⟩, .inl ?_⟩
    rw [Text.weight_append_afterToken, ← weighs known]
    exact Text.weight_afterToken_add_lt nonempty
  | noWord => exact ⟨⟨words, plain⟩, .inr ⟨rfl, .inr ⟨rfl, Nat.one_pos⟩⟩⟩
  | @command _ _ source _ _ _ _ found =>
    obtain ⟨left, named, rfl⟩ := Command.scan_eq_hit_iff.1 found
    have nonempty : Text.token source ≠ [] := by
      intro tokenNil
      rw [tokenNil] at named
      cases named
    exact ⟨⟨words, behind source plain⟩, .inl (Text.weight_behind_lt nonempty)⟩
  | pass left moved => exact ⟨⟨words, plain⟩, .inr ⟨rfl, .inl ⟨rfl, moved⟩⟩⟩

/-- Since steps lead to ever lighter moments, they lead to a last one. -/
theorem exists_endsIn_of_fixed (weighs : d.Weighs weigh) {m : Moment} (left : m.start ≠ [])
    (fixed : m.Fixed d) : ∃ last result, m.Leads last ∧ last.EndsIn result := by
  rcases m.exists_step_or_endsIn left with ⟨m', step⟩ | ⟨result, ends⟩
  · have next := step.lighter checked colonless weighs fixed
    have left' : m'.start ≠ [] := by
      cases step <;> assumption
    obtain ⟨last, result, leads, ends⟩ := exists_endsIn_of_fixed weighs left' next.1
    exact ⟨last, result, .head step leads, ends⟩
  · exact ⟨m, result, .refl, ends⟩
termination_by (m.source.weight weigh, if m.source = m.start then 0 else 1, m.phasesLeft)
decreasing_by
  rcases next.2 with lighter | ⟨same, ⟨here, moved⟩ | ⟨start, fewer⟩⟩
  · exact .left _ _ lighter
  · rw [if_pos here, if_neg moved, same]
    exact .right _ (.left _ _ Nat.one_pos)
  · rw [same, start]
    exact .right _ (.right _ fewer)

end
end Moment

namespace Machine

/-- **Words none of which refers to itself bring every text to an end**, normally or by an error,
whatever is on the stack. No text in the dictionary holds a colon, and neither does the one that
is run, so that no word is declared on the way. -/
theorem exists_ends_of_acyclic {machine : Machine} (obtained : machine.words.Obtained)
    (colonless : ∀ entry ∈ machine.words.entries, ':' ∉ entry.text)
    (acyclic : machine.words.Acyclic) {text : Text} (plain : ':' ∉ text) :
    ∃ report, machine.Ends text report := by
  by_cases left : text = []
  · subst left
    exact ⟨_, ends_nil_iff.2 rfl⟩
  · have nonempty := mt Text.withPlainSpaces_eq_nil_iff.1 left
    have plain' := Text.not_mem_withPlainSpaces (by decide) plain
    obtain ⟨last, result, leads, ends⟩ :=
      Moment.exists_endsIn_of_fixed obtained.checked colonless acyclic.weighs
        (m := Moment.begin text.withPlainSpaces { toMachine := machine }) nonempty ⟨rfl, plain'⟩
    exact ⟨_, (ends_iff_endsIn left).2 ⟨last, result, ⟨left, leads⟩, ends, rfl⟩⟩

/-- The name of one word is glued to an operator, and that of another is in capitals. -/
theorem exists_ends_of_acyclic_glued :
    let words : Dictionary := ⟨[⟨"sq".toList, "dup *".toList⟩, ⟨"cube".toList, "dup SQ *".toList⟩,
      ⟨"more".toList, "over +cube 1 -*sq".toList⟩]⟩
    ∃ report, Machine.Ends { cells := [3, 2], words } "More 7 cube more".toList report := by
  intro words
  have obtained : words.Obtained := ⟨words.entries, words, _, by decide +kernel, .none, rfl⟩
  have acyclic : words.Acyclic :=
    Dictionary.acyclic_of_rank words.names.idxOf (by decide +kernel)
  exact exists_ends_of_acyclic obtained (by decide +kernel) acyclic (by decide +kernel)

end Machine
end WordStack
