import WordStack.Proofs.Kept

/-! The ordered map that a dictionary is.

An ordered map has names in an order and a text for each of them, and it can be
asked what a dictionary can be asked. Its answers are given from these two alone
(`OrderedMap.answer`): a new text for a name takes the place of the old one, a new
name comes last, the oldest word is the one whose name comes first. Keys are
lowered once, and nothing that is kept is ever lowered again.

A dictionary that is made of seeds answers as the ordered map does, whatever is
asked of both of them and in whatever order (`serves_as_orderedMap`). -/
namespace WordStack

/-- Names in an order, and a text for each of them. -/
structure OrderedMap where
  order : List Text
  text? : Text → Option Text
  distinct : order.Nodup
  known : ∀ name, name ∈ order ↔ (text? name).isSome = true

namespace OrderedMap

def empty : OrderedMap where
  order := []
  text? _ := none
  distinct := .nil
  known _ := by simp

/-- A new name comes last, and a known one keeps its place. -/
def put (m : OrderedMap) (name text : Text) : OrderedMap where
  order := if name ∈ m.order then m.order else m.order ++ [name]
  text? other := if other = name then some text else m.text? other
  distinct := by
    split
    · exact m.distinct
    · rename_i new
      simpa using m.distinct.concat new
  known other := by
    by_cases same : other = name
    · subst same
      split <;> simp_all
    · rw [if_neg same, ← m.known]
      split <;> simp [same]

def erase (m : OrderedMap) (name : Text) : OrderedMap where
  order := m.order.filter (· ≠ name)
  text? other := if other = name then none else m.text? other
  distinct := m.distinct.filter _
  known other := by
    by_cases same : other = name
    · simp [same]
    · simp [same, m.known]

def putAll (m : OrderedMap) (words : List Entry) : OrderedMap :=
  words.foldl (fun m entry => m.put (Text.lower entry.name) entry.text) m

/-- The words in their order. -/
def entries (m : OrderedMap) : List Entry :=
  m.order.filterMap fun name => (m.text? name).map (Entry.mk name)

open Dictionary in
/-- The answer to a request and the map after it. -/
def answer {α : Type} (m : OrderedMap) : Request α → Except Error (Answer α) × OrderedMap
  | .set key text => match Entry.refusal? ⟨key, text⟩ with
    | some e => (.error e, m)
    | none => (.ok .done, m.put (Text.lower key) text)
  | .index key => match m.text? (Text.lower key) with
    | some text => (.ok (.text text), m)
    | none => (.error (.missingKey (Text.lower key)), m)
  | .get key fallback? => match m.text? (Text.lower key), fallback? with
    | some text, _ => (.ok (.text text), m)
    | none, some value => (.ok (.fallback value), m)
    | none, none => (.ok .nothing, m)
  | .delete key => match m.text? (Text.lower key) with
    | some _ => (.ok .done, m.erase (Text.lower key))
    | none => (.error (.missingKey (Text.lower key)), m)
  | .contains key? => (.ok (.truth (key?.any fun key => Text.lower key ∈ m.order)), m)
  | .size => (.ok (.count m.order.length), m)
  | .names => (.ok (.texts m.order), m)
  | .texts => (.ok (.texts (m.order.filterMap m.text?)), m)
  | .expand source => match m.text? (Text.lower (Text.token source)) with
    | some text => (.ok (.scan (.hit text (text ++ Text.afterToken source))), m)
    | none => (.ok (.scan (.miss source)), m)
  | .take key fallback? => match m.text? (Text.lower key), fallback? with
    | some text, _ => (.ok (.text text), m.erase (Text.lower key))
    | none, some value => (.ok (.fallback value), m)
    | none, none => (.error (.missingKey (Text.lower key)), m)
  | .takeOldest => match m.entries with
    | oldest :: _ => (.ok (.entry oldest), m.erase oldest.name)
    | [] => (.error .noEntries, m)
  | .setDefault key text => match m.text? (Text.lower key), Entry.refusal? ⟨key, text⟩ with
    | some present, _ => (.ok (.text present), m)
    | none, some e => (.error e, m)
    | none, none => (.ok (.text text), m.put (Text.lower key) text)
  | .update words =>
    let entered := m.putAll (words.takeWhile (·.refusal?.isNone))
    match words.findSome? (·.refusal?) with
    | some e => (.error e, entered)
    | none => (.ok .done, entered)
  | .clear => (.ok .done, empty)
  | .equals words => (.ok (.truth (words.length = m.order.length &&
      words.all fun entry => m.text? entry.name = some entry.text)), m)

end OrderedMap

namespace Dictionary

/-- The dictionary is kept so, with the words of the map in their order. -/
structure Keeps (d : Dictionary) (m : OrderedMap) : Prop extends Kept d where
  order : d.names = m.order
  texts : ∀ name, d.find? name = m.text? name

variable {α : Type} {d : Dictionary} {m : OrderedMap} {key text : Text}

/-! ### Words in and out -/

theorem keeps_empty : Keeps {} .empty := ⟨kept_empty, rfl, fun _ => rfl⟩

theorem Keeps.put (keeps : d.Keeps m) (accepted : Entry.refusal? ⟨key, text⟩ = none) :
    (d.put (Text.lower key) text).Keeps (m.put (Text.lower key) text) where
  toKept := keeps.toKept.put accepted
  order := by rw [names_put, keeps.order, OrderedMap.put]
  texts name := by rw [find?_put, keeps.texts, OrderedMap.put]

theorem Keeps.remove (keeps : d.Keeps m) (name : Text) : (d.remove name).Keeps (m.erase name) where
  toKept := keeps.toKept.remove name
  order := by rw [names_remove, keeps.order, OrderedMap.erase]
  texts other := by rw [find?_remove, keeps.texts, OrderedMap.erase]

theorem Keeps.putAll {words : List Entry} (keeps : d.Keeps m)
    (accepted : ∀ entry ∈ words, entry.refusal? = none) :
    (d.putAll words).Keeps (m.putAll words) := by
  induction words generalizing d m with
  | nil => exact keeps
  | cons entry rest ih =>
    exact ih (keeps.put (accepted entry (List.mem_cons_self ..)))
      fun other member => accepted other (List.mem_cons_of_mem entry member)

theorem Keeps.entries (keeps : d.Keeps m) : d.entries = m.entries := by
  have listed := filterMap_names keeps.distinct Entry.mk
  simp only [keeps.order, keeps.texts] at listed
  exact (listed.trans (List.map_id d.entries)).symm

theorem Keeps.map_text (keeps : d.Keeps m) :
    d.entries.map (·.text) = m.order.filterMap m.text? := by
  have listed := filterMap_names keeps.distinct fun _ text => text
  simp only [keeps.order, keeps.texts, Option.map_id'] at listed
  exact listed.symm

theorem Keeps.length (keeps : d.Keeps m) : d.entries.length = m.order.length := by
  rw [← keeps.order, names, List.length_map]

/-! ### Answers -/

/-- **A dictionary answers as the map does** that it keeps, and keeps what the map becomes. -/
theorem Keeps.answer (keeps : d.Keeps m) (request : Request α) :
    (d.answer request).1 = (m.answer request).1 ∧
      (d.answer request).2.Keeps (m.answer request).2 := by
  cases request with
  | set key text =>
    simp only [Dictionary.answer, OrderedMap.answer, set_eq]
    cases judged : Entry.refusal? ⟨key, text⟩ with
    | some e => exact ⟨rfl, keeps⟩
    | none => exact ⟨rfl, keeps.put judged⟩
  | index key =>
    simp only [Dictionary.answer, OrderedMap.answer, index, lookup, keeps.texts]
    cases m.text? (Text.lower key) <;> exact ⟨rfl, keeps⟩
  | get key fallback? =>
    simp only [Dictionary.answer, OrderedMap.answer, get?, keeps.texts]
    cases m.text? (Text.lower key) <;> cases fallback? <;> exact ⟨rfl, keeps⟩
  | delete key =>
    simp only [Dictionary.answer, OrderedMap.answer, delete_eq, get?, keeps.texts]
    cases m.text? (Text.lower key) with
    | some text => exact ⟨rfl, keeps.remove _⟩
    | none => exact ⟨rfl, keeps⟩
  | contains key? =>
    have asked : d.contains = fun key => decide (Text.lower key ∈ m.order) := by
      funext key
      rw [Bool.eq_iff_iff, contains_iff, keeps.order, decide_eq_true_iff]
    simp only [Dictionary.answer, OrderedMap.answer, containsAny, asked]
    exact ⟨rfl, keeps⟩
  | size =>
    simp only [Dictionary.answer, OrderedMap.answer, keeps.length]
    exact ⟨rfl, keeps⟩
  | names =>
    simp only [Dictionary.answer, OrderedMap.answer, keeps.order]
    exact ⟨rfl, keeps⟩
  | texts =>
    simp only [Dictionary.answer, OrderedMap.answer, keeps.texts_eq, keeps.map_text]
    exact ⟨rfl, keeps⟩
  | expand source =>
    simp only [Dictionary.answer, OrderedMap.answer, expand, get?, keeps.texts]
    cases m.text? (Text.lower (Text.token source)) <;> exact ⟨rfl, keeps⟩
  | take key fallback? =>
    simp only [Dictionary.answer, OrderedMap.answer, take_eq, get?, keeps.texts]
    cases m.text? (Text.lower key) with
    | some text => exact ⟨rfl, keeps.remove _⟩
    | none => cases fallback? <;> exact ⟨rfl, keeps⟩
  | takeOldest =>
    -- both see the same list, so one case split serves both
    simp only [Dictionary.answer, OrderedMap.answer, ← keeps.entries]
    cases entries : d.entries with
    | nil =>
      rw [takeOldest_of_nil entries]
      exact ⟨rfl, keeps⟩
    | cons oldest rest =>
      rw [keeps.takeOldest_eq entries]
      exact ⟨rfl, keeps.remove _⟩
  | setDefault key text =>
    simp only [Dictionary.answer, OrderedMap.answer, setDefault, index, lookup, set_eq, keeps.texts]
    cases m.text? (Text.lower key) with
    | some present => exact ⟨rfl, keeps⟩
    | none =>
      cases judged : Entry.refusal? ⟨key, text⟩ with
      | some e => exact ⟨rfl, keeps⟩
      | none => exact ⟨rfl, keeps.put judged⟩
  | update words =>
    -- only what is entered need pass; whether the whole list does makes the answer
    have accepted (entry : Entry) (member : entry ∈ words.takeWhile (·.refusal?.isNone)) :
        entry.refusal? = none := by
      have fine := List.mem_takeWhile_imp member
      exact Option.isNone_iff_eq_none.1 fine
    have entered := keeps.putAll accepted
    simp only [Dictionary.answer, OrderedMap.answer, update_eq]
    cases words.findSome? (·.refusal?) <;> exact ⟨rfl, entered⟩
  | clear =>
    have cleared : d.clear.Keeps .empty := by
      rw [keeps.clear_eq]
      exact keeps_empty
    exact ⟨rfl, cleared⟩
  | equals words =>
    have same (entry : Entry) :
        d.entries.contains entry = decide (m.text? entry.name = some entry.text) := by
      rw [Bool.eq_iff_iff, List.contains_iff_mem, mem_entries_iff keeps.distinct, keeps.texts,
        decide_eq_true_iff]
    simp only [Dictionary.answer, OrderedMap.answer, keeps.equals_eq, keeps.length, same, eq_comm]
    exact ⟨rfl, keeps⟩

theorem exists_of_update_error {words : List Entry} {after : Dictionary} {e : Error}
    (failed : d.answer (.update words : Request α) = (.error e, after)) :
    ∃ before bad rest, words = before ++ bad :: rest ∧ bad.refusal? = some e ∧
      d.answer (.update before : Request α) = (.ok .done, after) := by
  simp only [Dictionary.answer] at failed ⊢
  split at failed
  · cases failed
  · rename_i refused
    cases failed
    obtain ⟨before, bad, rest, split, judged, entered⟩ := exists_of_update_eq_error refused
    exact ⟨before, bad, rest, split, judged, by rw [entered]⟩

/-! ### One request after another -/

/-- The answers to some requests, made one after another, and what there is after them. -/
def serve {σ : Type} (answer : σ → Request α → Except Error (Answer α) × σ) (s : σ) :
    List (Request α) → List (Except Error (Answer α)) × σ
  | [] => ([], s)
  | request :: rest =>
    let (first, next) := answer s request
    let (answers, last) := serve answer next rest
    (first :: answers, last)

theorem Keeps.serve (keeps : d.Keeps m) (requests : List (Request α)) :
    (serve Dictionary.answer d requests).1 = (serve OrderedMap.answer m requests).1 ∧
      (serve Dictionary.answer d requests).2.Keeps (serve OrderedMap.answer m requests).2 := by
  induction requests generalizing d m with
  | nil => exact ⟨rfl, keeps⟩
  | cons request rest ih =>
    obtain ⟨same, next⟩ := keeps.answer request
    obtain ⟨answers, last⟩ := ih next
    exact ⟨congrArg₂ List.cons same answers, last⟩

theorem keeps_of_ofEntries {seeds : List Entry} (seeded : ofEntries seeds = .ok d) :
    d.Keeps (OrderedMap.empty.putAll seeds) := by
  rw [ofEntries_eq_ok_iff, update_eq, Prod.mk.injEq] at seeded
  obtain ⟨entered, fine⟩ := seeded
  have accepted := List.findSome?_eq_none_iff.1 fine
  rw [List.takeWhile_eq_self_iff.2 fun entry member =>
    Option.isNone_iff_eq_none.2 (accepted entry member)] at entered
  exact entered ▸ keeps_empty.putAll accepted

/-- **A dictionary is an ordered map over lowered names.** Made of seeds and asked whatever there is
to ask, it answers as the map does, and has the same words in the same order. It is always kept:
names are in small letters, each there once, and what is in it has passed the checks. All ways of
asking for a key agree whether it is there. A request that fails changes nothing, but several words
are entered up to the one that is refused. It equals another mapping just if that has the same
words, in any order; and a dictionary made of its items is the same again. -/
theorem serves_as_orderedMap {seeds : List Entry} {start last : Dictionary}
    {requests : List (Request α)} {answers : List (Except Error (Answer α))}
    (seeded : ofEntries seeds = .ok start)
    (served : serve Dictionary.answer start requests = (answers, last)) :
    (∃ map, serve OrderedMap.answer (OrderedMap.empty.putAll seeds) requests = (answers, map) ∧
      last.entries = map.entries) ∧
    last.Kept ∧
    (∀ key, (last.contains key = true ↔ Text.lower key ∈ last.names) ∧
      (last.index key).isOk = last.contains key ∧ (last.get? key).isSome = last.contains key ∧
      (last.delete key).isOk = last.contains key ∧ (last.take key).isOk = last.contains key ∧
      ((∀ c ∈ key, Text.isSpace c = false) →
        (last.expand key).value?.isSome = last.contains key)) ∧
    (∀ (request : Request α) e, (∀ words, request ≠ .update words) →
      (last.answer request).1 = .error e → (last.answer request).2 = last) ∧
    (∀ words after e, last.answer (.update words : Request α) = (.error e, after) →
      ∃ before bad rest, words = before ++ bad :: rest ∧ bad.refusal? = some e ∧
        last.answer (.update before : Request α) = (.ok .done, after)) ∧
    (∀ words : List Entry, (words.map (·.name)).Nodup →
      (last.equals words = .ok true ↔ words.Perm last.entries)) ∧
    last.items = .ok last.entries ∧ ofEntries last.entries = .ok last := by
  obtain ⟨same, keeps⟩ := (keeps_of_ofEntries seeded).serve requests
  rw [served] at same keeps
  refine ⟨⟨_, Prod.ext same.symm rfl, keeps.entries⟩, keeps.toKept, fun key => ?_,
    fun _ _ => answer_of_error, fun _ _ _ => exists_of_update_error, fun _ => keeps.equals_iff,
    keeps.items_eq, keeps.ofEntries_entries⟩
  exact ⟨contains_iff, isOk_index last key, rfl, isOk_delete last key, isOk_take last key,
    isSome_expand last⟩

/-- Two seeds that come to one name, and requests of which some fail, an update among them. -/
theorem serves_as_orderedMap_refusals :
    let seeds : List Entry :=
      [⟨"Größe".toList, "1".toList⟩, ⟨"b".toList, "2".toList⟩, ⟨"GRÖßE".toList, "3".toList⟩]
    let start : Dictionary := ⟨[⟨"größe".toList, "3".toList⟩, ⟨"b".toList, "2".toList⟩]⟩
    let requests : List (Request Nat) := [.set "B".toList "dup +".toList,
      .set "5b".toList "1".toList, .take "Z".toList none, .take "Z".toList (some 7),
      .update [⟨"C".toList, "x".toList⟩, ⟨"d".toList, " ".toList⟩, ⟨"e".toList, "y".toList⟩],
      .takeOldest, .equals [⟨"c".toList, "x".toList⟩, ⟨"b".toList, "dup +".toList⟩]]
    let answers : List (Except Error (Answer Nat)) := [.ok .done, .error (.invalidName "5b".toList),
      .error (.missingKey "z".toList), .ok (.fallback 7), .error (.noDefinition "d".toList),
      .ok (.entry ⟨"größe".toList, "3".toList⟩), .ok (.truth true)]
    let last : Dictionary := ⟨[⟨"b".toList, "dup +".toList⟩, ⟨"c".toList, "x".toList⟩]⟩
    serve Dictionary.answer start requests = (answers, last) ∧ last.Kept ∧
      (∃ map, serve OrderedMap.answer (OrderedMap.empty.putAll seeds) requests = (answers, map) ∧
        last.entries = map.entries) ∧
      ofEntries last.entries = .ok last := by
  intro seeds start requests answers last
  have seeded : ofEntries seeds = .ok start := by decide +kernel
  have served : serve Dictionary.answer start requests = (answers, last) := by decide +kernel
  obtain ⟨map, kept, -, -, -, -, -, again⟩ := serves_as_orderedMap seeded served
  exact ⟨served, kept, map, again⟩

end Dictionary
end WordStack
