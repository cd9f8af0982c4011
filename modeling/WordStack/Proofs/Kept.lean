import Mathlib.Data.List.Nodup
import Mathlib.Data.List.Perm.Subperm
import WordStack.Dictionary.Request
import WordStack.Proofs.Checked

/-! Dictionaries as they are kept.

Most requests look the names that they meet up again, and whatever is looked up is
lowered first. That they find what they look for is due to the way in which names
are kept: each of them once, and in small letters (`Kept`). Entering and removing
words keep a dictionary so, and as long as it is kept so every request does what
is expected of it. In particular its entries, entered again, make the same
dictionary (`ofEntries_entries`). -/
namespace WordStack

/-- What is wrong with a word that is to be entered, if anything is. -/
def Entry.refusal? (entry : Entry) : Option Error :=
  if entry.name = [] ∨ Text.isDigitLed entry.name then some (.invalidName entry.name)
  else if Text.trim entry.text = [] then some (.noDefinition entry.name)
  else none

namespace Dictionary

/-- Each name is there once and in small letters, and each word has passed its checks. -/
structure Kept (d : Dictionary) : Prop extends Checked d where
  small : ∀ name ∈ d.names, Text.lower name = name
  distinct : d.names.Nodup

variable {d after : Dictionary} {name key text : Text} {entry : Entry} {e : Error}

theorem mem_names_of_entry (member : entry ∈ d.entries) : entry.name ∈ d.names :=
  List.mem_map_of_mem member

/-! ### Entering -/

theorem set_eq (d : Dictionary) (key text : Text) :
    d.set key text = match Entry.refusal? ⟨key, text⟩ with
      | some e => .error e
      | none => .ok (d.put (Text.lower key) text) := by
  unfold set Entry.refusal?
  split
  · rfl
  · split <;> rfl

theorem set_of_refused (refused : Entry.refusal? ⟨key, text⟩ = some e) :
    d.set key text = .error e := by
  rw [set_eq, refused]

theorem set_of_accepted (accepted : Entry.refusal? ⟨key, text⟩ = none) :
    d.set key text = .ok (d.put (Text.lower key) text) := by
  rw [set_eq, accepted]

/-- The dictionary after some words, entered in their order without being checked. -/
def putAll (d : Dictionary) (words : List Entry) : Dictionary :=
  words.foldl (fun d entry => d.put (Text.lower entry.name) entry.text) d

/-- Several words are entered as far as none is refused, and the first refusal is told. -/
theorem update_eq (d : Dictionary) (words : List Entry) : d.update words =
    (d.putAll (words.takeWhile (·.refusal?.isNone)), words.findSome? (·.refusal?)) := by
  induction words generalizing d with
  | nil => rfl
  | cons entry rest ih =>
    cases judged : entry.refusal? with
    | some e => simp [update, set_of_refused judged, judged, putAll]
    | none => simp [update, set_of_accepted judged, judged, ih, putAll]

/-- If a word is refused, those before it are entered. -/
theorem exists_of_update_eq_error {words : List Entry}
    (refused : d.update words = (after, some e)) :
    ∃ before bad rest, words = before ++ bad :: rest ∧ bad.refusal? = some e ∧
      d.update before = (after, none) := by
  rw [update_eq, Prod.mk.injEq] at refused
  obtain ⟨entered, first⟩ := refused
  obtain ⟨before, bad, rest, rfl, judged, fine⟩ := List.findSome?_eq_some_iff.1 first
  have accepted : ∀ entry ∈ before, entry.refusal?.isNone = true := fun entry member =>
    Option.isNone_iff_eq_none.2 (fine entry member)
  have stop : (before ++ bad :: rest).takeWhile (·.refusal?.isNone) = before := by
    rw [List.takeWhile_append_of_pos accepted]
    simp [judged]
  refine ⟨before, bad, rest, rfl, judged, ?_⟩
  rw [update_eq, List.takeWhile_eq_self_iff.2 accepted, List.findSome?_eq_none_iff.2 fine,
    ← entered, stop]

theorem ofEntries_eq_ok_iff {seeds : List Entry} :
    ofEntries seeds = .ok d ↔ update {} seeds = (d, none) := by
  suffices grown : ∀ start : Dictionary,
      seeds.foldlM (fun d entry => d.set entry.name entry.text) start = .ok d ↔
        start.update seeds = (d, none) from grown {}
  induction seeds with
  | nil =>
    intro start
    simp [update, pure, Except.pure]
  | cons entry rest ih =>
    intro start
    rw [List.foldlM_cons, update]
    cases entered : start.set entry.name entry.text with
    | error e => simp [bind, Except.bind]
    | ok next => exact ih next

/-! ### Kept dictionaries -/

theorem kept_empty : Kept {} := ⟨checked_empty, nofun, .nil⟩

theorem Kept.put (kept : d.Kept) (accepted : Entry.refusal? ⟨key, text⟩ = none) :
    (d.put (Text.lower key) text).Kept where
  toChecked := kept.toChecked.set (set_of_accepted accepted)
  small name member := by
    rcases mem_names_put.1 member with rfl | old
    · exact Text.lower_lower key
    · exact kept.small name old
  distinct := nodup_names_put kept.distinct _ _

theorem names_remove (d : Dictionary) (name : Text) :
    (d.remove name).names = d.names.filter (· ≠ name) := by
  simp only [names, remove, List.filter_map]
  rfl

theorem Kept.remove (kept : d.Kept) (name : Text) : (d.remove name).Kept where
  named entry member := kept.named entry (List.mem_of_mem_filter member)
  letterLed entry member := kept.letterLed entry (List.mem_of_mem_filter member)
  full entry member := kept.full entry (List.mem_of_mem_filter member)
  small other member := by
    rw [names_remove] at member
    exact kept.small other (List.mem_of_mem_filter member)
  distinct := by
    rw [names_remove]
    exact kept.distinct.filter _

theorem find?_remove (d : Dictionary) (name other : Text) :
    (d.remove name).find? other = if other = name then none else d.find? other := by
  obtain ⟨entries⟩ := d
  simp only [remove, find?]
  induction entries with
  | nil => simp
  | cons entry rest ih =>
    by_cases here : entry.name = name
    · by_cases same : other = name
      · simp_all
      · simp_all [Ne.symm same]
    · by_cases found : entry.name = other
      · subst found
        simp [here]
      · simpa [here, found] using ih

/-- The text under a name is that of its only entry. -/
theorem find?_entry (distinct : d.names.Nodup) (member : entry ∈ d.entries) :
    d.find? entry.name = some entry.text := by
  obtain ⟨entries⟩ := d
  simp only [names, find?] at distinct ⊢
  induction entries with
  | nil => cases member
  | cons first rest ih =>
    rw [List.map_cons, List.nodup_cons] at distinct
    obtain ⟨alone, distinct⟩ := distinct
    rcases List.mem_cons.1 member with rfl | later
    · simp
    · have apart : first.name ≠ entry.name := by
        intro same
        rw [same] at alone
        exact alone (List.mem_map_of_mem later)
      simpa [apart] using ih distinct later

theorem mem_entries_iff (distinct : d.names.Nodup) :
    entry ∈ d.entries ↔ d.find? entry.name = some entry.text := by
  constructor
  · exact find?_entry distinct
  · intro found
    obtain ⟨other, found, text⟩ := Option.map_eq_some_iff.1 found
    have name : other.name = entry.name := by simpa using List.find?_some found
    have same : other = entry := Entry.mk.injEq .. ▸ ⟨name, text⟩
    exact same ▸ List.mem_of_find?_eq_some found

/-- What is looked up under each name, in order, is what the entries hold. -/
theorem filterMap_names {β : Type} (distinct : d.names.Nodup) (f : Text → Text → β) :
    d.names.filterMap (fun name => (d.find? name).map (f name)) =
      d.entries.map fun entry => f entry.name entry.text := by
  rw [names, List.filterMap_map, ← List.filterMap_eq_map]
  refine List.filterMap_congr fun entry member => ?_
  simp only [Function.comp, find?_entry distinct member, Option.map_some]

theorem Kept.index_entry (kept : d.Kept) (member : entry ∈ d.entries) :
    d.index entry.name = .ok entry.text := by
  rw [index, kept.small _ (mem_names_of_entry member), lookup, find?_entry kept.distinct member]

/-! ### Looking up all names -/

theorem mapM_eq_ok {α β : Type} {f : α → Except Error β} {g : α → β} {items : List α}
    (all : ∀ item ∈ items, f item = .ok (g item)) : items.mapM f = .ok (items.map g) := by
  induction items with
  | nil => rfl
  | cons item rest ih =>
    have later := ih fun other member => all other (List.mem_cons_of_mem item member)
    rw [List.mapM_cons, all item (List.mem_cons_self ..), later]
    rfl

theorem Kept.texts_eq (kept : d.Kept) : d.texts = .ok (d.entries.map (·.text)) := by
  rw [texts, names, List.mapM_map]
  exact mapM_eq_ok fun entry member => kept.index_entry member

theorem Kept.items_eq (kept : d.Kept) : d.items = .ok d.entries := by
  rw [items, names, List.mapM_map]
  refine (mapM_eq_ok fun entry member => ?_).trans (congrArg Except.ok (List.map_id d.entries))
  simp only [Function.comp, kept.index_entry member]
  rfl

theorem Kept.equals_eq (kept : d.Kept) (given : List Entry) :
    d.equals given = .ok (d.entries.length = given.length && given.all (d.entries.contains ·)) := by
  rw [equals, kept.items_eq]
  rfl

theorem Kept.equals_iff (kept : d.Kept) {given : List Entry}
    (distinct : (given.map (·.name)).Nodup) : d.equals given = .ok true ↔ given.Perm d.entries := by
  rw [kept.equals_eq, Except.ok.injEq, Bool.and_eq_true, decide_eq_true_iff, List.all_eq_true]
  constructor
  · intro ⟨size, among⟩
    have subset : given ⊆ d.entries := fun entry member =>
      List.contains_iff_mem.1 (among entry member)
    exact (List.subperm_of_subset (List.Nodup.of_map _ distinct) subset).perm_of_length_le size.le
  · intro perm
    exact ⟨perm.length_eq.symm, fun entry member => List.contains_iff_mem.2 (perm.subset member)⟩

/-! ### Taking words -/

theorem delete_eq (d : Dictionary) (key : Text) :
    d.delete key = match d.get? key with
      | some _ => .ok (d.remove (Text.lower key))
      | none => .error (.missingKey (Text.lower key)) := by
  rw [delete, index, lookup, get?]
  cases d.find? (Text.lower key) <;> rfl

theorem take_eq (d : Dictionary) (key : Text) :
    d.take key = match d.get? key with
      | some text => .ok (text, d.remove (Text.lower key))
      | none => .error (.missingKey (Text.lower key)) := by
  rw [take, delete_eq, index, lookup, get?]
  cases d.find? (Text.lower key) <;> rfl

theorem Kept.takeOldest_eq {rest : List Entry} (kept : d.Kept)
    (entries : d.entries = entry :: rest) : d.takeOldest = .ok (entry, d.remove entry.name) := by
  have first : entry ∈ d.entries := entries ▸ List.mem_cons_self ..
  have small := kept.small _ (mem_names_of_entry first)
  have names : d.names = entry.name :: rest.map (·.name) := by rw [names, entries, List.map_cons]
  simp only [takeOldest, names, take_eq, get?, small, find?_entry kept.distinct first]
  rfl

theorem takeOldest_of_nil (entriesNil : d.entries = []) : d.takeOldest = .error .noEntries := by
  simp only [takeOldest, names, entriesNil, List.map_nil]

/-- Without its oldest word a dictionary has the others. -/
theorem Kept.remove_oldest {rest : List Entry} (kept : d.Kept)
    (entries : d.entries = entry :: rest) : (d.remove entry.name).entries = rest := by
  have distinct := kept.distinct
  rw [names, entries, List.map_cons, List.nodup_cons] at distinct
  have others : ∀ other ∈ rest, other.name ≠ entry.name := by
    intro other member same
    exact distinct.1 (same ▸ List.mem_map_of_mem member)
  rw [Dictionary.remove, entries]
  simpa using others

theorem Kept.clear_eq (kept : d.Kept) : d.clear = {} := by
  suffices drained : ∀ (entries : List Entry) (d : Dictionary), d.Kept → d.entries = entries →
      drain entries.length d = {} from drained d.entries d kept rfl
  intro entries
  induction entries with
  | nil =>
    rintro ⟨_⟩ _ rfl
    rfl
  | cons entry rest ih =>
    -- the oldest word is found under its name, since that is in small letters
    intro d kept entries
    rw [List.length_cons, drain, kept.takeOldest_eq entries]
    exact ih _ (kept.remove entry.name) (kept.remove_oldest entries)

/-! ### Asking for a key -/

theorem contains_iff : d.contains key = true ↔ Text.lower key ∈ d.names := isSome_find?_iff

theorem isOk_index (d : Dictionary) (key : Text) : (d.index key).isOk = d.contains key := by
  rw [index, lookup, contains, get?]
  cases d.find? (Text.lower key) <;> rfl

theorem isOk_delete (d : Dictionary) (key : Text) : (d.delete key).isOk = d.contains key := by
  rw [delete_eq, contains]
  cases d.get? key <;> rfl

theorem isOk_take (d : Dictionary) (key : Text) : (d.take key).isOk = d.contains key := by
  rw [take_eq, contains]
  cases d.get? key <;> rfl

/-- A key without whitespace is a token, so it is what is looked up to be expanded. -/
theorem isSome_expand (d : Dictionary) (solid : ∀ c ∈ key, Text.isSpace c = false) :
    (d.expand key).value?.isSome = d.contains key := by
  have whole : Text.token key = key := List.takeWhile_eq_self_iff.2 (by simpa using solid)
  rw [expand, whole, contains]
  cases d.get? key <;> rfl

/-! ### A dictionary of its own entries -/

theorem Checked.accepted (checked : d.Checked) (member : entry ∈ d.entries) :
    entry.refusal? = none := by
  have led := checked.letterLed entry member
  have full := mt Text.trim_eq_nil_iff.1 (checked.full entry member)
  simp [Entry.refusal?, checked.named entry member, led, full]

/-- Words that are new and in small letters come behind those that are there. -/
theorem putAll_eq_append {words : List Entry}
    (small : ∀ entry ∈ words, Text.lower entry.name = entry.name)
    (distinct : (d.entries ++ words).map (·.name) |>.Nodup) :
    d.putAll words = ⟨d.entries ++ words⟩ := by
  induction words generalizing d with
  | nil => simp [putAll]
  | cons entry rest ih =>
    have new : entry.name ∉ d.names := by
      intro known
      rw [List.map_append, List.map_cons] at distinct
      exact (List.nodup_append.1 distinct).2.2 _ known _ (List.mem_cons_self ..) rfl
    have first : d.put (Text.lower entry.name) entry.text = ⟨d.entries ++ [entry]⟩ := by
      rw [small entry (List.mem_cons_self ..), put_of_not_mem new]
    have shift : d.entries ++ entry :: rest = (d.entries ++ [entry]) ++ rest := List.append_cons ..
    rw [shift] at distinct ⊢
    rw [putAll, List.foldl_cons, first]
    exact ih (fun other member => small other (List.mem_cons_of_mem entry member)) distinct

/-- **A dictionary is made again of its entries**, in their order. -/
theorem Kept.ofEntries_entries (kept : d.Kept) : ofEntries d.entries = .ok d := by
  have accepted : ∀ entry ∈ d.entries, entry.refusal? = none := fun entry member =>
    kept.toChecked.accepted member
  have small : ∀ entry ∈ d.entries, Text.lower entry.name = entry.name := fun entry member =>
    kept.small _ (mem_names_of_entry member)
  have whole : putAll {} d.entries = d := putAll_eq_append small kept.distinct
  rw [ofEntries_eq_ok_iff, update_eq, List.findSome?_eq_none_iff.2 accepted,
    List.takeWhile_eq_self_iff.2 (by simpa using accepted), whole]

end Dictionary
end WordStack
