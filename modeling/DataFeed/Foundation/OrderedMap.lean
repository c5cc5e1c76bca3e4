import Mathlib.Data.List.Sort
import Mathlib.Order.RelClasses

/-! # Maps listed in the order of a comparator

A finite map kept as the list of its entries, strictly ordered by a comparator
on the keys, the way a red-black tree or a sorted vector presents itself to a
program that iterates over it. The ordering is a field of the structure, so no
operation can produce an unordered map and lookup alone determines a map
(`OrderedMap.ext_find?`).
-/

namespace Foundation

/-- A finite map whose entries are listed in the strict order `before` puts on
the keys. -/
structure OrderedMap (Key Value : Type*) (before : Key → Key → Prop) where
  entries : List (Key × Value)
  ordered : entries.Pairwise fun first second => before first.1 second.1

namespace OrderedMap

variable {Key Value Other : Type*} {before : Key → Key → Prop}

/-- The map without entries. -/
def empty : OrderedMap Key Value before := ⟨[], .nil⟩

/-- The keys, in order. -/
def keys (map : OrderedMap Key Value before) : List Key := map.entries.map Prod.fst

/-- The number of entries. -/
def size (map : OrderedMap Key Value before) : Nat := map.entries.length

/-- The first `count` entries. -/
def take (count : Nat) (map : OrderedMap Key Value before) : OrderedMap Key Value before :=
  ⟨map.entries.take count, map.ordered.sublist (List.take_sublist _ _)⟩

/-- The same keys with every value replaced. -/
def mapValues (change : Value → Other) (map : OrderedMap Key Value before) :
    OrderedMap Key Other before :=
  ⟨map.entries.map fun entry => (entry.1, change entry.2), List.pairwise_map.mpr map.ordered⟩

/-- The first entries of a map are the first of its entries. -/
@[simp] theorem entries_take (count : Nat) (map : OrderedMap Key Value before) :
    (map.take count).entries = map.entries.take count := rfl

/-- The listed entries determine a map. -/
@[ext] theorem ext_entries {first second : OrderedMap Key Value before}
    (same : first.entries = second.entries) : first = second := by
  cases first
  cases second
  cases same
  rfl

/-- Taking as many entries as there are keeps the map. -/
theorem take_of_size_le {count : Nat} {map : OrderedMap Key Value before}
    (fits : map.size ≤ count) : map.take count = map :=
  ext_entries (List.take_of_length_le fits)

section Lookup

variable [DecidableEq Key]

/-- The value stored under `key`, if any. -/
def find? (map : OrderedMap Key Value before) (key : Key) : Option Value :=
  (map.entries.find? fun entry => entry.1 = key).map Prod.snd

/-- Removes the entry of `key`, if any. -/
def erase (map : OrderedMap Key Value before) (key : Key) : OrderedMap Key Value before :=
  ⟨map.entries.filter fun entry => entry.1 ≠ key, map.ordered.sublist List.filter_sublist⟩

/-- The empty map holds no key. -/
@[simp] theorem find?_empty (key : Key) :
    (empty : OrderedMap Key Value before).find? key = none := rfl

/-- Erasing a key removes the entries of that key. -/
@[simp] theorem mem_entries_erase {map : OrderedMap Key Value before} {key : Key}
    {entry : Key × Value} :
    entry ∈ (map.erase key).entries ↔ entry ∈ map.entries ∧ entry.1 ≠ key := by
  simp only [erase, List.mem_filter, ne_eq, decide_not, Bool.not_eq_eq_eq_not, Bool.not_true,
    decide_eq_false_iff_not]

end Lookup

section Ordered

variable [IsStrictTotalOrder Key before]

omit [IsStrictTotalOrder Key before] in
/-- The keys of a map are in its order. -/
theorem keys_pairwise (map : OrderedMap Key Value before) : map.keys.Pairwise before :=
  List.pairwise_map.mpr map.ordered

/-- No key stands in a map twice. -/
theorem keys_nodup (map : OrderedMap Key Value before) : map.keys.Nodup := by
  refine map.keys_pairwise.imp ?_
  rintro key _ less rfl
  exact irrefl_of before key less

/-- A key has at most one entry. -/
theorem value_unique {map : OrderedMap Key Value before} {key : Key} {first second : Value}
    (left : (key, first) ∈ map.entries) (right : (key, second) ∈ map.entries) :
    first = second :=
  congrArg Prod.snd (List.inj_on_of_nodup_map map.keys_nodup left right rfl)

variable [DecidableEq Key]

/-- Looking a key up finds exactly the listed entry. -/
theorem find?_eq_some_iff {map : OrderedMap Key Value before} {key : Key} {value : Value} :
    map.find? key = some value ↔ (key, value) ∈ map.entries := by
  unfold find?
  rw [Option.map_eq_some_iff]
  constructor
  · rintro ⟨entry, found, rfl⟩
    have named : entry.1 = key := by simpa only [decide_eq_true_eq] using List.find?_some found
    exact named ▸ List.mem_of_find?_eq_some found
  · intro member
    have present : (map.entries.find? fun entry => entry.1 = key).isSome :=
      List.find?_isSome.mpr ⟨(key, value), member, decide_eq_true rfl⟩
    obtain ⟨entry, found⟩ := Option.isSome_iff_exists.mp present
    have named : entry.1 = key := by simpa only [decide_eq_true_eq] using List.find?_some found
    have listed : (key, entry.2) ∈ map.entries := named ▸ List.mem_of_find?_eq_some found
    exact ⟨entry, found, value_unique listed member⟩

/-- Lookup determines a map. -/
theorem ext_find? {first second : OrderedMap Key Value before}
    (same : ∀ key, first.find? key = second.find? key) : first = second := by
  have irreflexive : Std.Irrefl fun left right : Key × Value => before left.1 right.1 :=
    ⟨fun entry => irrefl_of before entry.1⟩
  have antisymmetric : Std.Antisymm fun left right : Key × Value => before left.1 right.1 :=
    ⟨fun _ _ less greater => (asymm_of before less greater).elim⟩
  apply ext_entries
  apply first.ordered.eq_of_mem_iff second.ordered
  rintro ⟨key, value⟩
  rw [← find?_eq_some_iff, ← find?_eq_some_iff, same]

/-- A lookup fails exactly for a key the map does not hold. -/
theorem find?_eq_none_iff {map : OrderedMap Key Value before} {key : Key} :
    map.find? key = none ↔ key ∉ map.keys := by
  rw [Option.eq_none_iff_forall_ne_some]
  simp only [ne_eq, find?_eq_some_iff, keys, List.mem_map, Prod.exists, exists_and_right,
    exists_eq_right, not_exists]

/-- A lookup after an erasure misses the erased key and no other. -/
theorem find?_erase (map : OrderedMap Key Value before) (key query : Key) :
    (map.erase key).find? query = if query = key then none else map.find? query := by
  apply Option.ext
  intro value
  rw [find?_eq_some_iff, mem_entries_erase]
  by_cases same : query = key
  · simp only [same, ne_eq, not_true_eq_false, and_false, ↓reduceIte, reduceCtorEq]
  · simp only [same, ne_eq, not_false_eq_true, and_true, ↓reduceIte, find?_eq_some_iff]

/-- Erasing what is not there changes nothing. -/
theorem erase_absent {map : OrderedMap Key Value before} {key : Key}
    (absent : map.find? key = none) : map.erase key = map := by
  apply ext_find?
  intro query
  rw [find?_erase]
  split
  · rename_i same
    rw [same, absent]
  · rfl

/-- Changing the values changes what a lookup finds. -/
theorem find?_mapValues (change : Value → Other) (map : OrderedMap Key Value before) (key : Key) :
    (map.mapValues change).find? key = (map.find? key).map change := by
  apply Option.ext
  intro value
  simp only [find?_eq_some_iff, mapValues, List.mem_map, Prod.mk.injEq, Prod.exists,
    Option.map_eq_some_iff]
  constructor
  · rintro ⟨_, stored, member, rfl, rfl⟩
    exact ⟨stored, member, rfl⟩
  · rintro ⟨stored, member, rfl⟩
    exact ⟨key, stored, member, rfl, rfl⟩

end Ordered

section Insert

variable [DecidableRel before]

/-- Puts an entry at its place in an ordered list, replacing the one of an
equivalent key. -/
def insertEntry (before : Key → Key → Prop) [DecidableRel before] (key : Key) (value : Value) :
    List (Key × Value) → List (Key × Value)
  | [] => [(key, value)]
  | entry :: rest =>
      if before key entry.1 then (key, value) :: entry :: rest
      else if before entry.1 key then entry :: insertEntry before key value rest
      else (key, value) :: rest

variable [IsStrictTotalOrder Key before]

/-- The entries after an insertion are the new one and those of other keys. -/
theorem mem_insertEntry {key : Key} {value : Value} {entries : List (Key × Value)}
    (ordered : entries.Pairwise fun first second => before first.1 second.1)
    {entry : Key × Value} :
    entry ∈ insertEntry before key value entries ↔
      entry = (key, value) ∨ (entry ∈ entries ∧ entry.1 ≠ key) := by
  induction entries with
  | nil => simp only [insertEntry, List.mem_singleton, List.not_mem_nil, false_and, or_false]
  | cons head rest ih =>
      obtain ⟨least, tail⟩ := List.pairwise_cons.mp ordered
      unfold insertEntry
      by_cases less : before key head.1
      · have apart : ∀ other ∈ head :: rest, other.1 ≠ key := by
          intro other member same
          rcases List.mem_cons.mp member with rfl | later
          · exact irrefl_of before key (same ▸ less)
          · exact irrefl_of before key (same ▸ trans_of before less (least other later))
        rw [if_pos less, List.mem_cons]
        exact or_congr Iff.rfl ⟨fun member => ⟨member, apart entry member⟩, And.left⟩
      · by_cases greater : before head.1 key
        · have apart : head.1 ≠ key := fun same => irrefl_of before key (same ▸ greater)
          rw [if_neg less, if_pos greater, List.mem_cons, List.mem_cons, ih tail]
          constructor
          · rintro (rfl | rfl | ⟨member, other⟩)
            · exact Or.inr ⟨Or.inl rfl, apart⟩
            · exact Or.inl rfl
            · exact Or.inr ⟨Or.inr member, other⟩
          · rintro (rfl | ⟨rfl | member, other⟩)
            · exact Or.inr (Or.inl rfl)
            · exact Or.inl rfl
            · exact Or.inr (Or.inr ⟨member, other⟩)
        · have same : head.1 = key :=
            (trichotomous_of before head.1 key).resolve_left greater |>.resolve_right less
          have apart : ∀ other ∈ rest, other.1 ≠ key := fun other later equal =>
            irrefl_of before key (by
              have above := least other later
              rwa [same, equal] at above)
          rw [if_neg less, if_neg greater, List.mem_cons, List.mem_cons]
          constructor
          · rintro (rfl | member)
            · exact Or.inl rfl
            · exact Or.inr ⟨Or.inr member, apart entry member⟩
          · rintro (rfl | ⟨rfl | member, other⟩)
            · exact Or.inl rfl
            · exact (other same).elim
            · exact Or.inr member

/-- Insertion keeps the order of the keys. -/
theorem pairwise_insertEntry {key : Key} {value : Value} {entries : List (Key × Value)}
    (ordered : entries.Pairwise fun first second => before first.1 second.1) :
    (insertEntry before key value entries).Pairwise
      fun first second => before first.1 second.1 := by
  induction entries with
  | nil => exact List.pairwise_singleton _ _
  | cons head rest ih =>
      obtain ⟨least, tail⟩ := List.pairwise_cons.mp ordered
      unfold insertEntry
      by_cases less : before key head.1
      · rw [if_pos less]
        refine List.pairwise_cons.mpr ⟨?_, ordered⟩
        intro other member
        rcases List.mem_cons.mp member with rfl | later
        · exact less
        · exact trans_of before less (least other later)
      · by_cases greater : before head.1 key
        · rw [if_neg less, if_pos greater]
          refine List.pairwise_cons.mpr ⟨?_, ih tail⟩
          intro other member
          rcases (mem_insertEntry tail).mp member with rfl | ⟨later, _⟩
          · exact greater
          · exact least other later
        · have same : head.1 = key :=
            (trichotomous_of before head.1 key).resolve_left greater |>.resolve_right less
          rw [if_neg less, if_neg greater]
          exact List.pairwise_cons.mpr ⟨fun other later => same ▸ least other later, tail⟩

/-- Stores `value` under `key`, replacing what was stored there. -/
def insert (map : OrderedMap Key Value before) (key : Key) (value : Value) :
    OrderedMap Key Value before :=
  ⟨insertEntry before key value map.entries, pairwise_insertEntry map.ordered⟩

/-- The entries of a map after an insertion are the new one and those of other keys. -/
theorem mem_entries_insert {map : OrderedMap Key Value before} {key : Key} {value : Value}
    {entry : Key × Value} :
    entry ∈ (map.insert key value).entries ↔
      entry = (key, value) ∨ (entry ∈ map.entries ∧ entry.1 ≠ key) :=
  mem_insertEntry map.ordered

/-- A lookup after an insertion finds the new value at its key, and what was there elsewhere. -/
theorem find?_insert [DecidableEq Key] (map : OrderedMap Key Value before) (key query : Key)
    (value : Value) :
    (map.insert key value).find? query = if query = key then some value else map.find? query := by
  apply Option.ext
  intro stored
  rw [find?_eq_some_iff, mem_entries_insert]
  by_cases same : query = key
  · simp only [same, Prod.mk.injEq, true_and, ne_eq, not_true_eq_false, and_false, or_false,
      ↓reduceIte, Option.some.injEq, eq_comm]
  · simp only [same, Prod.mk.injEq, false_and, ne_eq, not_false_eq_true, and_true, false_or,
      ↓reduceIte, find?_eq_some_iff]

end Insert

end OrderedMap

end Foundation
