import Mathlib.Data.List.Induction
import DataFeed.Foundation.OrderedMap

/-! # Maintaining the leading entries of an ordered map

A party that sees only the leading entries of an ordered map can follow it
through changes sent by the map's owner, although it is never told which
entries were merely pushed out of its view: what it still holds of those comes
after every entry of the new view, so cutting back to the limit removes exactly
them (`OrderedMap.truncate_alterAll`).
-/

namespace Foundation.OrderedMap

variable {Key Value : Type*} {before : Key → Key → Prop}

/-- The entries within a limit, or all of them without one. -/
def truncate (limit : Option Nat) (map : OrderedMap Key Value before) :
    OrderedMap Key Value before :=
  match limit with
  | none => map
  | some count => map.take count

@[simp] theorem truncate_none (map : OrderedMap Key Value before) : map.truncate none = map := rfl

@[simp] theorem truncate_empty (limit : Option Nat) :
    (empty : OrderedMap Key Value before).truncate limit = empty := by
  cases limit with
  | none => rfl
  | some count => exact ext_entries List.take_nil

theorem entries_truncate_sublist (limit : Option Nat) (map : OrderedMap Key Value before) :
    (map.truncate limit).entries.Sublist map.entries := by
  cases limit with
  | none => exact List.Sublist.refl _
  | some count => exact List.take_sublist _ _

variable [DecidableRel before] [IsStrictTotalOrder Key before] [DecidableEq Key]

/-- Gives `key` a value, or removes its entry. -/
def alter (map : OrderedMap Key Value before) (key : Key) : Option Value →
    OrderedMap Key Value before
  | some value => map.insert key value
  | none => map.erase key

theorem find?_alter (map : OrderedMap Key Value before) (key query : Key) (value : Option Value) :
    (map.alter key value).find? query = if query = key then value else map.find? query := by
  cases value with
  | none => exact map.find?_erase key query
  | some value => exact map.find?_insert key query value

/-- Makes the changes one after another. -/
def alterAll (changes : List (Key × Option Value)) (map : OrderedMap Key Value before) :
    OrderedMap Key Value before :=
  changes.foldl (fun current change => current.alter change.1 change.2) map

/-- What a list of changes says last about a key. -/
def lastMention (changes : List (Key × Option Value)) (key : Key) : Option (Option Value) :=
  (changes.reverse.find? fun change => change.1 = key).map Prod.snd

omit [DecidableRel before] [IsStrictTotalOrder Key before] in
theorem lastMention_concat (changes : List (Key × Option Value)) (change : Key × Option Value)
    (key : Key) :
    lastMention (changes ++ [change]) key =
      if key = change.1 then some change.2 else lastMention changes key := by
  unfold lastMention
  rw [List.reverse_append, List.reverse_singleton, List.singleton_append, List.find?_cons]
  by_cases same : change.1 = key
  · simp only [same, decide_true, Option.map_some, ↓reduceIte]
  · simp only [same, decide_false, ne_comm.mp same, ↓reduceIte]

/-- After a list of changes a key has the value it was last given, and its old
one if no change named it. -/
theorem find?_alterAll (changes : List (Key × Option Value)) (map : OrderedMap Key Value before)
    (key : Key) :
    (map.alterAll changes).find? key = (lastMention changes key).getD (map.find? key) := by
  induction changes using List.reverseRecOn with
  | nil => rfl
  | append_singleton changes change ih =>
      unfold alterAll at ih ⊢
      rw [List.foldl_append, List.foldl_cons, List.foldl_nil, find?_alter, ih, lastMention_concat]
      by_cases same : key = change.1
      · simp only [same, ↓reduceIte, Option.getD_some]
      · simp only [same, ↓reduceIte]

omit [DecidableRel before] [IsStrictTotalOrder Key before] in
/-- Where no key is named twice, the last mention is the only one. -/
theorem lastMention_eq_some_iff {changes : List (Key × Option Value)}
    (once : (changes.map Prod.fst).Nodup) {key : Key} {value : Option Value} :
    lastMention changes key = some value ↔ (key, value) ∈ changes := by
  induction changes using List.reverseRecOn with
  | nil => simp only [lastMention, List.reverse_nil, List.find?_nil, Option.map_none, reduceCtorEq,
      List.not_mem_nil]
  | append_singleton changes change ih =>
      rw [List.map_append, List.map_singleton, List.nodup_append] at once
      obtain ⟨earlier, _, apart⟩ := once
      rw [lastMention_concat, List.mem_append, List.mem_singleton]
      by_cases same : key = change.1
      · subst same
        have absent : (change.1, value) ∉ changes := fun member =>
          apart _ (List.mem_map_of_mem member) _ (List.mem_singleton_self _) rfl
        simp only [↓reduceIte, Option.some.injEq, absent, false_or, Prod.ext_iff, true_and,
          eq_comm]
      · simp only [same, ↓reduceIte, ih earlier, Prod.ext_iff, false_and, or_false]

/-- Changes of different keys can be made in any order. -/
theorem alterAll_perm {changes shuffled : List (Key × Option Value)}
    (once : (changes.map Prod.fst).Nodup) (same : changes.Perm shuffled)
    (map : OrderedMap Key Value before) : map.alterAll changes = map.alterAll shuffled := by
  have also : (shuffled.map Prod.fst).Nodup := (same.map Prod.fst).nodup_iff.mp once
  apply ext_find?
  intro key
  have mentions : lastMention changes key = lastMention shuffled key := by
    apply Option.ext
    intro value
    rw [lastMention_eq_some_iff once, lastMention_eq_some_iff also]
    exact same.mem_iff
  rw [find?_alterAll, find?_alterAll, mentions]

/-- Setting a map's entries one after another, in any order, builds it. -/
theorem alterAll_of_perm {map : OrderedMap Key Value before} {entries : List (Key × Value)}
    (same : entries.Perm map.entries) :
    (empty : OrderedMap Key Value before).alterAll
      (entries.map fun entry => (entry.1, some entry.2)) = map := by
  have once : ((entries.map fun entry => (entry.1, some entry.2)).map Prod.fst).Nodup := by
    rw [List.map_map]
    exact (same.map Prod.fst).nodup_iff.mpr map.keys_nodup
  apply ext_find?
  intro key
  rw [find?_alterAll, find?_empty]
  cases mention : lastMention (entries.map fun entry => (entry.1, some entry.2)) key with
  | none =>
      symm
      rw [Option.getD_none, Option.eq_none_iff_forall_ne_some]
      intro value found
      have listed : (key, some value) ∈ entries.map fun entry => (entry.1, some entry.2) :=
        List.mem_map.mpr ⟨(key, value), same.mem_iff.mpr (find?_eq_some_iff.mp found), rfl⟩
      rw [(lastMention_eq_some_iff once).mpr listed] at mention
      exact Option.some_ne_none _ mention
  | some value =>
      obtain ⟨entry, member, known⟩ := List.mem_map.mp ((lastMention_eq_some_iff once).mp mention)
      obtain ⟨rfl, rfl⟩ := Prod.mk.inj known
      rw [Option.getD_some]
      exact (find?_eq_some_iff.mpr (same.mem_iff.mp member)).symm

omit [DecidableRel before] in
/-- A map that holds all of `leading`, and besides it only keys that come
after, lists `leading` first. -/
theorem entries_eq_append_of_extends {map leading : OrderedMap Key Value before}
    (holds : ∀ entry ∈ leading.entries, entry ∈ map.entries)
    (after : ∀ entry ∈ map.entries, entry.1 ∉ leading.keys →
      ∀ first ∈ leading.entries, before first.1 entry.1) :
    map.entries = leading.entries ++ map.entries.filter fun entry => entry.1 ∉ leading.keys := by
  have irreflexive : Std.Irrefl fun left right : Key × Value => before left.1 right.1 :=
    ⟨fun entry => irrefl_of before entry.1⟩
  have antisymmetric : Std.Antisymm fun left right : Key × Value => before left.1 right.1 :=
    ⟨fun _ _ less greater => (asymm_of before less greater).elim⟩
  apply map.ordered.eq_of_mem_iff
  · refine List.pairwise_append.mpr
      ⟨leading.ordered, map.ordered.sublist List.filter_sublist, ?_⟩
    intro first member entry rest
    obtain ⟨listed, outside⟩ := List.mem_filter.mp rest
    exact after entry listed (of_decide_eq_true outside) first member
  · intro entry
    rw [List.mem_append, List.mem_filter, decide_eq_true_eq]
    constructor
    · intro member
      by_cases inside : entry.1 ∈ leading.keys
      · obtain ⟨found, listed, named⟩ := List.mem_map.mp inside
        have same : found = entry := Prod.ext named
          (value_unique (named ▸ holds found listed) member)
        exact Or.inl (same ▸ listed)
      · exact Or.inr ⟨member, inside⟩
    · rintro (member | ⟨member, _⟩)
      · exact holds entry member
      · exact member

omit [DecidableRel before] in
/-- Whatever a map holds beyond the leading entries of another comes off when
it is cut back, if the other map holds those keys too. -/
theorem take_eq_of_extends {map whole : OrderedMap Key Value before} {count : Nat}
    (holds : ∀ entry ∈ (whole.take count).entries, entry ∈ map.entries)
    (known : ∀ key ∈ map.keys, key ∈ whole.keys) : map.take count = whole.take count := by
  have pushedOut : ∀ entry ∈ map.entries, entry.1 ∉ (whole.take count).keys →
      ∃ value, (entry.1, value) ∈ whole.entries.drop count := by
    intro entry member outside
    obtain ⟨found, listed, named⟩ := List.mem_map.mp (known _ (List.mem_map_of_mem member))
    rw [← List.take_append_drop count whole.entries, List.mem_append] at listed
    rcases listed with leading | later
    · exact (outside (List.mem_map.mpr ⟨found, leading, named⟩)).elim
    · exact ⟨found.2, named ▸ later⟩
  have split := entries_eq_append_of_extends holds (by
    intro entry member outside first leading
    obtain ⟨_, later⟩ := pushedOut entry member outside
    have ordered := whole.ordered
    rw [← List.take_append_drop count whole.entries, List.pairwise_append] at ordered
    have above := ordered.2.2 first leading _ later
    exact above)
  apply ext_entries
  rw [entries_take, split]
  cases beyond : map.entries.filter fun entry => entry.1 ∉ (whole.take count).keys with
  | nil =>
      rw [List.append_nil]
      exact List.take_of_length_le (List.length_take_le _ _)
  | cons entry rest =>
      have member : entry ∈ map.entries.filter fun entry => entry.1 ∉ (whole.take count).keys :=
        beyond ▸ List.mem_cons_self
      obtain ⟨listed, outside⟩ := List.mem_filter.mp member
      obtain ⟨_, later⟩ := pushedOut entry listed (of_decide_eq_true outside)
      have long : count < whole.entries.length := by
        by_contra short
        rw [List.drop_eq_nil_of_le (Nat.le_of_not_lt short)] at later
        exact List.not_mem_nil later
      have exact : (whole.take count).entries.length = count := by
        rw [entries_take, List.length_take, Nat.min_eq_left (Nat.le_of_lt long)]
      rw [List.take_append_of_le_length (Nat.le_of_eq exact.symm), List.take_of_length_le
        (Nat.le_of_eq exact)]

/-- The changes that bring the view of `old` up to the view of `new`: every
entry of the new view that the old view did not hold as it is, and a removal of
every key of the old view that `new` no longer holds. Keys of the old view that
`new` holds beyond the limit are not mentioned. -/
structure ViewChanges (limit : Option Nat) (old new : OrderedMap Key Value before)
    (changes : List (Key × Option Value)) : Prop where
  once : (changes.map Prod.fst).Nodup
  sets : ∀ key value, (key, some value) ∈ changes ↔
    (new.truncate limit).find? key = some value ∧ (old.truncate limit).find? key ≠ some value
  removes : ∀ key, (key, none) ∈ changes ↔
    (old.truncate limit).find? key ≠ none ∧ new.find? key = none

omit [DecidableRel before] in
theorem find?_of_find?_truncate {limit : Option Nat} {map : OrderedMap Key Value before} {key : Key}
    {value : Value} (found : (map.truncate limit).find? key = some value) :
    map.find? key = some value :=
  find?_eq_some_iff.mpr ((entries_truncate_sublist limit map).subset (find?_eq_some_iff.mp found))

namespace ViewChanges

variable {limit : Option Nat} {old new : OrderedMap Key Value before}
  {changes : List (Key × Option Value)}

/-- The view so changed holds every entry of the new view. -/
theorem find?_of_view (following : ViewChanges limit old new changes) {key : Key} {value : Value}
    (viewed : (new.truncate limit).find? key = some value) :
    ((old.truncate limit).alterAll changes).find? key = some value := by
  rw [find?_alterAll]
  by_cases unchanged : (old.truncate limit).find? key = some value
  · have unmentioned : lastMention changes key = none := by
      rw [Option.eq_none_iff_forall_ne_some]
      intro mention named
      rw [lastMention_eq_some_iff following.once] at named
      cases mention with
      | none =>
          have gone := ((following.removes key).mp named).2
          rw [find?_of_find?_truncate viewed] at gone
          exact Option.some_ne_none _ gone
      | some other =>
          obtain ⟨same, different⟩ := (following.sets key other).mp named
          exact different (unchanged.trans (viewed.symm.trans same))
    rw [unmentioned, Option.getD_none, unchanged]
  · rw [(lastMention_eq_some_iff following.once).mpr
      ((following.sets key value).mpr ⟨viewed, unchanged⟩), Option.getD_some]

/-- The view so changed holds no key that `new` does not. -/
theorem find?_eq_none (following : ViewChanges limit old new changes) {key : Key}
    (absent : new.find? key = none) :
    ((old.truncate limit).alterAll changes).find? key = none := by
  rw [find?_alterAll]
  by_cases held : (old.truncate limit).find? key = none
  · cases mentioned : lastMention changes key with
    | none => exact held
    | some mention =>
        rw [lastMention_eq_some_iff following.once] at mentioned
        cases mention with
        | none => rfl
        | some value =>
            have viewed := find?_of_find?_truncate ((following.sets key value).mp mentioned).1
            exact (Option.some_ne_none _ (viewed.symm.trans absent)).elim
  · rw [(lastMention_eq_some_iff following.once).mpr
      ((following.removes key).mpr ⟨held, absent⟩), Option.getD_some]

end ViewChanges

/-- Changing the view of the old map and cutting it back gives the view of the
new one. -/
theorem truncate_alterAll {limit : Option Nat} {old new : OrderedMap Key Value before}
    {changes : List (Key × Option Value)} (following : ViewChanges limit old new changes) :
    ((old.truncate limit).alterAll changes).truncate limit = new.truncate limit := by
  cases limit with
  | none =>
      apply ext_find?
      intro key
      rw [truncate_none, truncate_none new]
      cases held : new.find? key with
      | none => exact following.find?_eq_none held
      | some value => exact following.find?_of_view held
  | some count =>
      apply take_eq_of_extends
      · rintro ⟨key, value⟩ member
        exact find?_eq_some_iff.mp (following.find?_of_view (find?_eq_some_iff.mpr member))
      · intro key member
        by_contra absent
        exact find?_eq_none_iff.mp (following.find?_eq_none (find?_eq_none_iff.mpr absent)) member

end Foundation.OrderedMap
