import Mathlib.Logic.Basic

/-! # Views of a table by a unique key

Rows are kept under ids, and no two have the same key (`Keyed`). What is kept of them
elsewhere, by key, is a view: `Shows` says that a view has exactly the rows that are
not hidden. A row that is added is hidden until each view is told of it, and hidden
again in a view before it goes, so every update of the table or of one view is one
of the rules below.
-/

namespace Foundation

variable {Id Row Key Value : Type*}

/-- No two rows of the table have the same key. -/
def Keyed (key : Row → Key) (table : Id → Option Row) : Prop :=
  ∀ (first second : Id) (left right : Row), table first = some left →
    table second = some right → key left = key right → first = second

/-- The view has what it keeps of each row that is not hidden, under the row's key,
and nothing else. -/
def Shows (key : Row → Key) (value : Row → Value) (table : Id → Option Row) (hidden : Id → Prop)
    (view : Key → Option Value) : Prop :=
  ∀ at_ kept, view at_ = some kept ↔
    ∃ id row, table id = some row ∧ key row = at_ ∧ value row = kept ∧ ¬ hidden id

variable {key : Row → Key} {value : Row → Value} {table next : Id → Option Row}
  {hidden unseen : Id → Prop} {view shown : Key → Option Value} {id : Id} {row : Row}

theorem Keyed.insert [DecidableEq Id] (keyed : Keyed key table)
    (free : ∀ other old, table other = some old → key old ≠ key row)
    (inserted : ∀ query, next query = if query = id then some row else table query) :
    Keyed key next := by
  intro first second left right atFirst atSecond same
  rw [inserted] at atFirst atSecond
  split at atFirst <;> split at atSecond
  · rename_i here there
    exact here.trans there.symm
  · obtain rfl := Option.some.inj atFirst
    exact (free second right atSecond same.symm).elim
  · obtain rfl := Option.some.inj atSecond
    exact (free first left atFirst same).elim
  · exact keyed first second left right atFirst atSecond same

theorem Keyed.erase [DecidableEq Id] (keyed : Keyed key table)
    (erased : ∀ query, next query = if query = id then none else table query) :
    Keyed key next := by
  intro first second left right atFirst atSecond same
  rw [erased] at atFirst atSecond
  split at atFirst
  · exact (Option.some_ne_none _ atFirst.symm).elim
  · split at atSecond
    · exact (Option.some_ne_none _ atSecond.symm).elim
    · exact keyed first second left right atFirst atSecond same

namespace Shows

/-- Only which rows of the table are hidden matters, and what the view answers. -/
theorem congr (shows : Shows key value table hidden view)
    (same : ∀ other row, table other = some row → (unseen other ↔ hidden other))
    (answers : ∀ query, shown query = view query) : Shows key value table unseen shown := by
  intro query kept
  rw [answers, shows query kept]
  refine exists_congr fun other => exists_congr fun stored => ?_
  constructor
  · rintro ⟨present, at_, keeps, visible⟩
    exact ⟨present, at_, keeps, fun hides => visible ((same other stored present).mp hides)⟩
  · rintro ⟨present, at_, keeps, visible⟩
    exact ⟨present, at_, keeps, fun hides => visible ((same other stored present).mpr hides)⟩

/-- A new row is hidden. -/
theorem insert [DecidableEq Id] (shows : Shows key value table hidden view)
    (free : table id = none)
    (inserted : ∀ query, next query = if query = id then some row else table query)
    (hides : ∀ other, unseen other ↔ hidden other ∨ other = id) :
    Shows key value next unseen view := by
  intro query kept
  rw [shows query kept]
  refine exists_congr fun other => exists_congr fun stored => ?_
  rw [inserted, hides, not_or]
  by_cases here : other = id
  · rw [here, free]
    constructor
    · rintro ⟨absent, _⟩
      exact (Option.some_ne_none _ absent.symm).elim
    · rintro ⟨_, _, _, _, elsewhere⟩
      exact (elsewhere rfl).elim
  · simp only [here, ↓reduceIte, not_false_eq_true, and_true]

/-- A hidden row may go. -/
theorem erase [DecidableEq Id] (shows : Shows key value table hidden view) (hides : hidden id)
    (erased : ∀ query, next query = if query = id then none else table query)
    (same : ∀ other, other ≠ id → (unseen other ↔ hidden other)) :
    Shows key value next unseen view := by
  intro query kept
  rw [shows query kept]
  refine exists_congr fun other => exists_congr fun stored => ?_
  rw [erased]
  by_cases here : other = id
  · constructor
    · rintro ⟨_, _, _, visible⟩
      exact (visible (here ▸ hides)).elim
    · rintro ⟨present, _⟩
      rw [if_pos here] at present
      exact (Option.some_ne_none _ present.symm).elim
  · rw [if_neg here, same other here]

/-- The view is told of a row. -/
theorem reveal [DecidableEq Key] (shows : Shows key value table hidden view)
    (keyed : Keyed key table)
    (present : table id = some row)
    (told : ∀ query, shown query = if query = key row then some (value row) else view query)
    (hides : ∀ other, unseen other ↔ hidden other ∧ other ≠ id) :
    Shows key value table unseen shown := by
  intro query kept
  rw [told]
  split
  · rename_i here
    constructor
    · intro same
      exact ⟨id, row, present, here.symm, Option.some.inj same,
        fun covered => ((hides id).mp covered).2 rfl⟩
    · rintro ⟨other, stored, there, at_, keeps, _⟩
      obtain rfl := keyed _ _ _ _ there present (at_.trans here)
      obtain rfl := Option.some.inj (there.symm.trans present)
      rw [keeps]
  · rename_i elsewhere
    rw [shows query kept]
    refine exists_congr fun other => exists_congr fun stored => ?_
    rw [hides]
    constructor
    · rintro ⟨there, at_, keeps, visible⟩
      exact ⟨there, at_, keeps, fun covered => visible covered.1⟩
    · rintro ⟨there, at_, keeps, visible⟩
      refine ⟨there, at_, keeps, fun covered => visible ⟨covered, fun same => ?_⟩⟩
      rw [same, present] at there
      rw [← Option.some.inj there] at at_
      exact elsewhere at_.symm

/-- The view forgets a row. -/
theorem hide [DecidableEq Key] (shows : Shows key value table hidden view)
    (keyed : Keyed key table)
    (present : table id = some row)
    (told : ∀ query, shown query = if query = key row then none else view query)
    (hides : ∀ other, unseen other ↔ hidden other ∨ other = id) :
    Shows key value table unseen shown := by
  intro query kept
  rw [told]
  split
  · rename_i here
    constructor
    · exact fun absent => (Option.some_ne_none _ absent.symm).elim
    · rintro ⟨other, stored, there, at_, _, visible⟩
      exact (visible ((hides other).mpr (Or.inr (keyed _ _ _ _ there present (at_.trans here))))).elim
  · rename_i elsewhere
    rw [shows query kept]
    refine exists_congr fun other => exists_congr fun stored => ?_
    rw [hides]
    constructor
    · rintro ⟨there, at_, keeps, visible⟩
      refine ⟨there, at_, keeps, fun covered => covered.elim visible fun same => ?_⟩
      rw [same, present] at there
      rw [← Option.some.inj there] at at_
      exact elsewhere at_.symm
    · rintro ⟨there, at_, keeps, visible⟩
      exact ⟨there, at_, keeps, fun covered => visible (Or.inl covered)⟩

/-- A view has nothing for the key of a hidden row. -/
theorem none_of_hidden (shows : Shows key value table hidden view) (keyed : Keyed key table)
    (present : table id = some row) (hides : hidden id) : view (key row) = none := by
  rw [Option.eq_none_iff_forall_ne_some]
  intro kept shown
  obtain ⟨other, stored, there, at_, _, visible⟩ := (shows _ kept).mp shown
  exact visible (keyed _ _ _ _ there present at_ ▸ hides)

/-- A view of which everything is hidden is empty. -/
theorem of_empty (empty : ∀ query, view query = none)
    (hides : ∀ other row, table other = some row → hidden other) :
    Shows key value table hidden view := by
  intro query kept
  rw [empty]
  constructor
  · exact fun absent => (Option.some_ne_none _ absent.symm).elim
  · rintro ⟨other, stored, there, _, _, visible⟩
    exact (visible (hides other stored there)).elim

end Shows

end Foundation
