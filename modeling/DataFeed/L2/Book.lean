import DataFeed.Foundation.TopView
import DataFeed.L2.Message

/-! # A pair's book

`Book` is the book the parser, the streams and the clients keep: two maps from
price to quantity, best price first, cut back to the depth after every message.
That no stored quantity is zero and no side outgrows the depth are fields of
the structure.
-/

namespace DataFeed.L2

open Foundation

variable {before : Int64 → Int64 → Prop}

/-- A side fits the depth, unless the depth is `fullDepth`. -/
def Within (depth : UInt32) (side : OrderedMap Int64 Int64 before) : Prop :=
  depth ≠ fullDepth → side.size ≤ depth.toNat

/-- No level of a side has quantity zero. -/
def Nonzero (side : OrderedMap Int64 Int64 before) : Prop :=
  ∀ level ∈ side.entries, level.2 ≠ 0

section ApplyLevels

variable [DecidableRel before] [IsStrictTotalOrder Int64 before]

/-- Sets or removes one level. -/
def applyLevel (side : OrderedMap Int64 Int64 before) (level : Level) :
    OrderedMap Int64 Int64 before :=
  if level.quantity = 0 then side.erase level.price
  else side.insert level.price level.quantity

/-- Sets or removes the levels one after another, then drops what lies beyond
the depth. -/
def applyLevels (levels : List Level) (depth : UInt32) (side : OrderedMap Int64 Int64 before) :
    OrderedMap Int64 Int64 before :=
  let applied := levels.foldl applyLevel side
  if depth ≠ fullDepth ∧ applied.size > depth.toNat then applied.take depth.toNat else applied

/-- A depth as a limit on the number of levels. -/
def depthLimit (depth : UInt32) : Option Nat :=
  if depth = fullDepth then none else some depth.toNat

/-- A level as a change of the map that holds its side. -/
def Level.change (level : Level) : Int64 × Option Int64 :=
  (level.price, if level.quantity = 0 then none else some level.quantity)

/-- A level sets its price, or removes it. -/
theorem applyLevel_eq_alter (side : OrderedMap Int64 Int64 before) (level : Level) :
    applyLevel side level = side.alter level.change.1 level.change.2 := by
  unfold applyLevel Level.change
  split <;> rfl

/-- Levels are applied one after the other. -/
theorem foldl_applyLevel (levels : List Level) (side : OrderedMap Int64 Int64 before) :
    levels.foldl applyLevel side = side.alterAll (levels.map Level.change) := by
  unfold OrderedMap.alterAll
  rw [List.foldl_map]
  congr 1
  funext current level
  exact applyLevel_eq_alter current level

/-- Applying levels is changing the side's map and cutting it back. -/
theorem applyLevels_eq (levels : List Level) (depth : UInt32)
    (side : OrderedMap Int64 Int64 before) :
    applyLevels levels depth side =
      (side.alterAll (levels.map Level.change)).truncate (depthLimit depth) := by
  unfold applyLevels depthLimit
  rw [foldl_applyLevel]
  by_cases whole : depth = fullDepth
  · simp only [whole, ne_eq, not_true_eq_false, false_and, ↓reduceIte, OrderedMap.truncate_none]
  · simp only [whole, ne_eq, not_false_eq_true, true_and, ↓reduceIte, OrderedMap.truncate]
    split
    · rfl
    · exact (OrderedMap.take_of_size_le (by omega)).symm

omit [DecidableRel before] [IsStrictTotalOrder Int64 before] in
/-- A side that is cut to its depth is within it. -/
theorem within_truncate (depth : UInt32) (side : OrderedMap Int64 Int64 before) :
    Within depth (side.truncate (depthLimit depth)) := by
  intro limited
  simp only [depthLimit, limited, ↓reduceIte, OrderedMap.truncate, OrderedMap.size,
    OrderedMap.entries_take]
  exact List.length_take_le _ _

/-- A level leaves no size of zero. -/
theorem nonzero_applyLevel {side : OrderedMap Int64 Int64 before} (nonzero : Nonzero side)
    (level : Level) : Nonzero (applyLevel side level) := by
  unfold applyLevel
  split
  · exact fun entry member => nonzero entry (OrderedMap.mem_entries_erase.mp member).1
  · rename_i present
    intro entry member
    rcases OrderedMap.mem_entries_insert.mp member with rfl | ⟨older, _⟩
    · exact present
    · exact nonzero entry older

/-- Neither do several. -/
theorem nonzero_applyLevels {side : OrderedMap Int64 Int64 before} (nonzero : Nonzero side)
    (levels : List Level) (depth : UInt32) : Nonzero (applyLevels levels depth side) := by
  have applied : Nonzero (levels.foldl applyLevel side) := by
    induction levels generalizing side with
    | nil => exact nonzero
    | cons level rest ih => exact ih (nonzero_applyLevel nonzero level)
  rw [applyLevels_eq, ← foldl_applyLevel]
  exact fun entry member =>
    applied entry ((OrderedMap.entries_truncate_sublist _ _).subset member)

/-- A side is within its depth after its levels were applied. -/
theorem within_applyLevels (levels : List Level) (depth : UInt32)
    (side : OrderedMap Int64 Int64 before) : Within depth (applyLevels levels depth side) := by
  rw [applyLevels_eq]
  exact within_truncate depth _

end ApplyLevels

/-- Price to quantity, highest price first. -/
abbrev Bids := OrderedMap Int64 Int64 (· > ·)

/-- Price to quantity, lowest price first. -/
abbrev Asks := OrderedMap Int64 Int64 (· < ·)

/-- A pair's book at one depth, or at `fullDepth`, as its messages leave it. -/
@[ext] structure Book where
  depth : UInt32
  bids : Bids
  asks : Asks
  nonzero : Nonzero bids ∧ Nonzero asks
  within : Within depth bids ∧ Within depth asks

namespace Book

/-- A book without levels. -/
def ofDepth (depth : UInt32) : Book where
  depth := depth
  bids := .empty
  asks := .empty
  nonzero := by
    constructor <;> exact fun entry member => (List.not_mem_nil member).elim
  within := by
    constructor <;> exact fun _ => Nat.zero_le _

/-- Drops every level. -/
def clear (book : Book) : Book := ofDepth book.depth

/-- A snapshot replaces the book, an update sets the levels it carries; either
way what lies beyond the depth is dropped. -/
def apply (book : Book) (message : Message) : Book :=
  let book := if message.type = .snapshot then book.clear else book
  { depth := book.depth
    bids := applyLevels message.buys book.depth book.bids
    asks := applyLevels message.sells book.depth book.asks
    nonzero := ⟨nonzero_applyLevels book.nonzero.1 _ _, nonzero_applyLevels book.nonzero.2 _ _⟩
    within := ⟨within_applyLevels _ _ _, within_applyLevels _ _ _⟩ }

/-- A new book has the depth that it is made with. -/
@[simp] theorem depth_ofDepth (depth : UInt32) : (ofDepth depth).depth = depth := rfl

/-- A message leaves the depth. -/
@[simp] theorem depth_apply (book : Book) (message : Message) :
    (book.apply message).depth = book.depth := by
  unfold apply
  dsimp only
  split <;> rfl

/-- After a snapshot nothing is left of what the book held before. -/
theorem apply_snapshot {book other : Book} {message : Message} (same : book.depth = other.depth)
    (snapshot : message.type = .snapshot) : book.apply message = other.apply message := by
  unfold apply clear
  simp only [snapshot, ↓reduceIte, same]

/-- A message changes a book by its type and levels alone. -/
theorem apply_congr (book : Book) {first second : Message} (type : first.type = second.type)
    (buys : first.buys = second.buys) (sells : first.sells = second.sells) :
    book.apply first = book.apply second := by
  cases first
  cases second
  cases type
  cases buys
  cases sells
  rfl

/-- The bids after a snapshot are those of the snapshot. -/
theorem bids_apply_snapshot (book : Book) {message : Message}
    (snapshot : message.type = .snapshot) :
    (book.apply message).bids =
      (OrderedMap.empty.alterAll (message.buys.map Level.change)).truncate
        (depthLimit book.depth) := by
  simp only [apply, snapshot, ↓reduceIte, applyLevels_eq]
  rfl

/-- So are the asks. -/
theorem asks_apply_snapshot (book : Book) {message : Message}
    (snapshot : message.type = .snapshot) :
    (book.apply message).asks =
      (OrderedMap.empty.alterAll (message.sells.map Level.change)).truncate
        (depthLimit book.depth) := by
  simp only [apply, snapshot, ↓reduceIte, applyLevels_eq]
  rfl

/-- The bids after an update are those before it, changed. -/
theorem bids_apply_update (book : Book) {message : Message} (update : message.type = .update) :
    (book.apply message).bids =
      (book.bids.alterAll (message.buys.map Level.change)).truncate (depthLimit book.depth) := by
  simp only [apply, update, reduceCtorEq, ↓reduceIte, applyLevels_eq]

/-- So are the asks. -/
theorem asks_apply_update (book : Book) {message : Message} (update : message.type = .update) :
    (book.apply message).asks =
      (book.asks.alterAll (message.sells.map Level.change)).truncate (depthLimit book.depth) := by
  simp only [apply, update, reduceCtorEq, ↓reduceIte, applyLevels_eq]

/-- The book a run of messages leaves. -/
def applyAll (book : Book) (messages : List Message) : Book := messages.foldl apply book

/-- Messages are applied one after the other. -/
theorem applyAll_concat (book : Book) (messages : List Message) (message : Message) :
    book.applyAll (messages ++ [message]) = (book.applyAll messages).apply message := by
  simp only [applyAll, List.foldl_append, List.foldl_cons, List.foldl_nil]

/-- Messages leave the depth. -/
@[simp] theorem depth_applyAll (book : Book) (messages : List Message) :
    (book.applyAll messages).depth = book.depth := by
  induction messages using List.reverseRecOn with
  | nil => rfl
  | append_singleton messages message ih => rw [applyAll_concat, depth_apply, ih]

end Book

end DataFeed.L2
