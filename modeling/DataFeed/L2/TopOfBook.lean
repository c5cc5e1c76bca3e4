import DataFeed.L2.Book

/-! # A depth-limited book follows the venue's full one

A venue streaming a pair at a depth sends the levels that move into the best
ones and the levels it no longer holds, but nothing for a level that is merely
pushed beyond the depth. `VenueBook` is the venue's full book, `SideUpdate` says
exactly which levels such a message carries, and the book kept by `Book.apply`
is at every point the venue's full book cut at the depth.
-/

namespace DataFeed.L2

open Foundation

/-- The full book of a pair, as the venue holds it. -/
structure VenueBook where
  bids : Bids
  asks : Asks
  nonzero : Nonzero bids ∧ Nonzero asks

section Side

variable {before : Int64 → Int64 → Prop}

/-- The best levels of a side at a depth: the whole side at `fullDepth`. -/
def best (depth : UInt32) (side : OrderedMap Int64 Int64 before) :
    OrderedMap Int64 Int64 before :=
  side.truncate (depthLimit depth)

/-- The levels of a snapshot of a side: its best ones, in any order. -/
structure SideSnapshot (depth : UInt32) (side : OrderedMap Int64 Int64 before)
    (levels : List Level) : Prop where
  once : (levels.map Level.price).Nodup
  carries : ∀ level, level ∈ levels ↔ (best depth side).find? level.price = some level.quantity

/-- The levels of an update that takes a side from `old` to `new`, in any
order: every level of the new best ones that the old best ones did not hold with
that quantity, and quantity zero for every level of the old best ones that the
venue no longer holds. -/
structure SideUpdate (depth : UInt32) (old new : OrderedMap Int64 Int64 before)
    (levels : List Level) : Prop where
  once : (levels.map Level.price).Nodup
  carries : ∀ level, level ∈ levels ↔
    ((best depth new).find? level.price = some level.quantity ∧
      (best depth old).find? level.price ≠ some level.quantity) ∨
    (level.quantity = 0 ∧ (best depth old).find? level.price ≠ none ∧
      new.find? level.price = none)

/-- At full depth the best of a side is the side. -/
theorem best_fullDepth (side : OrderedMap Int64 Int64 before) : best fullDepth side = side := by
  simp only [best, depthLimit, ↓reduceIte, OrderedMap.truncate_none]

/-- At a limited depth the best of a side is its first levels. -/
theorem best_of_limited {depth : UInt32} (limited : depth ≠ fullDepth)
    (side : OrderedMap Int64 Int64 before) : best depth side = side.take depth.toNat := by
  simp only [best, depthLimit, limited, ↓reduceIte, OrderedMap.truncate]

/-- The best levels of a side without zeros are without zeros. -/
theorem Nonzero.best {side : OrderedMap Int64 Int64 before} (nonzero : Nonzero side)
    (depth : UInt32) : Nonzero (best depth side) :=
  fun entry member => nonzero entry ((OrderedMap.entries_truncate_sublist _ _).subset member)

variable [DecidableRel before] [IsStrictTotalOrder Int64 before]

omit [DecidableRel before] [IsStrictTotalOrder Int64 before] in
/-- The changes of levels are at the prices of the levels. -/
theorem map_fst_change (levels : List Level) :
    (levels.map Level.change).map Prod.fst = levels.map Level.price := by
  rw [List.map_map]
  rfl

omit [DecidableRel before] [IsStrictTotalOrder Int64 before] in
/-- A level sets a quantity if it is one with that quantity, not zero. -/
theorem mem_map_change_some {levels : List Level} {price quantity : Int64} :
    (price, some quantity) ∈ levels.map Level.change ↔
      quantity ≠ 0 ∧ ⟨price, quantity⟩ ∈ levels := by
  rw [List.mem_map]
  constructor
  · rintro ⟨level, member, same⟩
    obtain ⟨rfl, value⟩ := Prod.ext_iff.mp same
    simp only [Level.change] at value
    split at value
    · exact (Option.some_ne_none _ value.symm).elim
    · rename_i present
      obtain rfl := Option.some.inj value
      exact ⟨present, member⟩
  · rintro ⟨present, member⟩
    exact ⟨_, member, by simp only [Level.change, present, ↓reduceIte]⟩

omit [DecidableRel before] [IsStrictTotalOrder Int64 before] in
/-- A level erases a price if its quantity is zero. -/
theorem mem_map_change_none {levels : List Level} {price : Int64} :
    (price, none) ∈ levels.map Level.change ↔ ⟨price, 0⟩ ∈ levels := by
  rw [List.mem_map]
  constructor
  · rintro ⟨level, member, same⟩
    obtain ⟨rfl, value⟩ := Prod.ext_iff.mp same
    simp only [Level.change] at value
    split at value
    · rename_i absent
      exact absent ▸ member
    · exact (Option.some_ne_none _ value).elim
  · exact fun member => ⟨_, member, by simp only [Level.change, ↓reduceIte]⟩

omit [DecidableRel before] in
/-- A side without zeros finds no zero quantity. -/
theorem find?_ne_zero {side : OrderedMap Int64 Int64 before} (nonzero : Nonzero side)
    {price : Int64} : side.find? price ≠ some 0 :=
  fun found => nonzero _ (OrderedMap.find?_eq_some_iff.mp found) rfl

omit [DecidableRel before] in
/-- A side update is a list of changes of the view the depth gives. -/
theorem SideUpdate.viewChanges {depth : UInt32} {old new : OrderedMap Int64 Int64 before}
    {levels : List Level} (update : SideUpdate depth old new levels) (nonzero : Nonzero new) :
    OrderedMap.ViewChanges (depthLimit depth) old new (levels.map Level.change) where
  once := by
    rw [map_fst_change]
    exact update.once
  sets price quantity := by
    rw [mem_map_change_some, update.carries]
    constructor
    · rintro ⟨present, carried | ⟨absent, _⟩⟩
      · exact carried
      · exact (present absent).elim
    · intro carried
      refine ⟨?_, Or.inl carried⟩
      rintro rfl
      exact find?_ne_zero (nonzero.best depth) carried.1
  removes price := by
    rw [mem_map_change_none, update.carries]
    constructor
    · rintro (⟨carried, _⟩ | ⟨_, removed⟩)
      · exact (find?_ne_zero (nonzero.best depth) carried).elim
      · exact removed
    · exact fun removed => Or.inr ⟨rfl, removed⟩

omit [DecidableRel before] in
/-- A snapshot lists the changes that build the view from nothing. -/
theorem SideSnapshot.viewChanges {depth : UInt32} {side : OrderedMap Int64 Int64 before}
    {levels : List Level} (snapshot : SideSnapshot depth side levels) (nonzero : Nonzero side) :
    OrderedMap.ViewChanges (depthLimit depth) .empty side (levels.map Level.change) := by
  refine ⟨?_, ?_, ?_⟩
  · rw [map_fst_change]
    exact snapshot.once
  · intro price quantity
    rw [mem_map_change_some, snapshot.carries, OrderedMap.truncate_empty, OrderedMap.find?_empty]
    constructor
    · exact fun carried => ⟨carried.2, (Option.some_ne_none _).symm⟩
    · intro carried
      refine ⟨?_, carried.1⟩
      rintro rfl
      exact find?_ne_zero (nonzero.best depth) carried.1
  · intro price
    rw [mem_map_change_none, snapshot.carries, OrderedMap.truncate_empty, OrderedMap.find?_empty]
    exact ⟨fun carried => (find?_ne_zero (nonzero.best depth) carried).elim,
      fun removed => (removed.1 rfl).elim⟩

end Side

/-- `message` is the venue's snapshot of its book at the depth. -/
structure IsSnapshot (depth : UInt32) (venue : VenueBook) (message : Message) : Prop where
  type : message.type = .snapshot
  bids : SideSnapshot depth venue.bids message.buys
  asks : SideSnapshot depth venue.asks message.sells

/-- `message` is the update the venue sends at the depth when its book changes
from `old` to `new`. -/
structure IsUpdate (depth : UInt32) (old new : VenueBook) (message : Message) : Prop where
  type : message.type = .update
  bids : SideUpdate depth old.bids new.bids message.buys
  asks : SideUpdate depth old.asks new.asks message.sells

/-- A run of changes of the venue's book, each with the update sent for it. -/
def IsUpdateRun (depth : UInt32) : VenueBook → List (Message × VenueBook) → Prop
  | _, [] => True
  | venue, (message, next) :: rest =>
      IsUpdate depth venue next message ∧ IsUpdateRun depth next rest

/-- The venue's book after a run of changes. -/
def venueAfter (venue : VenueBook) (run : List (Message × VenueBook)) : VenueBook :=
  run.foldl (fun _ change => change.2) venue

/-- The local book holds exactly the best levels of the venue's. -/
structure Book.Tracks (book : Book) (venue : VenueBook) : Prop where
  bids : book.bids = best book.depth venue.bids
  asks : book.asks = best book.depth venue.asks

/-- After a snapshot of the venue's book the book tracks it. -/
theorem Book.tracks_of_snapshot {book : Book} {venue : VenueBook} {message : Message}
    (snapshot : IsSnapshot book.depth venue message) : (book.apply message).Tracks venue := by
  have bids := OrderedMap.truncate_alterAll (snapshot.bids.viewChanges venue.nonzero.1)
  have asks := OrderedMap.truncate_alterAll (snapshot.asks.viewChanges venue.nonzero.2)
  rw [OrderedMap.truncate_empty] at bids asks
  constructor
  · rw [bids_apply_snapshot book snapshot.type, depth_apply]
    exact bids
  · rw [asks_apply_snapshot book snapshot.type, depth_apply]
    exact asks

/-- One update keeps the local book at the venue's best levels. -/
theorem Book.Tracks.apply {book : Book} {old new : VenueBook} {message : Message}
    (tracks : book.Tracks old) (update : IsUpdate book.depth old new message) :
    (book.apply message).Tracks new := by
  constructor
  · rw [bids_apply_update book update.type, depth_apply, tracks.bids]
    exact OrderedMap.truncate_alterAll (update.bids.viewChanges new.nonzero.1)
  · rw [asks_apply_update book update.type, depth_apply, tracks.asks]
    exact OrderedMap.truncate_alterAll (update.asks.viewChanges new.nonzero.2)

/-- A run of updates keeps the local book at the venue's best levels. -/
theorem Book.Tracks.applyAll {book : Book} {venue : VenueBook}
    {run : List (Message × VenueBook)} (tracks : book.Tracks venue)
    (sent : IsUpdateRun book.depth venue run) :
    (book.applyAll (run.map Prod.fst)).Tracks (venueAfter venue run) := by
  induction run generalizing book venue with
  | nil => exact tracks
  | cons change rest ih =>
      obtain ⟨first, later⟩ := sent
      rw [← book.depth_apply change.1] at later
      exact ih (tracks.apply first) later

/-- The first updates of a run are a run. -/
theorem isUpdateRun_of_append {depth : UInt32} {venue : VenueBook}
    {done rest : List (Message × VenueBook)} (sent : IsUpdateRun depth venue (done ++ rest)) :
    IsUpdateRun depth venue done := by
  induction done generalizing venue with
  | nil => trivial
  | cons change done ih => exact ⟨sent.1, ih sent.2⟩

section Canonical

variable {before : Int64 → Int64 → Prop} [DecidableRel before] [IsStrictTotalOrder Int64 before]

/-- The levels of the update for a side's change, best first, removals last. -/
def updateLevels (depth : UInt32) (old new : OrderedMap Int64 Int64 before) : List Level :=
  ((best depth new).entries.filter fun entry =>
      (best depth old).find? entry.1 ≠ some entry.2).map (fun entry => ⟨entry.1, entry.2⟩) ++
    ((best depth old).entries.filter fun entry => new.find? entry.1 = none).map
      fun entry => ⟨entry.1, 0⟩

omit [DecidableRel before] in
/-- Every change of a side has an update. -/
theorem sideUpdate_updateLevels (depth : UInt32) (old new : OrderedMap Int64 Int64 before) :
    SideUpdate depth old new (updateLevels depth old new) where
  once := by
    unfold updateLevels
    rw [List.map_append, List.map_map, List.map_map, List.nodup_append]
    refine ⟨(best depth new).keys_nodup.sublist (List.filter_sublist.map _),
      (best depth old).keys_nodup.sublist (List.filter_sublist.map _), ?_⟩
    intro price set other removed same
    obtain ⟨entry, kept, rfl⟩ := List.mem_map.mp set
    obtain ⟨gone, dropped, rfl⟩ := List.mem_map.mp removed
    have held : (best depth new).find? entry.1 = some entry.2 :=
      OrderedMap.find?_eq_some_iff.mpr (List.mem_filter.mp kept).1
    have absent : new.find? gone.1 = none := of_decide_eq_true (List.mem_filter.mp dropped).2
    change entry.1 = gone.1 at same
    rw [← same, OrderedMap.find?_of_find?_truncate held] at absent
    exact Option.some_ne_none _ absent
  carries level := by
    obtain ⟨price, quantity⟩ := level
    simp only [updateLevels, List.mem_append, List.mem_map, List.mem_filter, decide_eq_true_eq,
      Level.mk.injEq, Prod.exists, ← OrderedMap.find?_eq_some_iff]
    apply or_congr
    · constructor
      · rintro ⟨_, _, carried, rfl, rfl⟩
        exact carried
      · exact fun carried => ⟨price, quantity, carried, rfl, rfl⟩
    · constructor
      · rintro ⟨_, _, ⟨held, absent⟩, rfl, rfl⟩
        exact ⟨rfl, held ▸ Option.some_ne_none _, absent⟩
      · rintro ⟨rfl, held, absent⟩
        obtain ⟨stored, found⟩ := Option.ne_none_iff_exists'.mp held
        exact ⟨price, stored, ⟨found, absent⟩, rfl, rfl⟩

/-- The levels of a side's snapshot, best first. -/
def snapshotLevels (depth : UInt32) (side : OrderedMap Int64 Int64 before) : List Level :=
  (best depth side).entries.map fun entry => ⟨entry.1, entry.2⟩

omit [DecidableRel before] in
/-- Every side has a snapshot. -/
theorem sideSnapshot_snapshotLevels (depth : UInt32) (side : OrderedMap Int64 Int64 before) :
    SideSnapshot depth side (snapshotLevels depth side) where
  once := by
    unfold snapshotLevels
    rw [List.map_map]
    exact (best depth side).keys_nodup
  carries level := by
    obtain ⟨price, quantity⟩ := level
    simp only [snapshotLevels, List.mem_map, Level.mk.injEq, Prod.exists,
      ← OrderedMap.find?_eq_some_iff]
    constructor
    · rintro ⟨_, _, found, rfl, rfl⟩
      exact found
    · exact fun found => ⟨price, quantity, found, rfl, rfl⟩

end Canonical

namespace VenueBook

/-- The book the venue holds once it has set these levels one after another. -/
def ofLevels (buys sells : List Level) : VenueBook where
  bids := applyLevels buys fullDepth .empty
  asks := applyLevels sells fullDepth .empty
  nonzero := ⟨nonzero_applyLevels (fun _ member => (List.not_mem_nil member).elim) _ _,
    nonzero_applyLevels (fun _ member => (List.not_mem_nil member).elim) _ _⟩

/-- A snapshot of the venue's book at a depth. -/
def snapshot (venue : VenueBook) (depth : UInt32) (symbol : String) : Message where
  type := .snapshot
  checksum := 0
  venueTimeNs := 0
  captureTimeNs := 0
  symbol := symbol
  buys := snapshotLevels depth venue.bids
  sells := snapshotLevels depth venue.asks

/-- The update for a change of the venue's book at a depth. -/
def update (old new : VenueBook) (depth : UInt32) (symbol : String) : Message where
  type := .update
  checksum := 0
  venueTimeNs := 0
  captureTimeNs := 0
  symbol := symbol
  buys := updateLevels depth old.bids new.bids
  sells := updateLevels depth old.asks new.asks

/-- The snapshot the venue sends is one. -/
theorem isSnapshot_snapshot (venue : VenueBook) (depth : UInt32) (symbol : String) :
    IsSnapshot depth venue (venue.snapshot depth symbol) :=
  ⟨rfl, sideSnapshot_snapshotLevels _ _, sideSnapshot_snapshotLevels _ _⟩

/-- The update the venue sends is one. -/
theorem isUpdate_update (old new : VenueBook) (depth : UInt32) (symbol : String) :
    IsUpdate depth old new (old.update new depth symbol) :=
  ⟨rfl, sideUpdate_updateLevels _ _ _, sideUpdate_updateLevels _ _ _⟩

end VenueBook

/-- **A depth-limited book tracks the top of the venue's full book.** Started
from the venue's snapshot and given every update the venue sends, the local book
is after each of them the venue's full book cut at the depth, and the whole of it
at `fullDepth`. -/
theorem depth_limited_book_tracks_venue (book : Book) (venue : VenueBook) (snapshot : Message)
    (opens : IsSnapshot book.depth venue snapshot) (run : List (Message × VenueBook))
    (sent : IsUpdateRun book.depth venue run) :
    ∀ done rest, run = done ++ rest →
      let followed := (book.apply snapshot).applyAll (done.map Prod.fst)
      let full := venueAfter venue done
      (book.depth ≠ fullDepth →
        followed.bids = full.bids.take book.depth.toNat ∧
          followed.asks = full.asks.take book.depth.toNat) ∧
      (book.depth = fullDepth → followed.bids = full.bids ∧ followed.asks = full.asks) := by
  rintro done rest rfl followed full
  have started := Book.tracks_of_snapshot opens
  have continued : IsUpdateRun (book.apply snapshot).depth venue done := by
    rw [Book.depth_apply]
    exact isUpdateRun_of_append sent
  have tracks : followed.Tracks full := started.applyAll continued
  have depth : followed.depth = book.depth := by rw [Book.depth_applyAll, Book.depth_apply]
  constructor
  · intro limited
    rw [tracks.bids, tracks.asks, depth, best_of_limited limited, best_of_limited limited]
    exact ⟨rfl, rfl⟩
  · intro whole
    rw [tracks.bids, tracks.asks, depth, whole, best_fullDepth, best_fullDepth]
    exact ⟨rfl, rfl⟩

/-- At depth two a better bid pushes one out, and removing it brings that one
back from the venue. -/
theorem depth_limited_book_tracks_venue_pushed_out :
    let first := VenueBook.ofLevels [⟨10, 1⟩, ⟨9, 2⟩, ⟨8, 3⟩] [⟨12, 1⟩]
    let second := VenueBook.ofLevels [⟨11, 4⟩, ⟨10, 1⟩, ⟨9, 2⟩, ⟨8, 3⟩] [⟨12, 1⟩]
    let third := VenueBook.ofLevels [⟨10, 1⟩, ⟨9, 5⟩, ⟨8, 3⟩] [⟨12, 1⟩]
    (((Book.ofDepth 2).apply (first.snapshot 2 "BTC/USD")).applyAll
        [first.update second 2 "BTC/USD", second.update third 2 "BTC/USD"]).bids.entries =
      [(10, 1), (9, 5)] := by
  intro first second third
  have tracked := (depth_limited_book_tracks_venue (.ofDepth 2) first (first.snapshot 2 "BTC/USD")
    (first.isSnapshot_snapshot 2 "BTC/USD")
    [(first.update second 2 "BTC/USD", second), (second.update third 2 "BTC/USD", third)]
    ⟨first.isUpdate_update second 2 "BTC/USD", second.isUpdate_update third 2 "BTC/USD", trivial⟩
    _ [] (List.append_nil _).symm).1 (by decide)
  rw [List.map_cons, List.map_cons, List.map_nil] at tracked
  rw [tracked.1]
  decide

end DataFeed.L2
