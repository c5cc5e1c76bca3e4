import DataFeed.L2.Book

/-! # What a book holds

A message's levels are set one by one, so the last mention of a price wins, and what a
full book holds is what was said last of each price since the last snapshot
(`bids_applyAll_full`). Where no price is named twice the order of the levels does not
matter, and the levels of a book are a snapshot of it (`apply_listing`).
-/

namespace DataFeed.L2

open Foundation

variable {before : Int64 → Int64 → Prop}

/-- The levels of a side, best first. -/
def listing (side : OrderedMap Int64 Int64 before) : List Level :=
  side.entries.map fun level => ⟨level.1, level.2⟩

/-- What levels say last about a price. -/
def lastQuantity (levels : List Level) (price : Int64) : Option Int64 :=
  (levels.reverse.find? fun level => level.price = price).map Level.quantity

/-- The levels that messages carry for a side since the last snapshot among them. -/
def levelsSince (carried : Message → List Level) (messages : List Message) : List Level :=
  messages.foldl (fun levels message =>
    if message.type = .snapshot then carried message else levels ++ carried message) []

theorem levelsSince_concat (carried : Message → List Level) (messages : List Message)
    (message : Message) :
    levelsSince carried (messages ++ [message]) =
      if message.type = .snapshot then carried message
      else levelsSince carried messages ++ carried message := by
  unfold levelsSince
  rw [List.foldl_append, List.foldl_cons, List.foldl_nil]

theorem lastMention_change (levels : List Level) (price : Int64) :
    OrderedMap.lastMention (levels.map Level.change) price =
      (lastQuantity levels price).map fun quantity =>
        if quantity = 0 then none else some quantity := by
  unfold OrderedMap.lastMention lastQuantity
  rw [← List.map_reverse, List.find?_map, Option.map_map, Option.map_map]
  rfl

section Side

variable [DecidableRel before] [IsStrictTotalOrder Int64 before]

theorem alterAll_append (first second : List (Int64 × Option Int64))
    (side : OrderedMap Int64 Int64 before) :
    side.alterAll (first ++ second) = (side.alterAll first).alterAll second :=
  List.foldl_append

/-- What setting levels one by one leaves of nothing. -/
theorem find?_alterAll_change (levels : List Level) (price quantity : Int64) :
    ((OrderedMap.empty : OrderedMap Int64 Int64 before).alterAll
        (levels.map Level.change)).find? price = some quantity ↔
      lastQuantity levels price = some quantity ∧ quantity ≠ 0 := by
  rw [OrderedMap.find?_alterAll, OrderedMap.find?_empty, lastMention_change]
  cases said : lastQuantity levels price with
  | none => exact iff_of_false (Option.some_ne_none _ ·.symm) (Option.some_ne_none _ ·.1.symm)
  | some other =>
      rw [Option.map_some, Option.getD_some, Option.some_inj]
      by_cases gone : other = 0
      · rw [if_pos gone]
        refine iff_of_false (Option.some_ne_none _ ·.symm) ?_
        rintro ⟨rfl, present⟩
        exact present gone
      · rw [if_neg gone, Option.some_inj]
        constructor
        · rintro rfl
          exact ⟨rfl, gone⟩
        · exact And.left

omit [DecidableRel before] [IsStrictTotalOrder Int64 before] in
/-- A side within the depth is not cut back. -/
theorem truncate_of_within {depth : UInt32} {side : OrderedMap Int64 Int64 before}
    (within : Within depth side) : side.truncate (depthLimit depth) = side := by
  unfold depthLimit
  split
  · rfl
  · rename_i limited
    exact OrderedMap.take_of_size_le (within limited)

/-- Setting the levels of a side, in any order, rebuilds it. -/
theorem alterAll_listing {side : OrderedMap Int64 Int64 before} (nonzero : Nonzero side)
    {levels : List Level} (same : levels.Perm (listing side)) :
    (OrderedMap.empty : OrderedMap Int64 Int64 before).alterAll (levels.map Level.change) =
      side := by
  have entries : (levels.map fun level => (level.price, level.quantity)).Perm side.entries := by
    refine (same.map _).trans (List.Perm.of_eq ?_)
    unfold listing
    rw [List.map_map]
    exact List.map_id _
  have changes : levels.map Level.change =
      (levels.map fun level => (level.price, level.quantity)).map fun entry =>
        (entry.1, some entry.2) := by
    rw [List.map_map]
    refine List.map_congr_left fun level member => ?_
    have present : level.quantity ≠ 0 :=
      nonzero _ (entries.mem_iff.mp (List.mem_map.mpr ⟨level, member, rfl⟩))
    unfold Level.change
    rw [if_neg present]
    rfl
  rw [changes, OrderedMap.alterAll_of_perm entries]

end Side

namespace Book

/-- Two messages with the same levels, in whatever order, do the same to a book, if no
price is named twice on a side. -/
theorem apply_perm (book : Book) {message shuffled : Message} (type : message.type = shuffled.type)
    (buys : message.buys.Perm shuffled.buys) (sells : message.sells.Perm shuffled.sells)
    (buys_once : (message.buys.map Level.price).Nodup)
    (sells_once : (message.sells.map Level.price).Nodup) :
    book.apply message = book.apply shuffled := by
  have keys (levels : List Level) :
      (levels.map Level.change).map Prod.fst = levels.map Level.price := List.map_map
  have bids (side : Bids) : side.alterAll (message.buys.map Level.change) =
      side.alterAll (shuffled.buys.map Level.change) :=
    OrderedMap.alterAll_perm (keys _ ▸ buys_once) (buys.map _) side
  have asks (side : Asks) : side.alterAll (message.sells.map Level.change) =
      side.alterAll (shuffled.sells.map Level.change) :=
    OrderedMap.alterAll_perm (keys _ ▸ sells_once) (sells.map _) side
  cases kind : message.type with
  | snapshot =>
      have also := type ▸ kind
      apply Book.ext
      · rw [depth_apply, depth_apply]
      · rw [bids_apply_snapshot book kind, bids_apply_snapshot book also, bids]
      · rw [asks_apply_snapshot book kind, asks_apply_snapshot book also, asks]
  | update =>
      have also := type ▸ kind
      apply Book.ext
      · rw [depth_apply, depth_apply]
      · rw [bids_apply_update book kind, bids_apply_update book also, bids]
      · rw [asks_apply_update book kind, asks_apply_update book also, asks]

/-- A snapshot that lists a book's levels, in whatever order, makes any book of its depth
that book. -/
theorem apply_listing (book other : Book) (depth : other.depth = book.depth) {message : Message}
    (snapshot : message.type = .snapshot) (buys : message.buys.Perm (listing book.bids))
    (sells : message.sells.Perm (listing book.asks)) : other.apply message = book := by
  apply Book.ext
  · rw [depth_apply, depth]
  · rw [bids_apply_snapshot other snapshot, alterAll_listing book.nonzero.1 buys, depth,
      truncate_of_within book.within.1]
  · rw [asks_apply_snapshot other snapshot, alterAll_listing book.nonzero.2 sells, depth,
      truncate_of_within book.within.2]

/-- The sides of a full book are what its messages say since the last snapshot, set one by
one. -/
theorem sides_applyAll_full (messages : List Message) :
    let book := (ofDepth fullDepth).applyAll messages
    book.bids = OrderedMap.empty.alterAll ((levelsSince Message.buys messages).map Level.change) ∧
      book.asks =
        OrderedMap.empty.alterAll ((levelsSince Message.sells messages).map Level.change) := by
  induction messages using List.reverseRecOn with
  | nil => exact ⟨rfl, rfl⟩
  | append_singleton messages message ih =>
      obtain ⟨bids, asks⟩ := ih
      have full : depthLimit ((ofDepth fullDepth).applyAll messages).depth = none := by
        rw [depth_applyAll]
        rfl
      dsimp only
      rw [applyAll_concat, levelsSince_concat, levelsSince_concat]
      cases kind : message.type with
      | snapshot =>
          rw [bids_apply_snapshot _ kind, asks_apply_snapshot _ kind, full]
          exact ⟨rfl, rfl⟩
      | update =>
          rw [bids_apply_update _ kind, asks_apply_update _ kind, full, bids, asks]
          simp only [reduceCtorEq, ↓reduceIte, OrderedMap.truncate_none, List.map_append,
            alterAll_append, and_self]

/-- **What a book holds.** Whatever messages come, with whatever levels: both sides are best
first, without empty levels and within the depth; a full book holds what was said last of
each price since the last snapshot; the order of levels with different prices does not
matter; and a snapshot of the book makes any book of its depth that book. -/
theorem applyAll_laws (depth : UInt32) (messages : List Message) :
    let book := (ofDepth depth).applyAll messages
    (book.bids.entries.Pairwise (fun better worse => better.1 > worse.1) ∧
        book.asks.entries.Pairwise (fun better worse => better.1 < worse.1)) ∧
      (∀ level ∈ book.bids.entries ++ book.asks.entries, level.2 ≠ 0) ∧
      (depth ≠ fullDepth →
        book.bids.entries.length ≤ depth.toNat ∧ book.asks.entries.length ≤ depth.toNat) ∧
      (depth = fullDepth → ∀ price quantity,
        (book.bids.find? price = some quantity ↔
          lastQuantity (levelsSince Message.buys messages) price = some quantity ∧
            quantity ≠ 0) ∧
        (book.asks.find? price = some quantity ↔
          lastQuantity (levelsSince Message.sells messages) price = some quantity ∧
            quantity ≠ 0)) ∧
      (∀ message shuffled : Message, message.type = shuffled.type →
        message.buys.Perm shuffled.buys → message.sells.Perm shuffled.sells →
        (message.buys.map Level.price).Nodup → (message.sells.map Level.price).Nodup →
          book.apply message = book.apply shuffled) ∧
      ∀ (other : Book) (message : Message), other.depth = depth → message.type = .snapshot →
        message.buys.Perm (listing book.bids) → message.sells.Perm (listing book.asks) →
          other.apply message = book := by
  intro book
  have same : book.depth = depth := depth_applyAll _ _
  refine ⟨⟨book.bids.ordered, book.asks.ordered⟩, ?_, ?_, ?_, ?_, ?_⟩
  · intro level member
    rcases List.mem_append.mp member with bid | ask
    · exact book.nonzero.1 level bid
    · exact book.nonzero.2 level ask
  · intro limited
    have within := book.within
    rw [same] at within
    exact ⟨within.1 limited, within.2 limited⟩
  · rintro rfl price quantity
    obtain ⟨bids, asks⟩ := sides_applyAll_full messages
    rw [bids, asks]
    exact ⟨find?_alterAll_change _ price quantity, find?_alterAll_change _ price quantity⟩
  · intro message shuffled type buys sells buys_once sells_once
    exact book.apply_perm type buys sells buys_once sells_once
  · intro other message depth snapshot buys sells
    exact book.apply_listing other (depth.trans same.symm) snapshot buys sells

end Book

end DataFeed.L2
