import DataFeed.Foundation.Transition
import DataFeed.Coinbase.L2Decoder
import DataFeed.Frontend.Convergence
import DataFeed.Kraken.L2Decoder

/-! # The order of the levels on the wire

A book on the wire lists its levels best first, and a snapshot holds no more than the
stream's depth and no empty level. The snapshots that a stream builds are of this shape
(`bestFirst_snapshotLocked`). A message is sent on with its levels as they came, so it is if
and only if the venue sent it so (`books_bestFirst_iff`).
-/

namespace DataFeed.Frontend

open Foundation L2 Venue DataFeed.Core

/-- What the wire promises of a book. -/
structure Wire.Book.BestFirst (depth : UInt32) (book : Wire.Book) : Prop where
  bids : book.bids.Pairwise fun first second => first.price > second.price
  asks : book.asks.Pairwise fun first second => first.price < second.price
  filled : book.kind = .snapshot → ∀ level ∈ book.bids ++ book.asks, level.quantity ≠ 0
  within : book.kind = .snapshot → depth ≠ 0 →
    book.bids.length ≤ depth.toNat ∧ book.asks.length ≤ depth.toNat

/-- A message has its levels best first; a snapshot has no empty ones, and no more than the
depth. -/
structure Ordered (depth : UInt32) (message : Message) : Prop where
  buys : message.buys.Pairwise fun first second => first.price > second.price
  sells : message.sells.Pairwise fun first second => first.price < second.price
  filled : message.type = .snapshot →
    ∀ level ∈ message.buys ++ message.sells, level.quantity ≠ 0
  within : message.type = .snapshot → depth ≠ 0 →
    message.buys.length ≤ depth.toNat ∧ message.sells.length ≤ depth.toNat

/-- A message that one of the decoders emits. -/
def FromFrame (message : Message) : Prop :=
  ∃ (scale : String → UInt32 → Int64) (parse : String → Option Json) (frame : Net.RawFrame)
    (precision : PairPrecision), Scales scale ∧
      ((∃ decoder,
          Decoding.Emits none (Kraken.decode scale parse decoder frame) precision message) ∨
        ∃ decoder,
          Decoding.Emits none (Coinbase.decode scale parse decoder frame) precision message)

/-- A message is on the wire as it came. -/
theorem bestFirst_makeBook_iff (depth : UInt32) (id : SubscriptionId) (message : Message) :
    (makeBook id message).BestFirst depth ↔ Ordered depth message := by
  have kind : (makeBook id message).kind = .snapshot ↔ message.type = .snapshot := by
    unfold makeBook
    dsimp only
    split
    · rename_i snapshot
      exact iff_of_true rfl snapshot
    · rename_i update
      exact iff_of_false (fun same => by cases same) update
  constructor
  · intro best
    exact ⟨best.bids, best.asks, fun snapshot => best.filled (kind.mpr snapshot),
      fun snapshot => best.within (kind.mpr snapshot)⟩
  · intro ordered
    exact ⟨ordered.buys, ordered.sells, fun snapshot => ordered.filled (kind.mp snapshot),
      fun snapshot => ordered.within (kind.mp snapshot)⟩

namespace Stream

variable {stream : Stream} {watcher : WatcherId} {book : Wire.Book} {calls : List Call}
  {start : Stream × List Sending}

/-- **The snapshots that are built are as promised.** -/
theorem bestFirst_snapshotLocked (stream : Stream) :
    stream.snapshotLocked.BestFirst stream.spec.depth := by
  refine ⟨?_, ?_, fun _ => ?_, fun _ limited => ?_⟩
  · exact List.pairwise_map.mpr stream.book.bids.ordered
  · exact List.pairwise_map.mpr stream.book.asks.ordered
  · intro level member
    rcases List.mem_append.mp member with bid | ask
    · obtain ⟨entry, listed, rfl⟩ := List.mem_map.mp bid
      exact stream.book.nonzero.1 entry listed
    · obtain ⟨entry, listed, rfl⟩ := List.mem_map.mp ask
      exact stream.book.nonzero.2 entry listed
  · have within := stream.book.within
    rw [stream.depth_book] at within
    unfold snapshotLocked
    rw [List.length_map, List.length_map]
    exact ⟨within.1 limited, within.2 limited⟩

theorem mem_sendLocked {payload sent : Payload} :
    (watcher, sent) ∈ stream.sendLocked payload ↔ watcher ∈ stream.watchers ∧ sent = payload := by
  unfold sendLocked
  rw [List.mem_map]
  constructor
  · rintro ⟨other, member, same⟩
    cases same
    exact ⟨member, rfl⟩
  · rintro ⟨member, rfl⟩
    exact ⟨watcher, member, rfl⟩

/-- The status of a gap is no book. -/
def TellsStatus (stream : Stream) : Prop := ∀ book, stream.gapStatus ≠ some (.book book)

/-- What a call leaves as it is. -/
theorem kept_call (status : stream.TellsStatus) (call : Call) :
    (stream.call call).1.id = stream.id ∧ (stream.call call).1.spec = stream.spec ∧
      (stream.call call).1.TellsStatus := by
  cases call with
  | receive message => exact ⟨rfl, rfl, status⟩
  | interrupt gap =>
      refine ⟨rfl, rfl, fun book told => ?_⟩
      have payload := Option.some.inj told
      split at payload <;> cases payload
  | watch other => exact ⟨rfl, rfl, status⟩
  | unwatch other => exact ⟨rfl, rfl, status⟩

/-- The books that a call sends: a message that was received, or a snapshot. -/
theorem book_of_call (status : stream.TellsStatus) {call : Call}
    (sent : (watcher, .book book) ∈ (stream.call call).2) :
    (∃ message, call = .receive message ∧ stream.watchers ≠ [] ∧
        book = makeBook stream.id message) ∨
      book = stream.snapshotLocked := by
  cases call with
  | receive message =>
      rcases List.mem_append.mp sent with status | forwarded
      · split at status
        · cases (mem_sendLocked.mp status).2
        · cases status
      · obtain ⟨member, same⟩ := mem_sendLocked.mp forwarded
        exact .inl ⟨message, rfl, List.ne_nil_of_mem member, Payload.book.inj same⟩
  | interrupt gap =>
      have status := (mem_sendLocked.mp sent).2
      split at status <;> cases status
  | watch other =>
      obtain ⟨payload, opened, same⟩ := List.mem_map.mp sent
      cases same
      rcases List.mem_cons.mp opened with info | opened
      · cases info
      · unfold opening at opened
        split at opened
        · have told := List.mem_singleton.mp opened
          exact absurd (Option.eq_some_of_isSome _ |>.trans (congrArg some told.symm)) (status book)
        · split at opened
          · exact .inr (Payload.book.inj (List.mem_singleton.mp opened))
          · cases opened
  | unwatch other => cases sent

/-- A message is sent to whoever watches. -/
theorem forwards (stream : Stream) (message : Message) (watched : stream.watchers ≠ []) :
    ∃ watcher, (watcher, .book (makeBook stream.id message)) ∈
      (stream.call (.receive message)).2 := by
  obtain ⟨watcher, member⟩ := List.exists_mem_of_ne_nil _ watched
  exact ⟨watcher, List.mem_append_right _ (mem_sendLocked.mpr ⟨member, rfl⟩)⟩

/-- A call's books are as promised if the message is, where one is sent on. -/
theorem call_bestFirst_iff (status : stream.TellsStatus) (call : Call) :
    (∀ watcher book, (watcher, .book book) ∈ (stream.call call).2 →
        book.BestFirst stream.spec.depth) ↔
      ∀ message, call = .receive message → stream.watchers ≠ [] →
        Ordered stream.spec.depth message := by
  constructor
  · rintro best message rfl watched
    obtain ⟨watcher, sent⟩ := stream.forwards message watched
    exact (bestFirst_makeBook_iff _ _ message).mp (best watcher _ sent)
  · intro ordered watcher book sent
    rcases book_of_call status sent with ⟨message, received, watched, rfl⟩ | rfl
    · exact (bestFirst_makeBook_iff _ _ message).mpr (ordered message received watched)
    · exact stream.bestFirst_snapshotLocked

theorem after_concat (calls : List Call) (call : Call) (start : Stream × List Sending) :
    after (calls ++ [call]) start = (((after calls start).1.call call).1,
      (after calls start).2 ++ ((after calls start).1.call call).2) := by
  unfold after
  rw [List.foldl_append, List.foldl_cons, List.foldl_nil]

theorem kept_after (status : start.1.TellsStatus) (calls : List Call) :
    (after calls start).1.id = start.1.id ∧ (after calls start).1.spec = start.1.spec ∧
      (after calls start).1.TellsStatus := by
  induction calls using List.reverseRecOn with
  | nil => exact ⟨rfl, rfl, status⟩
  | append_singleton calls call ih =>
      obtain ⟨id, spec, status⟩ := ih
      obtain ⟨id', spec', status'⟩ := kept_call status call
      rw [after_concat]
      exact ⟨id'.trans id, spec'.trans spec, status'⟩

/-- What is sent in a run is sent by one of its calls. -/
theorem mem_after_iff {sending : Sending} :
    sending ∈ (after calls start).2 ↔ sending ∈ start.2 ∨
      ∃ before call rest, calls = before ++ call :: rest ∧
        sending ∈ ((after before start).1.call call).2 := by
  induction calls using List.reverseRecOn with
  | nil =>
      constructor
      · exact .inl
      · rintro (sent | ⟨before, call, rest, same, _⟩)
        · exact sent
        · cases before <;> cases same
  | append_singleton calls last ih =>
      rw [after_concat, List.mem_append, ih]
      constructor
      · rintro ((earlier | ⟨before, call, rest, rfl, sent⟩) | sent)
        · exact .inl earlier
        · exact .inr ⟨before, call, rest ++ [last], List.append_assoc .., sent⟩
        · exact .inr ⟨calls, last, [], rfl, sent⟩
      · rintro (earlier | ⟨before, call, rest, same, sent⟩)
        · exact .inl (.inl earlier)
        · obtain ⟨rfl, rfl, _⟩ | ⟨rest, _, before_last⟩ := last_or_before same
          · exact .inr sent
          · exact .inl (.inr ⟨before, call, rest, before_last, sent⟩)

/-- **When the books on the wire are best first.** In every run of a stream, all books that it
sends are as promised if and only if every message that it receives while somebody watches has
its levels so. -/
theorem books_bestFirst_iff (id : SubscriptionId) (venue : String) (spec : BookSpec)
    (precision : PairPrecision) (calls : List Call) :
    (∀ watcher book,
        (watcher, .book book) ∈ (after calls (new id venue spec precision, [])).2 →
          book.BestFirst spec.depth) ↔
      ∀ before message rest, calls = before ++ .receive message :: rest →
        (after before (new id venue spec precision, [])).1.watchers ≠ [] →
          Ordered spec.depth message := by
  have status : (new id venue spec precision).TellsStatus := fun book told => by cases told
  have each : ∀ before, _ := fun before =>
    @kept_after (new id venue spec precision, []) status before
  constructor
  · rintro best before message rest rfl watched
    obtain ⟨_, kept, tells⟩ := each before
    have ordered := (call_bestFirst_iff tells (.receive message)).mp fun watcher book sent => by
      rw [kept]
      exact best watcher book (mem_after_iff.mpr (.inr ⟨before, _, rest, rfl, sent⟩))
    rw [kept] at ordered
    exact ordered message rfl watched
  · intro ordered watcher book sent
    rcases mem_after_iff.mp sent with nothing | ⟨before, call, rest, rfl, sent_by⟩
    · cases nothing
    · obtain ⟨_, kept, tells⟩ := each before
      have best := (call_bestFirst_iff tells call).mpr (fun message received watched => by
        subst received
        rw [kept]
        exact ordered before message rest rfl watched) watcher book sent_by
      rw [kept] at best
      exact best

/-- A bid among the updates of an event. -/
def bidUpdate (price : String) : Json :=
  .object [("side", .string "bid"), ("price_level", .string price), ("new_quantity", .string "1")]

/-- A frame of one event. -/
def bidFrame (type : String) (updates : List Json) : Json :=
  .object [("channel", .string "l2_data"), ("sequence_num", .string "7"),
    ("events", .array [.object [("product_id", .string "BTC-USD"), ("type", .string type),
      ("updates", .array updates)]])]

/-- A snapshot without levels, and updates of two bids, the lower one first. -/
def lowerFirst : List Message :=
  [⟨.snapshot, 0, 0, 0, "BTC-USD", [], []⟩,
    ⟨.update, 0, 0, 0, "BTC-USD", [⟨950, 1⟩, ⟨975, 1⟩], []⟩]

theorem fromFrame_lowerFirst : ∀ message ∈ lowerFirst, FromFrame message := by
  have scales : Scales fun text decimals => (scaleDecimalStringToI64 text decimals).getD 0 :=
    fun _ _ _ scaled => congrArg (Option.getD · 0) scaled
  have snapshot : FromFrame ⟨.snapshot, 0, 0, 0, "BTC-USD", [], []⟩ :=
    ⟨_, fun _ => some (bidFrame "snapshot" []), ⟨"", 0⟩, ⟨2, 0⟩, scales,
      .inr ⟨.init, .find (some ⟨2, 0⟩) .here⟩⟩
  have update : FromFrame ⟨.update, 0, 0, 0, "BTC-USD", [⟨950, 1⟩, ⟨975, 1⟩], []⟩ :=
    ⟨_, fun _ => some (bidFrame "update" [bidUpdate "9.50", bidUpdate "9.75"]), ⟨"", 0⟩, ⟨2, 0⟩,
      scales, .inr ⟨.init, .find (some ⟨2, 0⟩) .here⟩⟩
  exact List.forall_mem_cons.mpr ⟨snapshot, List.forall_mem_singleton.mpr update⟩

/-- The updates of a frame are sent on in the frame's order. -/
theorem forwards_lowerFirst :
    ¬ ∀ id venue spec precision (calls : List Call),
      (∀ message, .receive message ∈ calls → FromFrame message) → SnapshotFirst true calls →
        ∀ watcher book,
          (watcher, .book book) ∈ (after calls (new id venue spec precision, [])).2 →
            book.BestFirst spec.depth := by
  intro best
  have received : ∀ message, .receive message ∈ Call.watch 1 :: lowerFirst.map Call.receive →
      FromFrame message := by
    intro message listed
    rcases List.mem_cons.mp listed with same | listed
    · cases same
    · obtain ⟨other, member, same⟩ := List.mem_map.mp listed
      cases same
      exact fromFrame_lowerFirst _ member
  have book := best 0x10100 "coinbase" ⟨"BTC-USD", 0⟩ ⟨2, 0⟩ _ received (by decide) 1 _
    (List.mem_append_right _ (List.mem_singleton_self _))
  exact absurd (List.pairwise_cons.mp book.bids).1 (by decide)

end Stream

end DataFeed.Frontend
