import DataFeed.Frontend.Stream
import DataFeed.L2.BookLaws

/-! # Every watcher holds the stream's book

A client builds its book from what it is sent, and from that alone: raw messages
if it watched when they came, a snapshot of the stream's book if it did not. That
the two ways agree is an invariant of the stream and all its watchers at once,
and it needs that a message that begins or resumes the stream is a snapshot.
-/

namespace DataFeed.Frontend

open Foundation L2 Venue DataFeed.Core

/-- The change of a book that a book on the wire describes. -/
def Wire.Book.message (symbol : String) (book : Wire.Book) : Message where
  type := if book.kind = .snapshot then .snapshot else .update
  checksum := book.checksum
  venueTimeNs := book.venueTimeNs
  captureTimeNs := book.captureTimeNs
  symbol := symbol
  buys := book.bids
  sells := book.asks

/-- What a client knows of the stream it watches. -/
structure Client where
  info : Wire.StreamInfo
  book : L2.Book

namespace Client

/-- A client with a description of the stream: it keeps the book it has, unless
that is one at another depth. -/
def introduce (client : Option Client) (info : Wire.StreamInfo) : Client where
  info := info
  book :=
    match client with
    | some known => if known.book.depth = info.depth then known.book else .ofDepth info.depth
    | none => .ofDepth info.depth

/-- What a client makes of a payload. It drops books of a stream it has no
description of. -/
def take (client : Option Client) : Payload → Option Client
  | .streamInfo info => some (introduce client info)
  | .book book => client.map fun known =>
      if book.streamId = known.info.streamId then
        { known with book := known.book.apply (book.message known.info.symbol) }
      else known
  | .feedStatus status => client.map fun known =>
      if status.state = .disconnected ∨ status.state = .degraded then
        { known with book := known.book.clear }
      else known
  | .heartbeat => client
  | .result _ => client

/-- The client that got these payloads, in order. -/
def ofPayloads (payloads : List Payload) : Option Client := payloads.foldl take none

/-- A client takes later payloads where it stands after the earlier ones. -/
theorem ofPayloads_append (payloads more : List Payload) :
    ofPayloads (payloads ++ more) = more.foldl take (ofPayloads payloads) :=
  List.foldl_append

end Client

/-- The payloads sent to a watcher. -/
def sentTo (watcher : WatcherId) (sent : List Sending) : List Payload :=
  sent.filterMap fun sending => if sending.1 = watcher then some sending.2 else none

/-- What is sent to a watcher is sent in the order of the sendings. -/
theorem sentTo_append (watcher : WatcherId) (first second : List Sending) :
    sentTo watcher (first ++ second) = sentTo watcher first ++ sentTo watcher second :=
  List.filterMap_append

/-- What is sent to one watcher reaches it and no other. -/
theorem sentTo_map (watcher target : WatcherId) (payloads : List Payload) :
    sentTo watcher (payloads.map fun payload => (target, payload)) =
      if watcher = target then payloads else [] := by
  unfold sentTo
  rw [List.filterMap_map]
  by_cases same : watcher = target
  · simp only [same, Function.comp_def, ↓reduceIte, List.filterMap_some]
  · simp only [Function.comp_def, Ne.symm same, ↓reduceIte, same, List.filterMap_eq_nil_iff,
      implies_true]

/-- A payload sent to each of several watchers reaches each of them once. -/
theorem sentTo_each (watcher : WatcherId) (payload : Payload) {watchers : List WatcherId}
    (distinct : watchers.Nodup) :
    sentTo watcher (watchers.map fun target => (target, payload)) =
      if watcher ∈ watchers then [payload] else [] := by
  induction watchers with
  | nil => rfl
  | cons head rest ih =>
      obtain ⟨outside, distinct⟩ := List.nodup_cons.mp distinct
      have tail := ih distinct
      unfold sentTo at tail ⊢
      simp only [List.map_cons, List.filterMap_cons, tail, List.mem_cons]
      by_cases same : head = watcher
      · subst same
        simp only [↓reduceIte, outside, true_or]
      · simp only [same, ↓reduceIte, Ne.symm same, false_or]

/-- Setting the levels of a book's own sides rebuilds the book. -/
theorem apply_own_levels {depth : UInt32} {book : L2.Book} (same : book.depth = depth)
    {other : L2.Book} (fits : other.depth = depth) {message : Message}
    (snapshot : message.type = .snapshot)
    (buys : message.buys = book.bids.entries.map fun level => ⟨level.1, level.2⟩)
    (sells : message.sells = book.asks.entries.map fun level => ⟨level.1, level.2⟩) :
    other.apply message = book :=
  book.apply_listing other (fits.trans same.symm) snapshot (.of_eq buys) (.of_eq sells)

/-- A forwarded message changes a client's book as it changes the stream's. -/
theorem apply_makeBook (book : L2.Book) (id : SubscriptionId) (symbol : String)
    (message : Message) :
    book.apply ((makeBook id message).message symbol) = book.apply message := by
  refine book.apply_congr ?_ rfl rfl
  cases type : message.type <;>
    simp only [Wire.Book.message, makeBook, type, reduceCtorEq, ↓reduceIte]

namespace Stream

/-- A status that ends what a client holds. -/
def Drops : Payload → Prop
  | .feedStatus status => status.state = .disconnected ∨ status.state = .degraded
  | _ => False

/-- The stream and all it has sent fit together: its watchers hold its book, every
client that has heard of it has it at the right depth, and while it has no
snapshot its book is empty. -/
structure Converged (stream : Stream) (sent : List Sending) : Prop where
  current : ∀ watcher ∈ stream.watchers,
    Client.ofPayloads (sentTo watcher sent) = some ⟨stream.info, stream.book⟩
  known : ∀ watcher client, Client.ofPayloads (sentTo watcher sent) = some client →
    client.info = stream.info ∧ client.book.depth = stream.spec.depth
  empty : stream.hasSnapshot = false → stream.book = .ofDepth stream.spec.depth
  gap : stream.interrupted = true → stream.hasSnapshot = false
  status : ∀ payload, stream.gapStatus = some payload → Drops payload
  fresh : stream.hasSnapshot = false → stream.interrupted = false →
    ∀ watcher client, Client.ofPayloads (sentTo watcher sent) = some client →
      client.book = stream.book

/-- A new stream and its watchers agree on having no book. -/
theorem Converged.new (id : SubscriptionId) (venue : String) (book : BookSpec)
    (precision : PairPrecision) : (Stream.new id venue book precision).Converged [] where
  current _ member := (List.not_mem_nil member).elim
  known _ _ present := (Option.some_ne_none _ present.symm).elim
  empty _ := rfl
  gap interrupted := Bool.noConfusion interrupted
  status _ present := (Option.some_ne_none _ present.symm).elim
  fresh _ _ _ _ present := (Option.some_ne_none _ present.symm).elim

/-- A payload for all watchers reaches each of them once. -/
theorem sentTo_sendLocked (stream : Stream) (watcher : WatcherId) (payload : Payload) :
    sentTo watcher (stream.sendLocked payload) =
      if watcher ∈ stream.watchers then [payload] else [] :=
  sentTo_each watcher payload stream.distinct

/-- The client of a watcher after more was sent to all watchers. -/
theorem ofPayloads_sendLocked (stream : Stream) (sent : List Sending) (watcher : WatcherId)
    (payload : Payload) :
    Client.ofPayloads (sentTo watcher (sent ++ stream.sendLocked payload)) =
      if watcher ∈ stream.watchers then
        Client.take (Client.ofPayloads (sentTo watcher sent)) payload
      else Client.ofPayloads (sentTo watcher sent) := by
  rw [sentTo_append, sentTo_sendLocked, Client.ofPayloads_append]
  split <;> rfl

/-- The status that announces the end of a gap changes no client. -/
theorem take_live (stream : Stream) (client : Option Client) :
    Client.take client stream.live = client := by
  simp only [Client.take, live, makeFeedStatus, reduceCtorEq, or_self, ↓reduceIte, Option.map_id']

/-- A status that ends what a client holds empties its book. -/
theorem take_drops {payload : Payload} (drops : Drops payload) (client : Option Client) :
    Client.take client payload =
      client.map fun known => { known with book := known.book.clear } := by
  cases payload with
  | feedStatus status => simp only [Client.take, show _ ∨ _ from drops, ↓reduceIte]
  | streamInfo info => exact drops.elim
  | book book => exact drops.elim
  | heartbeat => exact drops.elim
  | result requestId => exact drops.elim

/-- Either status says that the book is dropped. -/
theorem drops_status (stream : Stream) (gap : Gap) :
    Drops (if gap = .resubscribing then stream.resubscribing else stream.disconnected) := by
  split
  · exact Or.inr rfl
  · exact Or.inl rfl

/-- What a message sends to a watcher. -/
theorem ofPayloads_receive (stream : Stream) (sent : List Sending) (message : Message)
    (watcher : WatcherId) :
    Client.ofPayloads (sentTo watcher (sent ++ (stream.receive message).2)) =
      if watcher ∈ stream.watchers then
        Client.take (Client.ofPayloads (sentTo watcher sent)) (.book (makeBook stream.id message))
      else Client.ofPayloads (sentTo watcher sent) := by
  unfold receive
  rw [← List.append_assoc, ofPayloads_sendLocked]
  split <;> split
  · rw [ofPayloads_sendLocked, if_pos (by assumption), take_live]
  · rw [List.append_nil]
  · rw [ofPayloads_sendLocked, if_neg (by assumption)]
  · rw [List.append_nil]

/-- What a gap sends to a watcher. -/
theorem ofPayloads_interrupt (stream : Stream) (sent : List Sending) (gap : Gap)
    (watcher : WatcherId) :
    Client.ofPayloads (sentTo watcher (sent ++ (stream.interrupt gap).2)) =
      if watcher ∈ stream.watchers then
        (Client.ofPayloads (sentTo watcher sent)).map fun known =>
          { known with book := known.book.clear }
      else Client.ofPayloads (sentTo watcher sent) := by
  unfold interrupt
  rw [ofPayloads_sendLocked, take_drops (stream.drops_status gap)]

/-- A forwarded message changes a client that knows the stream as it changes the
stream. -/
theorem take_makeBook (stream : Stream) (book : L2.Book) (message : Message) :
    Client.take (some ⟨stream.info, book⟩) (.book (makeBook stream.id message)) =
      some ⟨stream.info, book.apply message⟩ := by
  have here : (makeBook stream.id message).streamId = stream.info.streamId := rfl
  simp only [Client.take, Option.map_some, here, ↓reduceIte, apply_makeBook]

/-- A message brings every watcher's book to the stream's. -/
theorem Converged.receive {stream : Stream} {sent : List Sending}
    (converged : stream.Converged sent) {message : Message}
    (first : stream.hasSnapshot = false → message.type = .snapshot) :
    (stream.receive message).1.Converged (sent ++ (stream.receive message).2) where
  current watcher member := by
    have watching : watcher ∈ stream.watchers := member
    rw [ofPayloads_receive, if_pos watching, converged.current watcher watching, take_makeBook]
    rfl
  known watcher client present := by
    rw [ofPayloads_receive] at present
    split at present
    · rename_i member
      rw [converged.current watcher member, take_makeBook] at present
      obtain rfl := Option.some.inj present
      exact ⟨rfl, (Book.depth_apply _ _).trans stream.depth_book⟩
    · exact converged.known watcher client present
  empty absent := by
    obtain ⟨before, update⟩ := Bool.or_eq_false_iff.mp absent
    exact (of_decide_eq_false update (first before)).elim
  gap interrupted := by
    obtain ⟨before, update⟩ := Bool.and_eq_true_iff.mp interrupted
    exact (of_decide_eq_true update (first (converged.gap before))).elim
  status := converged.status
  fresh absent := by
    obtain ⟨before, update⟩ := Bool.or_eq_false_iff.mp absent
    exact (of_decide_eq_false update (first before)).elim

/-- A gap drops every watcher's book with the stream's. -/
theorem Converged.interrupt {stream : Stream} {sent : List Sending}
    (converged : stream.Converged sent) (gap : Gap) :
    (stream.interrupt gap).1.Converged (sent ++ (stream.interrupt gap).2) where
  current watcher member := by
    have watching : watcher ∈ stream.watchers := member
    rw [ofPayloads_interrupt, if_pos watching, converged.current watcher watching]
    rfl
  known watcher client present := by
    rw [ofPayloads_interrupt] at present
    split at present
    · obtain ⟨before, known, rfl⟩ := Option.map_eq_some_iff.mp present
      exact converged.known watcher before known
    · exact converged.known watcher client present
  empty _ := congrArg L2.Book.ofDepth stream.depth_book
  gap _ := rfl
  status payload present := by
    obtain rfl := Option.some.inj present
    exact stream.drops_status gap
  fresh _ still := Bool.noConfusion still

/-- What a new watcher is sent leaves it with the stream's book, whatever it held
of the stream before. -/
theorem Converged.introduced {stream : Stream} {sent : List Sending}
    (converged : stream.Converged sent) (watcher : WatcherId) :
    (stream.streamInfo :: stream.opening).foldl Client.take
        (Client.ofPayloads (sentTo watcher sent)) = some ⟨stream.info, stream.book⟩ := by
  have described : ∃ book, Client.take (Client.ofPayloads (sentTo watcher sent))
      stream.streamInfo = some ⟨stream.info, book⟩ ∧ book.depth = stream.spec.depth ∧
        (stream.hasSnapshot = false → stream.interrupted = false → book = stream.book) := by
    cases before : Client.ofPayloads (sentTo watcher sent) with
    | none => exact ⟨_, rfl, rfl, fun absent _ => (converged.empty absent).symm⟩
    | some client =>
        obtain ⟨_, depth⟩ := converged.known watcher client before
        refine ⟨client.book, ?_, depth, fun absent still =>
          converged.fresh absent still watcher client before⟩
        have same : client.book.depth = stream.info.depth := depth
        simp only [Client.take, streamInfo, Client.introduce, same, ↓reduceIte]
  obtain ⟨book, described, depth, fresh⟩ := described
  rw [List.foldl_cons, described]
  unfold opening
  by_cases interrupted : stream.interrupted = true
  · have drops := converged.status _
      (Option.some_get (stream.status_of_interrupted interrupted)).symm
    rw [dif_pos interrupted, List.foldl_cons, List.foldl_nil, take_drops drops, Option.map_some,
      converged.empty (converged.gap interrupted)]
    simp only [Book.clear, depth]
  · rw [dif_neg interrupted]
    by_cases present : stream.hasSnapshot = true
    · have rebuilt : book.apply (stream.snapshotLocked.message stream.info.symbol) = stream.book :=
        apply_own_levels stream.depth_book depth rfl rfl rfl
      have here : stream.snapshotLocked.streamId = stream.info.streamId := rfl
      simp only [present, ↓reduceIte, List.foldl_cons, List.foldl_nil, Client.take,
        Option.map_some, here, rebuilt]
    · rw [if_neg present, List.foldl_nil, fresh (Bool.eq_false_of_not_eq_true present)
        (Bool.eq_false_of_not_eq_true interrupted)]

/-- A new watcher is brought to the stream's book. -/
theorem Converged.watch {stream : Stream} {sent : List Sending}
    (converged : stream.Converged sent) (watcher : WatcherId) :
    (stream.watch watcher).1.Converged (sent ++ (stream.watch watcher).2) := by
  have here : Client.ofPayloads (sentTo watcher (sent ++ (stream.watch watcher).2)) =
      some ⟨stream.info, stream.book⟩ := by
    unfold Stream.watch
    rw [sentTo_append, sentTo_map, if_pos rfl, Client.ofPayloads_append]
    exact converged.introduced watcher
  have elsewhere : ∀ other, other ≠ watcher →
      sentTo other (sent ++ (stream.watch watcher).2) = sentTo other sent := by
    intro other apart
    unfold Stream.watch
    rw [sentTo_append, sentTo_map, if_neg apart, List.append_nil]
  refine ⟨?_, ?_, converged.empty, converged.gap, converged.status, ?_⟩
  · intro other member
    by_cases same : other = watcher
    · rw [same]
      exact here
    · rw [elsewhere other same]
      refine converged.current other ?_
      rcases List.mem_append.mp member with kept | added
      · exact List.mem_of_mem_filter kept
      · exact (same (List.mem_singleton.mp added)).elim
  · intro other client present
    by_cases same : other = watcher
    · rw [same, here] at present
      obtain rfl := Option.some.inj present
      exact ⟨rfl, stream.depth_book⟩
    · rw [elsewhere other same] at present
      exact converged.known other client present
  · intro absent still other client present
    by_cases same : other = watcher
    · rw [same, here] at present
      obtain rfl := Option.some.inj present
      rfl
    · rw [elsewhere other same] at present
      exact converged.fresh absent still other client present

/-- A watcher that leaves takes nothing from the others. -/
theorem Converged.unwatch {stream : Stream} {sent : List Sending}
    (converged : stream.Converged sent) (watcher : WatcherId) :
    (stream.unwatch watcher).1.Converged (sent ++ (stream.unwatch watcher).2) := by
  unfold Stream.unwatch
  rw [List.append_nil]
  exact { converged with
    current := fun other member => converged.current other (List.mem_of_mem_filter member) }

/-- A stream and what it has sent, after a list of calls. -/
def after (calls : List Call) (start : Stream × List Sending) : Stream × List Sending :=
  calls.foldl (fun state call => ((state.1.call call).1, state.2 ++ (state.1.call call).2)) start

/-- After any calls every watcher's book is the stream's. -/
theorem Converged.after {calls : List Call} {start : Stream × List Sending}
    (converged : start.1.Converged start.2) (first : SnapshotFirst (!start.1.hasSnapshot) calls) :
    (Stream.after calls start).1.Converged (Stream.after calls start).2 := by
  induction calls generalizing start with
  | nil => exact converged
  | cons call rest ih =>
      cases call with
      | receive message =>
          obtain ⟨snapshot, rest⟩ := first
          refine ih (converged.receive fun absent => snapshot (by rw [absent, Bool.not_false])) ?_
          have begun : (start.1.receive message).1.hasSnapshot = true := by
            cases present : start.1.hasSnapshot with
            | true => simp only [Stream.receive, present, Bool.true_or]
            | false =>
                have snapshot := snapshot (by rw [present, Bool.not_false])
                simp only [Stream.receive, snapshot, decide_true, Bool.or_true]
          simp only [Stream.call, begun, Bool.not_true]
          exact rest
      | interrupt gap => exact ih (converged.interrupt gap) first
      | watch watcher => exact ih (converged.watch watcher) first
      | unwatch watcher => exact ih (converged.unwatch watcher) first

/-- **Watchers converge.** However receiving, gaps, watching and unwatching are
interleaved, every watcher that builds its book from what it was sent holds the
stream's book, at whatever depth and however late it started to watch. -/
theorem watchers_hold_stream_book (id : SubscriptionId) (venue : String) (book : BookSpec)
    (precision : PairPrecision) (calls : List Call) (first : SnapshotFirst true calls) :
    let state := Stream.after calls (Stream.new id venue book precision, [])
    ∀ watcher ∈ state.1.watchers,
      (Client.ofPayloads (sentTo watcher state.2)).map Client.book = some state.1.book := by
  intro state watcher member
  have converged : state.1.Converged state.2 :=
    Converged.after (Converged.new id venue book precision) first
  rw [converged.current watcher member]
  rfl

/-- A client that was there from the start and one that joined after a gap, with a
bid pushed out of the book in between. -/
theorem watchers_hold_stream_book_late :
    let snapshot : Message := ⟨.snapshot, 0, 0, 0, "BTC/USD", [⟨10, 1⟩, ⟨9, 1⟩, ⟨8, 1⟩], []⟩
    let update : Message := ⟨.update, 0, 0, 0, "BTC/USD", [⟨11, 1⟩], [⟨12, 5⟩, ⟨12, 0⟩]⟩
    let state := Stream.after
      [.watch 1, .receive snapshot, .interrupt .resubscribing, .receive snapshot, .receive update,
        .watch 2, .watch 1]
      (Stream.new 0x10000 "kraken" ⟨"BTC/USD", 2⟩ ⟨1, 8⟩, [])
    (Client.ofPayloads (sentTo 1 state.2)).map Client.book = some state.1.book ∧
      (Client.ofPayloads (sentTo 2 state.2)).map Client.book = some state.1.book := by
  intro snapshot update state
  have held := watchers_hold_stream_book 0x10000 "kraken" ⟨"BTC/USD", 2⟩ ⟨1, 8⟩
    [.watch 1, .receive snapshot, .interrupt .resubscribing, .receive snapshot, .receive update,
      .watch 2, .watch 1] (by decide)
  exact ⟨held 1 (by decide), held 2 (by decide)⟩

end Stream

end DataFeed.Frontend
