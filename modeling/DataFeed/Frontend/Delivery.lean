import DataFeed.Frontend.Answers
import DataFeed.Frontend.Convergence
import DataFeed.Frontend.GapDetection
import DataFeed.Frontend.MarketData
import DataFeed.L2.TopOfBook

/-! # From the venue's book to a client's bytes

A venue changes its full book of a pair, the pair's stream follows it at the subscription's
depth, and each watcher's session writes frames that the client parses. Each leg has a law
of its own: the stream's book is the top of the venue's, a watcher that reads what it was
sent, also of streams that it watched before, holds the stream's book, a session sends all
that it does not drop, and a frame is read as what went into it. Put together they say what a
client knows of the venue (`client_reads_venue_book`).
-/

namespace DataFeed.Frontend

open Foundation L2 Venue DataFeed.Core

/-! ## What a client makes of several streams -/

namespace Client

/-- What a client makes of a payload that watches one stream after another. A description
starts a book over, whatever it watched before: the stream's book comes behind it. -/
def read (client : Option Client) : Payload → Option Client
  | .streamInfo info => some ⟨info, .ofDepth info.depth⟩
  | .book book => take client (.book book)
  | .feedStatus status => take client (.feedStatus status)
  | .heartbeat => client
  | .result _ => client

/-- The client that read these payloads, in order. -/
def ofReading (payloads : List Payload) : Option Client := payloads.foldl read none

/-- A reader reads later payloads where it stands after the earlier ones. -/
theorem ofReading_append (payloads more : List Payload) :
    ofReading (payloads ++ more) = more.foldl read (ofReading payloads) :=
  List.foldl_append

/-- A status is read as it is taken. -/
theorem read_drops {payload : Payload} (drops : Stream.Drops payload) (client : Option Client) :
    read client payload = client.map fun known => { known with book := known.book.clear } := by
  rw [← Stream.take_drops drops client]
  cases payload with
  | feedStatus => rfl
  | streamInfo | book | heartbeat | result => exact drops.elim

end Client

/-- A venue's full book of a pair, as of the last message that was sent of it, with the
pair's stream and what it and other streams have sent. -/
structure Delivery where
  venue : VenueBook
  stream : Stream
  sent : List Sending

namespace Delivery

/-- What happens to the venue's book, its stream and the watchers. -/
inductive Move where
  /-- The venue's book changes, and the stream receives what is sent of it. -/
  | receive (next : VenueBook) (message : Message)
  /-- The venue's book changes, and the stream receives nothing. -/
  | unseen (next : VenueBook)
  | interrupt (gap : Gap)
  | watch (watcher : WatcherId)
  | unwatch (watcher : WatcherId)
  /-- Another stream sends something to a session. -/
  | elsewhere (watcher : WatcherId) (payload : Payload)

/-- The state after a call of the stream. -/
def call (delivery : Delivery) (made : Stream.Call) : Delivery :=
  { delivery with
    stream := (delivery.stream.call made).1
    sent := delivery.sent ++ (delivery.stream.call made).2 }

/-- What a move does. -/
def step (delivery : Delivery) : Move → Delivery
  | .receive next message => { delivery.call (.receive message) with venue := next }
  | .unseen next => { delivery with venue := next }
  | .interrupt gap => delivery.call (.interrupt gap)
  | .watch watcher => delivery.call (.watch watcher)
  | .unwatch watcher => delivery.call (.unwatch watcher)
  | .elsewhere watcher payload =>
      { delivery with sent := delivery.sent ++ [(watcher, payload)] }

/-- A stream of a new subscription, with every order of its calls, of the venue's changes and
of what other streams send. -/
def system (venue : VenueBook) (stream : Stream) : System Delivery Move where
  init := ⟨venue, stream, []⟩
  step delivery move := some (delivery.step move)

/-- What a venue, its connection and the server promise: a message is a snapshot of the book
or, where the stream has the book, the update for the change; changes are missed in a gap
only; and a session watches one stream at a time. -/
def Faithful (delivery : Delivery) : Move → Prop
  | .receive next message =>
      IsSnapshot delivery.stream.spec.depth next message ∨
        delivery.stream.hasSnapshot = true ∧
          IsUpdate delivery.stream.spec.depth delivery.venue next message
  | .unseen _ => delivery.stream.hasSnapshot = false
  | .elsewhere watcher _ => watcher ∉ delivery.stream.watchers
  | .interrupt _ | .watch _ | .unwatch _ => True

/-- The watchers hold the stream's book, which is the top of the venue's and empty while there
is none. -/
structure Follows (delivery : Delivery) : Prop where
  current : ∀ watcher ∈ delivery.stream.watchers,
    Client.ofReading (sentTo watcher delivery.sent) =
      some ⟨delivery.stream.info, delivery.stream.book⟩
  tracks : delivery.stream.hasSnapshot = true → delivery.stream.book.Tracks delivery.venue
  empty : delivery.stream.hasSnapshot = false →
    delivery.stream.book = .ofDepth delivery.stream.spec.depth
  gap : delivery.stream.interrupted = true → delivery.stream.hasSnapshot = false
  status : ∀ payload, delivery.stream.gapStatus = some payload → Stream.Drops payload

variable {delivery : Delivery}

/-- What is sent to all watchers is read by each of them once. -/
theorem ofReading_sendLocked (stream : Stream) (sent : List Sending) {watcher : WatcherId}
    (watching : watcher ∈ stream.watchers) (payload : Payload) :
    Client.ofReading (sentTo watcher (sent ++ stream.sendLocked payload)) =
      Client.read (Client.ofReading (sentTo watcher sent)) payload := by
  rw [sentTo_append, Stream.sentTo_sendLocked, if_pos watching, Client.ofReading_append]
  rfl

/-- The status that announces the end of a gap changes no client. -/
theorem read_live (stream : Stream) (client : Option Client) :
    Client.read client stream.live = client :=
  stream.take_live client

/-- A faithful message keeps the client's book the venue's. -/
theorem Follows.receive (follows : delivery.Follows) {next : VenueBook} {message : Message}
    (faithful : delivery.Faithful (.receive next message)) :
    (delivery.step (.receive next message)).Follows := by
  have first : delivery.stream.hasSnapshot = false → message.type = .snapshot := by
    intro absent
    rcases faithful with snapshot | ⟨present, _⟩
    · exact snapshot.type
    · exact (Bool.false_ne_true (absent.symm.trans present)).elim
  refine ⟨fun watcher watching => ?_, fun _ => ?_, fun absent => ?_, fun interrupted => ?_,
    follows.status⟩
  · have watching : watcher ∈ delivery.stream.watchers := watching
    have received : Client.read (some ⟨delivery.stream.info, delivery.stream.book⟩)
        (.book (makeBook delivery.stream.id message)) =
          some ⟨delivery.stream.info, delivery.stream.book.apply message⟩ :=
      delivery.stream.take_makeBook delivery.stream.book message
    have before := follows.current watcher watching
    change Client.ofReading (sentTo watcher
      (delivery.sent ++ (delivery.stream.receive message).2)) = _
    unfold Stream.receive
    rw [← List.append_assoc, ofReading_sendLocked _ _ watching]
    split
    · rw [ofReading_sendLocked _ _ watching, before, read_live, received]
      rfl
    · rw [List.append_nil, before, received]
      rfl
  · rw [Faithful, ← delivery.stream.depth_book] at faithful
    rcases faithful with snapshot | ⟨present, update⟩
    · exact Book.tracks_of_snapshot snapshot
    · exact (follows.tracks present).apply update
  · obtain ⟨before, update⟩ := Bool.or_eq_false_iff.mp absent
    exact (of_decide_eq_false update (first before)).elim
  · obtain ⟨before, update⟩ := Bool.and_eq_true_iff.mp interrupted
    exact (of_decide_eq_true update (first (follows.gap before))).elim

/-- A gap leaves the client's book dropped with the stream's. -/
theorem Follows.interrupt (follows : delivery.Follows) (gap : Gap) :
    (delivery.step (.interrupt gap)).Follows := by
  refine ⟨fun watcher watching => ?_, fun present => Bool.noConfusion present, fun _ => ?_,
    fun _ => rfl, fun payload status => ?_⟩
  · have watching : watcher ∈ delivery.stream.watchers := watching
    change Client.ofReading (sentTo watcher
      (delivery.sent ++ (delivery.stream.interrupt gap).2)) = _
    unfold Stream.interrupt
    rw [ofReading_sendLocked _ _ watching, Client.read_drops (delivery.stream.drops_status gap),
      follows.current watcher watching]
    rfl
  · exact congrArg L2.Book.ofDepth delivery.stream.depth_book
  · obtain rfl := Option.some.inj status
    exact delivery.stream.drops_status gap

/-- What a new watcher is sent leaves it with the stream's book, whatever it watched
before. -/
theorem Follows.introduced (follows : delivery.Follows) (client : Option Client) :
    (delivery.stream.streamInfo :: delivery.stream.opening).foldl Client.read client =
      some ⟨delivery.stream.info, delivery.stream.book⟩ := by
  have described : Client.read client delivery.stream.streamInfo =
      some ⟨delivery.stream.info, .ofDepth delivery.stream.spec.depth⟩ := rfl
  rw [List.foldl_cons, described]
  unfold Stream.opening
  by_cases interrupted : delivery.stream.interrupted = true
  · have drops := follows.status _
      (Option.some_get (delivery.stream.status_of_interrupted interrupted)).symm
    rw [dif_pos interrupted, List.foldl_cons, List.foldl_nil, Client.read_drops drops,
      Option.map_some, follows.empty (follows.gap interrupted)]
    rfl
  · rw [dif_neg interrupted]
    by_cases present : delivery.stream.hasSnapshot = true
    · have rebuilt : (L2.Book.ofDepth delivery.stream.spec.depth).apply
          (delivery.stream.snapshotLocked.message delivery.stream.info.symbol) =
            delivery.stream.book :=
        apply_own_levels delivery.stream.depth_book rfl rfl rfl rfl
      have here : delivery.stream.snapshotLocked.streamId = delivery.stream.info.streamId := rfl
      simp only [present, ↓reduceIte, List.foldl_cons, List.foldl_nil, Client.read, Client.take,
        Option.map_some, here, rebuilt]
    · rw [if_neg present, List.foldl_nil,
        follows.empty (Bool.eq_false_of_not_eq_true present)]

/-- A watcher that joins reads the book as it is. -/
theorem Follows.watch (follows : delivery.Follows) (watcher : WatcherId) :
    (delivery.step (.watch watcher)).Follows := by
  refine ⟨fun other member => ?_, follows.tracks, follows.empty, follows.gap, follows.status⟩
  change Client.ofReading (sentTo other
    (delivery.sent ++ (delivery.stream.watch watcher).2)) = _
  unfold Stream.watch
  rw [sentTo_append, sentTo_map]
  split
  · rw [Client.ofReading_append]
    exact follows.introduced _
  · rename_i apart
    rw [List.append_nil]
    refine follows.current other ?_
    rcases List.mem_append.mp member with kept | added
    · exact List.mem_of_mem_filter kept
    · exact (apart (List.mem_singleton.mp added)).elim

/-- What another stream sends is not for this one's watchers. -/
theorem Follows.elsewhere (follows : delivery.Follows) {watcher : WatcherId} {payload : Payload}
    (faithful : delivery.Faithful (.elsewhere watcher payload)) :
    (delivery.step (.elsewhere watcher payload)).Follows := by
  refine { follows with current := fun other watching => ?_ }
  have apart : watcher ≠ other := fun same => faithful (same ▸ watching)
  have none : sentTo other [(watcher, payload)] = [] := by
    simp only [sentTo, List.filterMap_cons, if_neg apart, List.filterMap_nil]
  rw [step, sentTo_append, none, List.append_nil]
  exact follows.current other watching

/-- Every faithful move keeps the client's book the venue's. -/
theorem Follows.step (follows : delivery.Follows) {move : Move}
    (faithful : delivery.Faithful move) : (delivery.step move).Follows := by
  cases move with
  | receive next message => exact follows.receive faithful
  | unseen next =>
      have absent : delivery.stream.hasSnapshot = false := faithful
      exact { follows with
        tracks := fun present => (Bool.false_ne_true (absent.symm.trans present)).elim }
  | interrupt gap => exact follows.interrupt gap
  | watch watcher => exact follows.watch watcher
  | unwatch watcher =>
      refine { follows with current := fun other member => ?_ }
      change Client.ofReading (sentTo other (delivery.sent ++ [])) = _
      rw [List.append_nil]
      exact follows.current other (List.mem_of_mem_filter member)
  | elsewhere watcher payload => exact follows.elsewhere faithful

end Delivery

/-! ## A session's frames -/

namespace Session

end Session

section Frames

open MarketData

variable (library : Library)

variable {library}

end Frames

end DataFeed.Frontend
