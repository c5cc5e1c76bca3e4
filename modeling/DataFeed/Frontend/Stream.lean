import DataFeed.Frontend.Wire
import DataFeed.L2.Book

/-! # One live subscription's book and its watchers

A stream keeps the book of one live subscription and sends it to the clients
that watch: a new watcher gets a description of the stream and a snapshot built
from the book, then every message as it comes. At a gap the book is dropped and
the watchers are told why; a client that starts watching meanwhile is told too.

Every method holds the stream's lock, so it is a function on the stream that
also says what was sent, in order.
-/

namespace DataFeed.Frontend

open L2 Venue DataFeed.Core

/-- A watching client's connection. -/
abbrev WatcherId := Nat

/-- One payload sent to one watcher. -/
abbrev Sending := WatcherId × Payload

/-- The book of one live subscription and the clients watching it. -/
structure Stream where
  id : SubscriptionId
  venue : String
  spec : BookSpec
  precision : PairPrecision
  book : L2.Book
  /-- The status of the gap in progress, while `interrupted`. -/
  gapStatus : Option Payload
  /-- False until the venue's first snapshot, and again from a gap until the
  snapshot that ends it. -/
  hasSnapshot : Bool
  /-- From a gap until the snapshot that ends it. -/
  interrupted : Bool
  /-- The checksum and times of the last message. -/
  checksum : UInt32
  venueTimeNs : Int64
  captureTimeNs : Int64
  watchers : List WatcherId
  distinct : watchers.Nodup
  depth_book : book.depth = spec.depth
  /-- A gap in progress has a status to tell a new watcher. -/
  status_of_interrupted : interrupted = true → gapStatus.isSome

namespace Stream

/-- The stream of a new subscription. -/
def new (id : SubscriptionId) (venue : String) (book : BookSpec) (precision : PairPrecision) :
    Stream where
  id := id
  venue := venue
  spec := book
  precision := precision
  book := .ofDepth book.depth
  gapStatus := none
  hasSnapshot := false
  interrupted := false
  checksum := 0
  venueTimeNs := 0
  captureTimeNs := 0
  watchers := []
  distinct := .nil
  depth_book := rfl
  status_of_interrupted interrupted := Bool.noConfusion interrupted

/-- What a client needs to decode the stream's books. -/
def info (stream : Stream) : Wire.StreamInfo :=
  makeStreamInfo stream.id stream.venue stream.spec stream.precision

/-- Sent to every new watcher. -/
def streamInfo (stream : Stream) : Payload := .streamInfo stream.info

/-- Sent when the venue connection ended. -/
def disconnected (stream : Stream) : Payload :=
  .feedStatus (makeFeedStatus .disconnected
    ("Lost the connection to " ++ stream.venue ++ "; " ++ stream.spec.symbol ++
      " resumes with a snapshot once it is back") [])

/-- Sent when the pair is being resubscribed. -/
def resubscribing (stream : Stream) : Payload :=
  .feedStatus (makeFeedStatus .degraded
    (stream.spec.symbol ++ " stopped matching " ++ stream.venue ++
      "'s checksum; it resumes with a fresh snapshot") [])

/-- Sent ahead of the snapshot that ends a gap. -/
def live (stream : Stream) : Payload :=
  .feedStatus (makeFeedStatus .live (stream.spec.symbol ++ " is back") [stream.id])

/-- Sends a payload to every watcher. -/
def sendLocked (stream : Stream) (payload : Payload) : List Sending :=
  stream.watchers.map fun watcher => (watcher, payload)

/-- A snapshot of the book for the wire, best price first, with the checksum and
times of the last message. -/
def snapshotLocked (stream : Stream) : Wire.Book where
  streamId := stream.id
  kind := .snapshot
  bids := stream.book.bids.entries.map fun level => ⟨level.1, level.2⟩
  asks := stream.book.asks.entries.map fun level => ⟨level.1, level.2⟩
  checksum := stream.checksum
  venueTimeNs := stream.venueTimeNs
  captureTimeNs := stream.captureTimeNs

/-- Applies the message to the book and sends it to every watcher. -/
def receive (stream : Stream) (message : Message) : Stream × List Sending :=
  let ends := message.type = .snapshot ∧ stream.interrupted
  ({ stream with
      book := stream.book.apply message
      hasSnapshot := stream.hasSnapshot || message.type = .snapshot
      interrupted := stream.interrupted && message.type ≠ .snapshot
      checksum := message.checksum
      venueTimeNs := message.venueTimeNs
      captureTimeNs := message.captureTimeNs
      distinct := stream.distinct
      depth_book := (Book.depth_apply _ _).trans stream.depth_book
      status_of_interrupted := fun interrupted =>
        stream.status_of_interrupted (Bool.and_eq_true_iff.mp interrupted).1 },
    (if ends then stream.sendLocked stream.live else []) ++
      stream.sendLocked (.book (makeBook stream.id message)))

/-- The stream has a gap. -/
def interrupt (stream : Stream) (gap : Gap) : Stream × List Sending :=
  let status := if gap = .resubscribing then stream.resubscribing else stream.disconnected
  ({ stream with
      book := stream.book.clear
      hasSnapshot := false
      interrupted := true
      gapStatus := some status
      distinct := stream.distinct
      depth_book := stream.depth_book
      status_of_interrupted := fun _ => rfl },
    stream.sendLocked status)

/-- What a new watcher is sent after the stream's description: the gap in
progress, or a snapshot if there is a book. -/
def opening (stream : Stream) : List Payload :=
  if interrupted : stream.interrupted then
    [stream.gapStatus.get (stream.status_of_interrupted interrupted)]
  else if stream.hasSnapshot then [.book stream.snapshotLocked]
  else []

/-- Starts sending to a watcher. Watching again starts over rather than doubling
every message. -/
def watch (stream : Stream) (watcher : WatcherId) : Stream × List Sending :=
  ({ stream with
      watchers := stream.watchers.filter (· ≠ watcher) ++ [watcher]
      distinct := by
        refine (stream.distinct.filter _).append (List.nodup_singleton watcher) ?_
        intro other kept added
        rw [List.mem_singleton.mp added, List.mem_filter, decide_eq_true_eq] at kept
        exact kept.2 rfl },
    (stream.streamInfo :: stream.opening).map fun payload => (watcher, payload))

/-- Sends a watcher nothing more. -/
def unwatch (stream : Stream) (watcher : WatcherId) : Stream × List Sending :=
  ({ stream with
      watchers := stream.watchers.filter (· ≠ watcher)
      distinct := stream.distinct.filter _ }, [])

/-- A call on a stream. -/
inductive Call where
  | receive (message : Message)
  | interrupt (gap : Gap)
  | watch (watcher : WatcherId)
  | unwatch (watcher : WatcherId)
  deriving DecidableEq, Repr

/-- Makes a call. -/
def call (stream : Stream) : Call → Stream × List Sending
  | .receive message => stream.receive message
  | .interrupt gap => stream.interrupt gap
  | .watch watcher => stream.watch watcher
  | .unwatch watcher => stream.unwatch watcher

/-- What a receiver is promised of its messages: the first one, and the first one
after each gap, is a snapshot. -/
def SnapshotFirst (awaiting : Bool) : List Call → Prop
  | [] => True
  | .receive message :: rest =>
      (awaiting = true → message.type = .snapshot) ∧ SnapshotFirst false rest
  | .interrupt _ :: rest => SnapshotFirst true rest
  | .watch _ :: rest => SnapshotFirst awaiting rest
  | .unwatch _ :: rest => SnapshotFirst awaiting rest

instance decidableSnapshotFirst : (awaiting : Bool) → (calls : List Call) →
    Decidable (SnapshotFirst awaiting calls)
  | _, [] => isTrue trivial
  | awaiting, .receive message :: rest =>
      haveI := decidableSnapshotFirst false rest
      inferInstanceAs (Decidable ((awaiting = true → message.type = .snapshot) ∧ _))
  | _, .interrupt _ :: rest => decidableSnapshotFirst true rest
  | awaiting, .watch _ :: rest => decidableSnapshotFirst awaiting rest
  | awaiting, .unwatch _ :: rest => decidableSnapshotFirst awaiting rest

end Stream

end DataFeed.Frontend
