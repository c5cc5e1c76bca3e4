import DataFeed.Venue.Manager

/-! # The wire types

The payloads of the events a client gets, field by field. A payload is
serialized once and parsed by each client; here it stays the message that was
serialized.
-/

namespace DataFeed.Frontend

open L2 Venue

namespace Wire

/-- What a client needs to decode a stream's books. -/
structure StreamInfo where
  streamId : SubscriptionId
  symbol : String
  venue : String
  depth : UInt32
  priceDecimals : UInt32
  qtyDecimals : UInt32
  deriving DecidableEq, Repr

/-- Whether a book replaces what the client holds or changes it. -/
inductive Kind where
  | snapshot
  | delta
  deriving DecidableEq, Repr

/-- Book state for one stream. -/
structure Book where
  streamId : SubscriptionId
  kind : Kind
  bids : List Level
  asks : List Level
  checksum : UInt32
  venueTimeNs : Int64
  captureTimeNs : Int64
  deriving DecidableEq, Repr

inductive FeedState where
  | live
  | degraded
  | disconnected
  deriving DecidableEq, Repr

/-- The health of a stream's connection to its venue. -/
structure FeedStatus where
  state : FeedState
  detail : String
  healthyStreamIds : List SubscriptionId
  deriving DecidableEq, Repr

end Wire

/-- The payload of one event. -/
inductive Payload where
  | streamInfo (info : Wire.StreamInfo)
  | book (book : Wire.Book)
  | feedStatus (status : Wire.FeedStatus)
  | heartbeat
  /-- The reply to the client's command `requestId`. -/
  | result (requestId : UInt64)
  deriving DecidableEq, Repr

namespace Payload

/-- The payload's field number in `MarketDataEvent`. -/
def fieldNumber : Payload → Nat
  | streamInfo _ => 3
  | book _ => 4
  | feedStatus _ => 5
  | heartbeat => 6
  | result _ => 7

/-- The field number of a book. -/
def bookFieldNumber : Nat := 4

theorem fieldNumber_eq_book_iff {payload : Payload} :
    payload.fieldNumber = bookFieldNumber ↔ ∃ content, payload = book content := by
  cases payload <;> simp [fieldNumber, bookFieldNumber]

end Payload

/-- Describes the stream `id` carries. -/
def makeStreamInfo (id : SubscriptionId) (venue : String) (book : BookSpec)
    (precision : PairPrecision) : Wire.StreamInfo where
  streamId := id
  symbol := book.symbol
  venue := venue
  depth := book.depth
  priceDecimals := precision.priceDecimals
  qtyDecimals := precision.qtyDecimals

/-- A message as a book of stream `id`, its levels in the order the venue sent
them. -/
def makeBook (id : SubscriptionId) (message : Message) : Wire.Book where
  streamId := id
  kind := if message.type = .snapshot then .snapshot else .delta
  bids := message.buys
  asks := message.sells
  checksum := message.checksum
  venueTimeNs := message.venueTimeNs
  captureTimeNs := message.captureTimeNs

/-- A feed status, naming the streams it says are healthy. -/
def makeFeedStatus (state : Wire.FeedState) (detail : String) (healthy : List SubscriptionId) :
    Wire.FeedStatus := ⟨state, detail, healthy⟩

end DataFeed.Frontend
