import DataFeed.Foundation.ProtobufMessage
import DataFeed.Frontend.Envelope
import DataFeed.Frontend.Backend

/-! # The messages on the wire

The messages of the wire contract, each declared as the contract does. Enumerations are
their numbers, as a reader keeps those it does not know. What the code generated from the
contract does is a parameter (`Library`), with what is documented of it as hypotheses
(`Library.Documented`): then an event is read back from the frame that is written by hand
around the shared bytes of its payload (`frame_is_read_as_event`). A library that is made
from the schemas of the messages is one of this kind (`Library.ofSchema_documented`).
-/

namespace DataFeed.Frontend.MarketData

open Foundation Foundation.Protobuf

/-! ## From server to client -/

/-- Book state for one stream. -/
structure Book where
  streamId : UInt64
  kind : UInt32
  bids : List L2.Level
  asks : List L2.Level
  checksum : UInt32
  venueTimeNs : Int64
  captureTimeNs : Int64
  deriving DecidableEq, Repr

/-- The health of a stream's connection to its venue. -/
structure FeedStatus where
  state : UInt32
  detail : String
  healthyStreamIds : List UInt64
  deriving DecidableEq, Repr

/-- One subscription, as listed to a client. -/
structure Subscription where
  id : UInt64
  venue : UInt32
  symbol : String
  depth : UInt32
  sink : UInt32
  startTimeNs : Int64
  deriving DecidableEq, Repr

/-- What a venue can stream. -/
structure PairList where
  pairs : List String
  depths : List UInt32
  deriving DecidableEq, Repr

/-- A venue that the backend has a connection to manage. -/
structure VenueInfo where
  venue : UInt32
  name : String
  connected : Bool
  deriving DecidableEq, Repr

/-- Why a command failed. -/
structure CommandError where
  code : UInt32
  detail : String
  deriving DecidableEq, Repr

/-- What a command is answered. -/
inductive Result where
  | startedId (id : UInt64)
  | ok
  | subscriptions (subscriptions : List Subscription)
  | error (error : CommandError)
  | pairs (pairs : PairList)
  | venues (venues : List VenueInfo)
  deriving DecidableEq, Repr

/-- The reply to one command. -/
structure CommandResult where
  requestId : UInt64
  result : Option Result
  deriving DecidableEq, Repr

/-- What an event carries. -/
inductive EventPayload where
  | streamInfo (info : Wire.StreamInfo)
  | book (book : Book)
  | feedStatus (status : FeedStatus)
  | heartbeat
  | result (result : CommandResult)
  deriving DecidableEq, Repr

/-- Every frame that the backend pushes. -/
structure MarketDataEvent where
  sequence : UInt64
  sendTimeNs : Int64
  payload : Option EventPayload
  deriving DecidableEq, Repr

/-- A message without fields. -/
def nothingSchema : Schema Unit where
  numbers := []
  empty := ()
  fields _ := []
  absorb _ _ := some ()
  taggable _ member := (List.not_mem_nil member).elim
  numbered _ _ member := (List.not_mem_nil member).elim
  skips _ _ _ := rfl
  restores _ _ := rfl

def levelSchema : Schema L2.Level :=
  .via ⟨fun level => (level.price, level.quantity), fun parts => ⟨parts.1, parts.2⟩,
      fun _ => rfl, fun _ => rfl⟩
    (.pair (Kind.sint64.field 1 (by decide)) (Kind.sint64.field 2 (by decide)) (by decide))

def streamInfoSchema : Schema Wire.StreamInfo :=
  .via
    ⟨fun info => (info.streamId, info.symbol, info.venue, info.depth, info.priceDecimals,
        info.qtyDecimals),
      fun (id, symbol, venue, depth, price, qty) => ⟨id, symbol, venue, depth, price, qty⟩,
      fun _ => rfl, fun _ => rfl⟩
    (.pair (Kind.uint64.field 1 (by decide))
      (.pair (Kind.text.field 2 (by decide))
        (.pair (Kind.text.field 3 (by decide))
          (.pair (Kind.uint32.field 4 (by decide))
            (.pair (Kind.uint32.field 5 (by decide)) (Kind.uint32.field 6 (by decide))
              (by decide))
            (by decide))
          (by decide))
        (by decide))
      (by decide))

def bookSchema : Schema Book :=
  .via
    ⟨fun book => (book.streamId, book.kind, book.bids, book.asks, book.checksum,
        book.venueTimeNs, book.captureTimeNs),
      fun (id, kind, bids, asks, checksum, venue, capture) =>
        ⟨id, kind, bids, asks, checksum, venue, capture⟩,
      fun _ => rfl, fun _ => rfl⟩
    (.pair (Kind.uint64.field 1 (by decide))
      (.pair (Kind.uint32.field 2 (by decide))
        (.pair (levelSchema.items 3 (by decide))
          (.pair (levelSchema.items 4 (by decide))
            (.pair (Kind.fixed32.field 5 (by decide))
              (.pair (Kind.sfixed64.field 6 (by decide)) (Kind.sfixed64.field 7 (by decide))
                (by decide))
              (by decide))
            (by decide))
          (by decide))
        (by decide))
      (by decide))

def feedStatusSchema : Schema FeedStatus :=
  .via
    ⟨fun status => (status.state, status.detail, status.healthyStreamIds),
      fun (state, detail, ids) => ⟨state, detail, ids⟩, fun _ => rfl, fun _ => rfl⟩
    (.pair (Kind.uint32.field 1 (by decide))
      (.pair (Kind.text.field 2 (by decide)) (packed 3 (by decide) id id fun _ => rfl)
        (by decide))
      (by decide))

def subscriptionSchema : Schema Subscription :=
  .via
    ⟨fun listed => (listed.id, listed.venue, listed.symbol, listed.depth, listed.sink,
        listed.startTimeNs),
      fun (id, venue, symbol, depth, sink, start) => ⟨id, venue, symbol, depth, sink, start⟩,
      fun _ => rfl, fun _ => rfl⟩
    (.pair (Kind.uint64.field 1 (by decide))
      (.pair (Kind.uint32.field 2 (by decide))
        (.pair (Kind.text.field 3 (by decide))
          (.pair (Kind.uint32.field 4 (by decide))
            (.pair (Kind.uint32.field 5 (by decide)) (Kind.sfixed64.field 6 (by decide))
              (by decide))
            (by decide))
          (by decide))
        (by decide))
      (by decide))

def subscriptionListSchema : Schema (List Subscription) := subscriptionSchema.items 1 (by decide)

def pairSchema : Schema String := Kind.text.field 1 (by decide)

def pairListSchema : Schema PairList :=
  .via ⟨fun list => (list.pairs, list.depths), fun (pairs, depths) => ⟨pairs, depths⟩,
      fun _ => rfl, fun _ => rfl⟩
    (.pair (pairSchema.items 1 (by decide))
      (packed 2 (by decide) UInt32.toUInt64 UInt64.toUInt32 fun _ => UInt32.toUInt32_toUInt64 _)
      (by decide))

def venueInfoSchema : Schema VenueInfo :=
  .via
    ⟨fun info => (info.venue, info.name, info.connected),
      fun (venue, name, connected) => ⟨venue, name, connected⟩, fun _ => rfl, fun _ => rfl⟩
    (.pair (Kind.uint32.field 1 (by decide))
      (.pair (Kind.text.field 2 (by decide)) (Kind.bool.field 3 (by decide)) (by decide))
      (by decide))

def venueListSchema : Schema (List VenueInfo) := venueInfoSchema.items 1 (by decide)

def commandErrorSchema : Schema CommandError :=
  .via ⟨fun error => (error.code, error.detail), fun (code, detail) => ⟨code, detail⟩,
      fun _ => rfl, fun _ => rfl⟩
    (.pair (Kind.uint32.field 1 (by decide)) (Kind.text.field 2 (by decide)) (by decide))

/-- The field of a result, which is written whatever it holds. -/
def resultField : Result → Field
  | .startedId id => ⟨2, .varint id⟩
  | .ok => ⟨3, .bytes (nothingSchema.write ())⟩
  | .subscriptions listed => ⟨4, .bytes (subscriptionListSchema.write listed)⟩
  | .error error => ⟨5, .bytes (commandErrorSchema.write error)⟩
  | .pairs pairs => ⟨6, .bytes (pairListSchema.write pairs)⟩
  | .venues venues => ⟨7, .bytes (venueListSchema.write venues)⟩

/-- What a field makes of a result. A part that is read again is read into what is known of
it. -/
def absorbResult (known : Option Result) (field : Field) : Option (Option Result) :=
  match field.number with
  | 2 =>
      match field.value with
      | .varint id => some (some (.startedId id))
      | _ => some known
  | 3 => nothingSchema.putPart () (fun _ => some .ok) known field.value
  | 4 => subscriptionListSchema.putPart
      (match known with
        | some (.subscriptions listed) => listed
        | _ => subscriptionListSchema.empty)
      (fun listed => some (.subscriptions listed)) known field.value
  | 5 => commandErrorSchema.putPart
      (match known with
        | some (.error error) => error
        | _ => commandErrorSchema.empty)
      (fun error => some (.error error)) known field.value
  | 6 => pairListSchema.putPart
      (match known with
        | some (.pairs pairs) => pairs
        | _ => pairListSchema.empty)
      (fun pairs => some (.pairs pairs)) known field.value
  | 7 => venueListSchema.putPart
      (match known with
        | some (.venues venues) => venues
        | _ => venueListSchema.empty)
      (fun venues => some (.venues venues)) known field.value
  | _ => some known

def resultSchema : Schema (Option Result) :=
  oneOf [2, 3, 4, 5, 6, 7] (by decide) resultField
    (fun choice => by cases choice <;> simp [resultField])
    absorbResult
    (fun known field unknown => by
      unfold absorbResult
      split <;> first
        | (rename_i same; exact (unknown (by rw [same]; decide)).elim)
        | rfl)
    (fun choice short => by
      cases choice with
      | startedId id => rfl
      | ok => rfl
      | subscriptions listed => exact subscriptionListSchema.putPart_field none short
      | error error => exact commandErrorSchema.putPart_field none short
      | pairs pairs => exact pairListSchema.putPart_field none short
      | venues venues => exact venueListSchema.putPart_field none short)

def commandResultSchema : Schema CommandResult :=
  .via ⟨fun reply => (reply.requestId, reply.result), fun (id, result) => ⟨id, result⟩,
      fun _ => rfl, fun _ => rfl⟩
    (.pair (Kind.uint64.field 1 (by decide)) resultSchema (by decide))

namespace EventPayload

/-- The bytes of a payload, by its schema. -/
def write : EventPayload → List UInt8
  | .streamInfo info => streamInfoSchema.write info
  | .book content => bookSchema.write content
  | .feedStatus status => feedStatusSchema.write status
  | .heartbeat => nothingSchema.write ()
  | .result reply => commandResultSchema.write reply

/-- The payload's field number in `MarketDataEvent`. -/
def fieldNumber : EventPayload → Nat
  | .streamInfo _ => 3
  | .book _ => 4
  | .feedStatus _ => 5
  | .heartbeat => 6
  | .result _ => 7

/-- The field of an event that holds a payload. -/
def field (payload : EventPayload) : Field := ⟨payload.fieldNumber, .bytes payload.write⟩

end EventPayload

/-- What a field makes of a payload. -/
def absorbPayload (known : Option EventPayload) (field : Field) : Option (Option EventPayload) :=
  match field.number with
  | 3 => streamInfoSchema.putPart
      (match known with
        | some (.streamInfo info) => info
        | _ => streamInfoSchema.empty)
      (fun info => some (.streamInfo info)) known field.value
  | 4 => bookSchema.putPart
      (match known with
        | some (.book content) => content
        | _ => bookSchema.empty)
      (fun content => some (.book content)) known field.value
  | 5 => feedStatusSchema.putPart
      (match known with
        | some (.feedStatus status) => status
        | _ => feedStatusSchema.empty)
      (fun status => some (.feedStatus status)) known field.value
  | 6 => nothingSchema.putPart () (fun _ => some .heartbeat) known field.value
  | 7 => commandResultSchema.putPart
      (match known with
        | some (.result reply) => reply
        | _ => commandResultSchema.empty)
      (fun reply => some (.result reply)) known field.value
  | _ => some known

/-- A payload is read back from its field. -/
theorem absorbPayload_field {payload : EventPayload}
    (short : payload.field.write.length < UInt64.size) :
    absorbPayload none payload.field = some (some payload) := by
  cases payload with
  | streamInfo info => exact streamInfoSchema.putPart_field none short
  | book content => exact bookSchema.putPart_field none short
  | feedStatus status => exact feedStatusSchema.putPart_field none short
  | heartbeat => rfl
  | result reply => exact commandResultSchema.putPart_field none short

def payloadSchema : Schema (Option EventPayload) :=
  oneOf [3, 4, 5, 6, 7] (by decide) EventPayload.field
    (fun choice => by cases choice <;> simp [EventPayload.field, EventPayload.fieldNumber])
    absorbPayload
    (fun known field unknown => by
      unfold absorbPayload
      split <;> first
        | (rename_i same; exact (unknown (by rw [same]; decide)).elim)
        | rfl)
    (fun _ => absorbPayload_field)

def marketDataEventSchema : Schema MarketDataEvent :=
  .via
    ⟨fun event => (event.sequence, event.sendTimeNs, event.payload),
      fun (sequence, time, payload) => ⟨sequence, time, payload⟩, fun _ => rfl, fun _ => rfl⟩
    (.pair (Kind.uint64.field 1 (by decide))
      (.pair (Kind.sfixed64.field 2 (by decide)) payloadSchema (by decide)) (by decide))

/-! ## The generated code -/

/-- What the code that is generated from the contract does, with the library under it. -/
structure Library where
  /-- The bytes that a payload is serialized to. -/
  serialize : EventPayload → List UInt8
  /-- What one more field makes of an event that is being parsed. -/
  absorb : MarketDataEvent → Field → Option MarketDataEvent
  /-- The event that bytes are parsed to. -/
  parse : List UInt8 → Option MarketDataEvent

/-- The most bytes that a message may have. -/
def maxMessageBytes : Nat := 2147483647

/-- What is documented of messages and of the wire format. A message that is not too long is
parsed field by field, in the order of its bytes; a field of the envelope sets what it is
declared as, and a payload's field sets the payload that its bytes were serialized from. -/
structure Library.Documented (library : Library) : Prop where
  parse_fields : ∀ fields : List Field, (∀ field ∈ fields, field.Valid) →
    (writeFields fields).length ≤ maxMessageBytes →
      library.parse (writeFields fields) = fields.foldlM library.absorb ⟨0, 0, none⟩
  absorb_sequence : ∀ event value,
    library.absorb event ⟨1, .varint value⟩ = some { event with sequence := value }
  absorb_sendTimeNs : ∀ event value,
    library.absorb event ⟨2, .fixed64 value⟩ = some { event with sendTimeNs := value.toInt64 }
  absorb_payload : ∀ (event : MarketDataEvent) (payload : EventPayload), event.payload = none →
    (library.serialize payload).length ≤ maxMessageBytes →
      library.absorb event ⟨payload.fieldNumber, .bytes (library.serialize payload)⟩ =
        some { event with payload := some payload }

namespace Library

variable (library : Library)

/-- A payload as it goes out. -/
def serialized (payload : EventPayload) : SerializedPayload :=
  ⟨Int32.ofNat payload.fieldNumber, library.serialize payload⟩

/-- A payload that goes out has the field number of one. -/
theorem serialized_listed (payload : EventPayload) :
    (library.serialized payload).fieldNumber ∈ payloadFieldNumbers := by
  cases payload <;> simp only [serialized, EventPayload.fieldNumber] <;> decide

/-- The fields of a frame. -/
theorem eventFields_serialized (payload : EventPayload) (sequence : UInt64) (sendTimeNs : Int64) :
    eventFields sequence sendTimeNs (library.serialized payload) =
      [⟨1, .varint sequence⟩, ⟨2, .fixed64 sendTimeNs.toUInt64⟩,
        ⟨payload.fieldNumber, .bytes (library.serialize payload)⟩] := by
  cases payload <;> rfl

variable {library} {payload : EventPayload} {sequence : UInt64} {sendTimeNs : Int64}

/-- The payload of a frame is not longer than the frame. -/
theorem serialize_short
    (short : (frame sequence sendTimeNs (library.serialized payload)).length ≤ maxMessageBytes) :
    (library.serialize payload).length ≤ maxMessageBytes := by
  rw [frame, List.length_append] at short
  exact Nat.le_trans (Nat.le_add_left _ _) short

/-- An event is read back from its frame. -/
theorem parse_frame (documented : library.Documented)
    (short : (frame sequence sendTimeNs (library.serialized payload)).length ≤ maxMessageBytes) :
    library.parse (frame sequence sendTimeNs (library.serialized payload)) =
      some ⟨sequence, sendTimeNs, some payload⟩ := by
  have part := serialize_short short
  have small : (library.serialized payload).bytes.length < UInt32.size :=
    Nat.lt_of_le_of_lt part (by decide)
  have listed := library.serialized_listed payload
  have valid : ∀ field ∈ eventFields sequence sendTimeNs (library.serialized payload),
      field.Valid :=
    eventFields_valid listed small
  rw [frame_eq listed small] at short ⊢
  have carried := documented.absorb_payload ⟨sequence, sendTimeNs, none⟩ payload rfl part
  rw [documented.parse_fields _ valid short, library.eventFields_serialized]
  simp only [List.foldlM_cons, documented.absorb_sequence, documented.absorb_sendTimeNs,
    Int64.toInt64_toUInt64, carried, List.foldlM_nil, Option.bind_eq_bind, Option.bind_some,
    Option.pure_def]

/-- **The frame that is written by hand is the event.** Whatever the generated code makes of
messages, as long as it is what is documented: a frame, whose envelope is written by hand
around the shared bytes of its payload, is parsed as the event with exactly its sequence, send
time and payload. -/
theorem frame_is_read_as_event (library : Library) (documented : library.Documented)
    (payload : EventPayload) (sequence : UInt64) (sendTimeNs : Int64)
    (short : (frame sequence sendTimeNs (library.serialized payload)).length ≤ maxMessageBytes) :
    library.parse (frame sequence sendTimeNs (library.serialized payload)) =
      some ⟨sequence, sendTimeNs, some payload⟩ :=
  parse_frame documented short

/-! ### A library -/

/-- A library that is made from the schemas. -/
def ofSchema : Library where
  serialize := EventPayload.write
  absorb := marketDataEventSchema.absorb
  parse := marketDataEventSchema.parse

/-- The field of a payload is not too long if the payload is not. -/
theorem field_short (short : payload.write.length ≤ maxMessageBytes) :
    payload.field.write.length < UInt64.size := by
  have tag : (varint payload.field.tag).length ≤ 1 := by
    apply length_varint_le
    cases payload <;> simp [Field.tag, EventPayload.field, EventPayload.fieldNumber, Value.wireType]
  have size : (varint payload.write.length).length ≤ 5 :=
    length_varint_le (Nat.lt_of_le_of_lt short (by decide))
  have parts : payload.field.write.length = (varint payload.field.tag).length +
      ((varint payload.write.length).length + payload.write.length) := by
    rw [Field.write, EventPayload.field, Value.write, List.length_append, List.length_append]
  simp only [maxMessageBytes, UInt64.size] at short ⊢
  omega

/-- A payload's field is absorbed by its part of the event only. -/
theorem absorb_field (event : MarketDataEvent) :
    marketDataEventSchema.absorb event payload.field =
      (absorbPayload event.payload payload.field).map fun held =>
        { event with payload := held } := by
  cases payload <;>
    simp [marketDataEventSchema, Schema.via, Schema.pair, Schema.absorbBoth, Kind.field,
      payloadSchema, oneOf, EventPayload.field, EventPayload.fieldNumber, Function.comp_def]

/-- It does what is documented. -/
theorem ofSchema_documented : ofSchema.Documented where
  parse_fields fields valid _ := by
    have read : readFields (writeFields fields) = some fields := readFields_flatMap valid
    change marketDataEventSchema.merge _ _ = _
    rw [Schema.merge, read]
    rfl
  absorb_sequence event value := by cases event; rfl
  absorb_sendTimeNs event value := by cases event; rfl
  absorb_payload event payload absent short := by
    have absorbed := absorbPayload_field (field_short short)
    change marketDataEventSchema.absorb event payload.field = _
    rw [absorb_field, absent, absorbed, Option.map_some]

/-- The first frame of a connection, a book. -/
theorem frame_is_read_as_event_book :
    let content : EventPayload := .book ⟨65792, 1, [⟨5, -3⟩], [], 0, -1, 7⟩
    ofSchema.parse (frame 0 9 (ofSchema.serialized content)) = some ⟨0, 9, some content⟩ := by
  intro content
  exact frame_is_read_as_event ofSchema ofSchema_documented content 0 9 (by decide +kernel)

end Library

/-! ## What a client reads -/

namespace EventPayload

end EventPayload

namespace Library

variable (library : Library)

variable {library}

end Library

end DataFeed.Frontend.MarketData
