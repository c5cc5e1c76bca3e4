import DataFeed.Foundation.Protobuf
import DataFeed.Frontend.Wire

/-! # The envelope of an event

A payload is serialized once and shared by every client; each client's frame is the
envelope's fields, written by hand, and the payload's bytes behind them. By the wire
format the result is the event: its sequence, its send time and the payload's field, and
nothing else.
-/

namespace DataFeed.Frontend

open Foundation

/-- A payload as it goes out. -/
structure SerializedPayload where
  /-- Its field number in `MarketDataEvent`. -/
  fieldNumber : Int32
  bytes : List UInt8
  deriving DecidableEq, Repr

/-- The field numbers of `MarketDataEvent`'s payloads. -/
def payloadFieldNumbers : List Int32 := [3, 4, 5, 6, 7]

def sequenceFieldNumber : Int32 := 1
def sendTimeNsFieldNumber : Int32 := 2

def wireTypeVarint : UInt32 := 0
def wireTypeFixed64 : UInt32 := 1
def wireTypeLengthDelimited : UInt32 := 2

/-- What a field starts with. -/
def tag (fieldNumber : Int32) (wireType : UInt32) : UInt32 := fieldNumber.toUInt32 <<< 3 ||| wireType

/-- The start of an event: its sequence and send time, and the payload's tag and
length. -/
def frameHeader (sequence : UInt64) (sendTimeNs : Int64) (payload : SerializedPayload) :
    List UInt8 :=
  Protobuf.varint (tag sequenceFieldNumber wireTypeVarint).toNat ++
    Protobuf.varint sequence.toNat ++
    Protobuf.varint (tag sendTimeNsFieldNumber wireTypeFixed64).toNat ++
    littleEndian 8 sendTimeNs.toUInt64.toNat ++
    Protobuf.varint (tag payload.fieldNumber wireTypeLengthDelimited).toNat ++
    Protobuf.varint (UInt32.ofNat payload.bytes.length).toNat

/-- The whole event. -/
def frame (sequence : UInt64) (sendTimeNs : Int64) (payload : SerializedPayload) : List UInt8 :=
  frameHeader sequence sendTimeNs payload ++ payload.bytes

/-- The fields of an event. -/
def eventFields (sequence : UInt64) (sendTimeNs : Int64) (payload : SerializedPayload) :
    List Protobuf.Field :=
  [⟨1, .varint sequence⟩, ⟨2, .fixed64 sendTimeNs.toUInt64⟩,
    ⟨payload.fieldNumber.toNatClampNeg, .bytes payload.bytes⟩]

/-- A payload's tag says its field number, and that bytes follow their length. -/
theorem tag_payload {fieldNumber : Int32} (listed : fieldNumber ∈ payloadFieldNumbers) :
    (tag fieldNumber wireTypeLengthDelimited).toNat = fieldNumber.toNatClampNeg * 8 + 2 ∧
      0 < fieldNumber.toNatClampNeg ∧ fieldNumber.toNatClampNeg ≤ 7 := by
  have every : payloadFieldNumbers.all fun number =>
      (tag number wireTypeLengthDelimited).toNat = number.toNatClampNeg * 8 + 2 ∧
        0 < number.toNatClampNeg ∧ number.toNatClampNeg ≤ 7 := by
    decide
  exact of_decide_eq_true (List.all_eq_true.mp every fieldNumber listed)

variable {sequence : UInt64} {sendTimeNs : Int64} {payload : SerializedPayload}

/-- What is written by hand is the event's fields, one after another. -/
theorem frame_eq (listed : payload.fieldNumber ∈ payloadFieldNumbers)
    (small : payload.bytes.length < UInt32.size) :
    frame sequence sendTimeNs payload =
      (eventFields sequence sendTimeNs payload).flatMap Protobuf.Field.write := by
  have tagged := (tag_payload listed).1
  have size : (UInt32.ofNat payload.bytes.length).toNat = payload.bytes.length :=
    UInt32.toNat_ofNat_of_lt small
  simp only [frame, frameHeader, eventFields, List.flatMap_cons, List.flatMap_nil,
    List.append_nil, Protobuf.Field.write, Protobuf.Field.tag, Protobuf.Value.write,
    Protobuf.Value.wireType, tagged, size, List.append_assoc]
  rfl

theorem eventFields_valid (listed : payload.fieldNumber ∈ payloadFieldNumbers)
    (small : payload.bytes.length < UInt32.size) :
    ∀ field ∈ eventFields sequence sendTimeNs payload, field.Valid := by
  obtain ⟨_, positive, below⟩ := tag_payload listed
  have fits : payload.bytes.length < UInt64.size := Nat.lt_trans small (by decide)
  intro field member
  simp only [eventFields, List.mem_cons, List.not_mem_nil, or_false] at member
  rcases member with rfl | rfl | rfl
  · exact ⟨Nat.one_pos, by simp only [Protobuf.Field.tag, Protobuf.Value.wireType]; decide, trivial⟩
  · exact ⟨Nat.two_pos, by simp only [Protobuf.Field.tag, Protobuf.Value.wireType]; decide, trivial⟩
  · refine ⟨positive, ?_, fits⟩
    simp only [Protobuf.Field.tag, Protobuf.Value.wireType, UInt32.size]
    omega

theorem readFields_frame (listed : payload.fieldNumber ∈ payloadFieldNumbers)
    (small : payload.bytes.length < UInt32.size) :
    Protobuf.readFields (frame sequence sendTimeNs payload) =
      some (eventFields sequence sendTimeNs payload) := by
  rw [frame_eq listed small]
  exact Protobuf.readFields_flatMap (eventFields_valid listed small)

theorem toNatClampNeg_injective {first second : Int32} (one : first ∈ payloadFieldNumbers)
    (two : second ∈ payloadFieldNumbers)
    (same : first.toNatClampNeg = second.toNatClampNeg) : first = second := by
  have every : payloadFieldNumbers.all fun first => payloadFieldNumbers.all fun second =>
      first.toNatClampNeg = second.toNatClampNeg → first = second := by
    decide
  have all := List.all_eq_true.mp every first one
  exact of_decide_eq_true (List.all_eq_true.mp all second two) same

/-- **A frame is the event it stands for.** Read by the wire format it is exactly the
sequence, the send time in two's complement, and the payload's field with the payload's
bytes; so frames of equal bytes are of the same event. -/
theorem frame_is_event (sequence : UInt64) (sendTimeNs : Int64) (payload : SerializedPayload)
    (listed : payload.fieldNumber ∈ payloadFieldNumbers)
    (small : payload.bytes.length < UInt32.size) :
    Protobuf.readFields (frame sequence sendTimeNs payload) =
        some [⟨1, .varint sequence⟩, ⟨2, .fixed64 sendTimeNs.toUInt64⟩,
          ⟨payload.fieldNumber.toNatClampNeg, .bytes payload.bytes⟩] ∧
      ∀ (other : UInt64) (otherTimeNs : Int64) (otherPayload : SerializedPayload),
        otherPayload.fieldNumber ∈ payloadFieldNumbers →
        otherPayload.bytes.length < UInt32.size →
        frame sequence sendTimeNs payload = frame other otherTimeNs otherPayload →
          sequence = other ∧ sendTimeNs = otherTimeNs ∧ payload = otherPayload := by
  refine ⟨readFields_frame listed small, ?_⟩
  intro other otherTimeNs otherPayload otherListed otherSmall same
  have fields : eventFields sequence sendTimeNs payload =
      eventFields other otherTimeNs otherPayload := by
    apply Option.some.inj
    rw [← readFields_frame listed small, ← readFields_frame otherListed otherSmall, same]
  simp only [eventFields, List.cons.injEq, Protobuf.Field.mk.injEq, Protobuf.Value.varint.injEq,
    Protobuf.Value.fixed64.injEq, Protobuf.Value.bytes.injEq, true_and, and_true] at fields
  obtain ⟨sequences, times, numbers, bytes⟩ := fields
  have times : sendTimeNs = otherTimeNs := by
    rw [← Int64.toInt64_toUInt64 sendTimeNs, times, Int64.toInt64_toUInt64]
  refine ⟨sequences, times, ?_⟩
  cases payload
  cases otherPayload
  obtain rfl := toNatClampNeg_injective listed otherListed numbers
  obtain rfl := bytes
  rfl

/-- A book of three bytes, sent before the epoch. -/
theorem frame_is_event_book :
    Protobuf.readFields (frame 300 (-5) ⟨4, [8, 3, 16]⟩) =
      some [⟨1, .varint 300⟩, ⟨2, .fixed64 (-5)⟩, ⟨4, .bytes [8, 3, 16]⟩] :=
  (frame_is_event 300 (-5) ⟨4, [8, 3, 16]⟩ (by decide) (by decide)).1

end DataFeed.Frontend
