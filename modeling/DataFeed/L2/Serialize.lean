import DataFeed.Foundation.Codec
import DataFeed.L2.Message

/-! # Messages as bytes

A message is written into a buffer one field after another, without padding and
without a frame around it. The reader of a recording follows the documented layout
(`record`); the writer computes the record's size in one place and writes its fields
in another (`Message.getByteSize`, `Message.serialize`).
-/

namespace DataFeed.L2

open Foundation

/-- A buffer that is being written: the bytes so far, and those still to be written. -/
structure Span where
  front : List UInt8
  rest : List UInt8

namespace Span

/-- Copies bytes to the front of the rest, or runs past its end. -/
def write (out : Span) (source : List UInt8) : Option Span :=
  if source.length ≤ out.rest.length then
    some ⟨out.front ++ source, out.rest.drop source.length⟩
  else none

def writeValue (out : Span) (width value : Nat) : Option Span :=
  out.write (littleEndian width value)

end Span

/-- A signed number's bit pattern. -/
def signedBits (value : Int64) : Nat := value.toUInt64.toNat

/-- A level's two numbers in memory. -/
def levelBytes (level : Level) : List UInt8 :=
  littleEndian 8 (signedBits level.price) ++ littleEndian 8 (signedBits level.quantity)

/-- The size of a level in memory. -/
def levelSize : Nat := 16

/-- Writes a side's size in bytes, and then as many bytes of its levels. -/
def Span.writeSide (out : Span) (side : List Level) : Option Span :=
  let byteSize := UInt64.ofNat side.length * UInt64.ofNat levelSize
  (out.writeValue 8 byteSize.toNat).bind fun rest =>
    rest.write ((side.flatMap levelBytes).take byteSize.toNat)

/-- The number that stands for a message's type. -/
def MessageType.code : MessageType → Nat
  | .update => 0
  | .snapshot => 1

namespace Message

/-- The size of a record, in the writer's 64 bit arithmetic. -/
def getByteSize (message : Message) : UInt64 :=
  4 + 4 + 8 + 8 + 8 + UInt64.ofNat message.buys.length * UInt64.ofNat levelSize + 8 +
    UInt64.ofNat message.sells.length * UInt64.ofNat levelSize

/-- Writes a record to the front of a buffer. Returns the buffer, and the number of
bytes written unless it throws; nothing if it writes past the buffer's end. -/
def serialize (message : Message) (out : List UInt8) :
    Option (List UInt8 × Except String UInt64) :=
  if out.length < message.getByteSize.toNat then
    some (out, .error "l2::Message::Serialize: output buffer too small")
  else do
    let rest ← (Span.mk [] out).writeValue 4 message.type.code
    let rest ← rest.writeValue 4 message.checksum.toNat
    let rest ← rest.writeValue 8 (signedBits message.venueTimeNs)
    let rest ← rest.writeValue 8 (signedBits message.captureTimeNs)
    let rest ← rest.writeSide message.buys
    let rest ← rest.writeSide message.sells
    return (rest.front ++ rest.rest, .ok message.getByteSize)

/-- What is written of a message: a buffer of its size, filled. -/
def bytes (message : Message) : List UInt8 :=
  match message.serialize (List.replicate message.getByteSize.toNat 0) with
  | some (out, .ok _) => out
  | some (_, .error _) | none => []

/-- The record's size is below 2^64. -/
def Fits (message : Message) : Prop :=
  40 + levelSize * (message.buys.length + message.sells.length) < UInt64.size

/-- Both sides of a message that fits in memory fit. -/
theorem Fits.sides {message : Message} (fits : message.Fits) :
    levelSize * message.buys.length < UInt64.size ∧
      levelSize * message.sells.length < UInt64.size := by
  unfold Fits at fits
  rw [Nat.mul_add] at fits
  constructor
  · omega
  · omega

/-- The message, with the symbol that its file's header names. -/
def named (symbol : String) (message : Message) : Message := { message with symbol := symbol }

end Message

/-! ## The documented layout -/

/-- A number's bits fit in eight bytes. -/
theorem signedBits_lt (value : Int64) : signedBits value < 256 ^ 8 := value.toUInt64.toNat_lt

/-- A number is read back from its bits. -/
theorem ofBits_signedBits (value : Int64) :
    (UInt64.ofNat (signedBits value)).toInt64 = value := by
  rw [signedBits, UInt64.ofNat_toNat, Int64.toInt64_toUInt64]

/-- Signed 64 bit numbers. -/
def signed : Codec Int64 :=
  (Codec.number 8).via signedBits (fun bits => some (UInt64.ofNat bits).toInt64) (fun _ => True)
    fun value _ => ⟨signedBits_lt value, congrArg some (ofBits_signedBits value)⟩

/-- Unsigned 32 bit numbers. -/
def unsigned : Codec UInt32 :=
  (Codec.number 4).via UInt32.toNat (fun number => some (UInt32.ofNat number)) (fun _ => True)
    fun value _ => ⟨value.toNat_lt, congrArg some UInt32.ofNat_toNat⟩

def MessageType.ofCode : Nat → Option MessageType
  | 0 => some .update
  | 1 => some .snapshot
  | _ => none

def messageType : Codec MessageType :=
  (Codec.number 4).via MessageType.code MessageType.ofCode (fun _ => True) fun type _ => by
    cases type with
    | update => exact ⟨Nat.zero_lt_succ _, rfl⟩
    | snapshot => exact ⟨Nat.one_lt_pow (by decide) (by decide), rfl⟩

def level : Codec Level :=
  (signed.pair signed).via (fun level => (level.price, level.quantity))
    (fun parts => some ⟨parts.1, parts.2⟩) (fun _ => True) fun _ _ => ⟨⟨trivial, trivial⟩, rfl⟩

/-- A side: the size of its levels in bytes, and the levels. -/
def side : Codec (List Level) :=
  Codec.counted (Codec.number 8) levelSize (by decide) level

/-- The fields of a record, in order. -/
def fields : Codec (MessageType × UInt32 × Int64 × Int64 × List Level × List Level) :=
  messageType.pair (unsigned.pair (signed.pair (signed.pair (side.pair side))))

/-- A side that fits in memory can be read back. -/
theorem side_valid {levels : List Level} (fits : levelSize * levels.length < UInt64.size) :
    side.Valid levels :=
  ⟨(Nat.mul_comm _ _).trans_lt fits, fun _ _ => trivial⟩

/-- The record of a message, in a file that names its symbol. -/
def record (symbol : String) : Codec Message :=
  fields.via
    (fun message => (message.type, message.checksum, message.venueTimeNs, message.captureTimeNs,
      message.buys, message.sells))
    (fun parts => some ⟨parts.1, parts.2.1, parts.2.2.1, parts.2.2.2.1, symbol,
      parts.2.2.2.2.1, parts.2.2.2.2.2⟩)
    (fun message => message.symbol = symbol ∧ message.Fits)
    fun message valid => by
      obtain ⟨rfl, fits⟩ := valid
      obtain ⟨buys, sells⟩ := fits.sides
      exact ⟨⟨trivial, trivial, trivial, trivial, side_valid buys, side_valid sells⟩, rfl⟩

/-! ## What the writer writes -/

/-- A level takes as many bytes as it is said to. -/
theorem length_levelBytes (level : Level) : (levelBytes level).length = levelSize := by
  rw [levelBytes, List.length_append, length_littleEndian, length_littleEndian]
  rfl

/-- So do several. -/
theorem length_levels (levels : List Level) :
    (levels.flatMap levelBytes).length = levelSize * levels.length := by
  induction levels with
  | nil => rfl
  | cons level levels ih =>
      rw [List.flatMap_cons, List.length_append, length_levelBytes, ih, List.length_cons,
        Nat.mul_succ, Nat.add_comm]

/-- The size of a side is counted without wrapping. -/
theorem toNat_byteSize {count : Nat} (fits : levelSize * count < UInt64.size) :
    (UInt64.ofNat count * UInt64.ofNat levelSize).toNat = levelSize * count := by
  rw [← UInt64.ofNat_mul, UInt64.toNat_ofNat', Nat.mul_comm]
  exact Nat.mod_eq_of_lt fits

/-- What fits in a span is written at its front. -/
theorem Span.write_of_le {out : Span} {source : List UInt8}
    (room : source.length ≤ out.rest.length) :
    out.write source = some ⟨out.front ++ source, out.rest.drop source.length⟩ :=
  if_pos room

/-- Copies that fit into the rest together end up one after another. -/
theorem Span.foldlM_write {out : Span} {sources : List (List UInt8)}
    (room : sources.flatten.length ≤ out.rest.length) :
    sources.foldlM Span.write out =
      some ⟨out.front ++ sources.flatten, out.rest.drop sources.flatten.length⟩ := by
  induction sources generalizing out with
  | nil =>
      rw [List.flatten_nil, List.append_nil, List.length_nil, List.drop_zero]
      rfl
  | cons source sources ih =>
      rw [List.flatten_cons, List.length_append] at room
      rw [List.foldlM_cons, write_of_le (Nat.le_of_add_right_le room)]
      refine (ih ?_).trans ?_
      · rw [List.length_drop]
        omega
      · rw [List.flatten_cons, List.append_assoc, List.length_append, List.drop_drop]

/-- Copies that do not fit into the rest together run past its end. -/
theorem Span.foldlM_write_overrun {out : Span} {sources : List (List UInt8)}
    (long : out.rest.length < sources.flatten.length) :
    sources.foldlM Span.write out = none := by
  induction sources generalizing out with
  | nil => exact (Nat.not_lt_zero _ long).elim
  | cons source sources ih =>
      rw [List.flatten_cons, List.length_append] at long
      rw [List.foldlM_cons]
      by_cases room : source.length ≤ out.rest.length
      · rw [write_of_le room]
        refine ih ?_
        rw [List.length_drop]
        omega
      · rw [write, if_neg room]
        rfl

/-- A side is its length and its levels, one after the other. -/
theorem Span.writeSide_eq {out : Span} {side : List Level}
    (fits : levelSize * side.length < UInt64.size) :
    out.writeSide side =
      [littleEndian 8 (side.length * levelSize), side.flatMap levelBytes].foldlM Span.write out := by
  have whole : (side.flatMap levelBytes).take (levelSize * side.length) =
      side.flatMap levelBytes := by
    rw [← length_levels, List.take_length]
  simp only [writeSide, toNat_byteSize fits, whole, writeValue, List.foldlM_cons, List.foldlM_nil,
    Option.bind_eq_bind, Option.pure_def, Option.bind_fun_some, Nat.mul_comm]

namespace Message

variable {message : Message}

/-- What a record consists of. -/
def parts (message : Message) : List (List UInt8) :=
  [littleEndian 4 message.type.code, littleEndian 4 message.checksum.toNat,
    littleEndian 8 (signedBits message.venueTimeNs),
    littleEndian 8 (signedBits message.captureTimeNs),
    littleEndian 8 (message.buys.length * levelSize), message.buys.flatMap levelBytes,
    littleEndian 8 (message.sells.length * levelSize), message.sells.flatMap levelBytes]

/-- The parts of a message are its record, without the pair. -/
theorem flatten_parts (symbol : String) (message : Message) :
    message.parts.flatten = (record symbol).write message := by
  simp only [parts, record, fields, side, messageType, unsigned, signed, Codec.via, Codec.pair,
    Codec.counted, Codec.number, level, List.flatten_cons, List.flatten_nil, List.append_assoc,
    List.append_nil]
  rfl

/-- How many bytes the parts of a message have. -/
theorem length_parts (message : Message) :
    message.parts.flatten.length =
      40 + levelSize * (message.buys.length + message.sells.length) := by
  simp only [parts, List.flatten_cons, List.flatten_nil, List.length_append, length_littleEndian,
    length_levels, List.length_nil, Nat.mul_add]
  omega

/-- The size is computed as it comes out. -/
theorem toNat_getByteSize (fits : message.Fits) :
    message.getByteSize.toNat = message.parts.flatten.length := by
  obtain ⟨buys, sells⟩ := fits.sides
  unfold Fits at fits
  rw [length_parts, getByteSize]
  simp only [UInt64.toNat_add, toNat_byteSize buys, toNat_byteSize sells]
  rw [Nat.mul_add] at fits ⊢
  have size : UInt64.size = 18446744073709551616 := rfl
  have four : (4 : UInt64).toNat = 4 := rfl
  have eight : (8 : UInt64).toNat = 8 := rfl
  rw [four, eight]
  omega

/-- A record is written part by part. -/
theorem serialize_parts (buys : levelSize * message.buys.length < UInt64.size)
    (sells : levelSize * message.sells.length < UInt64.size) {out : List UInt8}
    (room : message.getByteSize.toNat ≤ out.length) :
    message.serialize out = (message.parts.foldlM Span.write ⟨[], out⟩).map fun span =>
      (span.front ++ span.rest, .ok message.getByteSize) := by
  rw [serialize, if_neg (Nat.not_lt.mpr room)]
  simp only [parts, Span.writeSide_eq buys, Span.writeSide_eq sells, Span.writeValue,
    List.foldlM_cons, List.foldlM_nil, Option.bind_eq_bind, Option.pure_def, Option.bind_fun_some,
    Option.bind_assoc, Option.map_eq_bind, Function.comp_def]

/-- A buffer that is long enough gets the record, and keeps the bytes after it. -/
theorem serialize_eq (fits : message.Fits) {out : List UInt8}
    (room : message.getByteSize.toNat ≤ out.length) :
    message.serialize out =
      some (message.parts.flatten ++ out.drop message.parts.flatten.length,
        .ok message.getByteSize) := by
  obtain ⟨buys, sells⟩ := fits.sides
  rw [serialize_parts buys sells room, Span.foldlM_write (by rwa [← toNat_getByteSize fits])]
  rfl

/-- A buffer that holds the computed size, but not the record, is overrun. -/
theorem serialize_overruns (buys : levelSize * message.buys.length < UInt64.size)
    (sells : levelSize * message.sells.length < UInt64.size) {out : List UInt8}
    (room : message.getByteSize.toNat ≤ out.length)
    (short : out.length < message.parts.flatten.length) : message.serialize out = none := by
  rw [serialize_parts buys sells room, Span.foldlM_write_overrun short]
  rfl

/-- A buffer that is too small is refused. -/
theorem serialize_refuses {out : List UInt8} (short : out.length < message.getByteSize.toNat) :
    message.serialize out =
      some (out, .error "l2::Message::Serialize: output buffer too small") :=
  if_pos short

/-- The bytes of a message are its parts. -/
theorem bytes_eq (fits : message.Fits) : message.bytes = message.parts.flatten := by
  have room : message.getByteSize.toNat ≤
      (List.replicate message.getByteSize.toNat (0 : UInt8)).length :=
    Nat.le_of_eq List.length_replicate.symm
  have filled := serialize_eq fits room
  rw [List.drop_of_length_le (Nat.le_of_eq (by rw [List.length_replicate, toNat_getByteSize fits])),
    List.append_nil] at filled
  rw [bytes, filled]

/-- The bytes of a message are those of its record. -/
theorem bytes_eq_write (symbol : String) (fits : message.Fits) :
    message.bytes = (record symbol).write (message.named symbol) :=
  (bytes_eq fits).trans (flatten_parts symbol (message.named symbol))

/-- The reader of a file recovers the messages that were written to it. -/
theorem readAll_bytes (symbol : String) {messages : List Message}
    (fits : ∀ message ∈ messages, message.Fits) :
    (record symbol).readAll (messages.flatMap bytes) = some (messages.map (named symbol)) := by
  have written : messages.flatMap bytes =
      (messages.map (named symbol)).flatMap (record symbol).write := by
    rw [List.flatMap_map]
    exact List.flatMap_congr fun message member => bytes_eq_write symbol (fits message member)
  rw [written]
  refine (record symbol).readAll_flatMap fun message member => ?_
  obtain ⟨original, listed, rfl⟩ := List.mem_map.mp member
  refine ⟨⟨rfl, fits original listed⟩, fun empty => ?_⟩
  have size := length_parts (original.named symbol)
  rw [flatten_parts symbol, empty, List.length_nil] at size
  omega

/-- Both sides' levels are at multiples of 8 from the start of the record. -/
theorem bytes_aligned (fits : message.Fits) :
    ∃ head between, message.bytes =
        head ++ message.buys.flatMap levelBytes ++ between ++ message.sells.flatMap levelBytes ∧
      8 ∣ head.length ∧ 8 ∣ (head ++ message.buys.flatMap levelBytes ++ between).length := by
  refine ⟨(message.parts.take 5).flatten, littleEndian 8 (message.sells.length * levelSize),
    ?_, ?_, ?_⟩
  · rw [bytes_eq fits]
    simp only [parts, List.take_succ_cons, List.take_zero, List.flatten_cons, List.flatten_nil,
      List.append_assoc, List.append_nil]
  · simp only [parts, List.take_succ_cons, List.take_zero, List.flatten_cons, List.flatten_nil,
      List.length_append, length_littleEndian, List.length_nil]
    decide
  · simp only [parts, List.take_succ_cons, List.take_zero, List.flatten_cons, List.flatten_nil,
      List.length_append, length_littleEndian, length_levels, List.length_nil]
    rw [levelSize]
    omega

end Message

/-- **Recordings are uniquely decodable.** Messages whose records' sizes are below
2^64, written one after another, are recovered from their bytes, up to the symbol, which
the file's header names. A record fills the front of any buffer of its computed size or
longer, with both level arrays at multiples of 8, and keeps the rest; a shorter buffer is
refused untouched. -/
theorem recordings_decodable :
    (∀ first second : List Message, (∀ message ∈ first ++ second, message.Fits) →
      first.flatMap Message.bytes = second.flatMap Message.bytes →
        first.length = second.length ∧
          ∀ symbol, first.map (Message.named symbol) = second.map (Message.named symbol)) ∧
    (∀ symbol, ∀ messages : List Message, (∀ message ∈ messages, message.Fits) →
      (record symbol).readAll (messages.flatMap Message.bytes) =
        some (messages.map (Message.named symbol))) ∧
    ∀ message : Message, message.Fits →
      message.bytes.length = message.getByteSize.toNat ∧
      (∀ out : List UInt8, message.getByteSize.toNat ≤ out.length →
        message.serialize out = some (message.bytes ++ out.drop message.getByteSize.toNat,
          .ok message.getByteSize)) ∧
      (∀ out : List UInt8, out.length < message.getByteSize.toNat →
        message.serialize out =
          some (out, .error "l2::Message::Serialize: output buffer too small")) ∧
      ∃ head between, message.bytes =
          head ++ message.buys.flatMap levelBytes ++ between ++ message.sells.flatMap levelBytes ∧
        8 ∣ head.length ∧ 8 ∣ (head ++ message.buys.flatMap levelBytes ++ between).length := by
  refine ⟨fun first second fits same => ?_, fun symbol messages => Message.readAll_bytes symbol,
    fun message fits => ⟨?_, fun out room => ?_, fun out => Message.serialize_refuses,
      Message.bytes_aligned fits⟩⟩
  · have equal : ∀ symbol,
        first.map (Message.named symbol) = second.map (Message.named symbol) := by
      intro symbol
      have left := Message.readAll_bytes symbol fun message member =>
        fits message (List.mem_append_left second member)
      have right := Message.readAll_bytes symbol fun message member =>
        fits message (List.mem_append_right first member)
      rw [same] at left
      exact Option.some.inj (left.symm.trans right)
    refine ⟨?_, equal⟩
    have lengths := congrArg List.length (equal "")
    rwa [List.length_map, List.length_map] at lengths
  · rw [Message.bytes_eq fits, Message.toNat_getByteSize fits]
  · rw [Message.serialize_eq fits room, Message.bytes_eq fits, Message.toNat_getByteSize fits]

/-- Two messages with levels on either side, read back from one text. -/
theorem recordings_decodable_two :
    let first : Message := ⟨.snapshot, 7, 1, -2, "XBT/USD", [⟨100, 5⟩], [⟨101, 1⟩, ⟨102, 3⟩]⟩
    let second : Message := ⟨.update, 8, 3, 4, "XBT/USD", [], [⟨101, 0⟩]⟩
    (record "XBT/USD").readAll ([first, second].flatMap Message.bytes) =
      some [first, second] := by
  intro first second
  have fits : ∀ message ∈ [first, second], message.Fits := by
    intro message member
    rcases List.mem_pair.mp member with rfl | rfl
    · show 40 + 16 * 3 < UInt64.size
      decide
    · show 40 + 16 * 1 < UInt64.size
      decide
  exact recordings_decodable.2.1 "XBT/USD" [first, second] fits

/-- A record of 2^64 bytes and more is computed to be short, and runs past a buffer of
that size. -/
theorem record_size_wraps :
    ∃ message : Message, message.buys.length < 1152921504606846976 ∧
      message.sells.length < 1152921504606846976 ∧
      ∃ out : List UInt8, message.getByteSize.toNat ≤ out.length ∧
        message.serialize out = none := by
  have wrapped : ∀ message : Message, message.buys.length = 1152921504606846975 →
      message.sells.length = 1 → ∀ out : List UInt8, out.length = 40 →
        message.getByteSize.toNat ≤ out.length ∧ message.serialize out = none := by
    intro message buys sells out length
    have size : message.getByteSize.toNat = 40 := by
      rw [Message.getByteSize, buys, sells]
      decide
    have room := Nat.le_of_eq (size.trans length.symm)
    refine ⟨room, Message.serialize_overruns ?_ ?_ room ?_⟩
    · rw [buys]
      decide
    · rw [sells]
      decide
    · rw [Message.length_parts, length, buys, sells]
      decide
  refine ⟨⟨.update, 0, 0, 0, "XBT/USD", List.replicate 1152921504606846975 ⟨0, 0⟩, [⟨0, 0⟩]⟩,
    ?_, by decide, List.replicate 40 0,
    wrapped _ List.length_replicate rfl _ List.length_replicate⟩
  rw [List.length_replicate]
  decide

end DataFeed.L2
