import DataFeed.Foundation.Codec

/-! # The protobuf wire format

A message is the concatenation of its fields. A field is a tag, which holds the field's
number and how its value is written, and the value: a number in groups of seven bits
(`varint`), a number of a fixed width, or bytes behind their length. Every field is read
back from the front of whatever follows it (`Field.codec`), so a message is read back as
exactly its fields (`readFields_flatMap`).
-/

namespace Foundation.Protobuf

/-- A number in groups of seven bits, the lowest first; a group that another follows has
its high bit set. -/
def varint (number : Nat) : List UInt8 :=
  if number < 128 then [UInt8.ofNat number]
  else UInt8.ofNat (number % 128 + 128) :: varint (number / 128)
termination_by number
decreasing_by omega

/-- Reads up to a number of groups. -/
def readGroups : Nat → List UInt8 → Option (Nat × List UInt8)
  | 0, _ => none
  | _ + 1, [] => none
  | groups + 1, byte :: rest =>
      if byte.toNat < 128 then some (byte.toNat, rest)
      else (readGroups groups rest).map fun higher => (byte.toNat - 128 + 128 * higher.1, higher.2)

/-- The most groups that a number of 64 bits takes. -/
def maxVarintBytes : Nat := 10

theorem varint_ne_nil (number : Nat) : varint number ≠ [] := by
  rw [varint]
  split <;> exact List.cons_ne_nil _ _

theorem readGroups_varint {groups number : Nat} (fits : number < 128 ^ (groups + 1))
    (rest : List UInt8) :
    readGroups (groups + 1) (varint number ++ rest) = some (number, rest) := by
  have last : ∀ groups number, number < 128 →
      readGroups (groups + 1) (varint number ++ rest) = some (number, rest) := by
    intro groups number small
    have byte : (UInt8.ofNat number).toNat = number :=
      UInt8.toNat_ofNat_of_lt (by simp only [UInt8.size]; omega)
    rw [varint, if_pos small, List.singleton_append, readGroups, byte, if_pos small]
  induction groups generalizing number with
  | zero => exact last 0 number fits
  | succ groups ih =>
      by_cases small : number < 128
      · exact last (groups + 1) number small
      · have byte : (UInt8.ofNat (number % 128 + 128)).toNat = number % 128 + 128 :=
          UInt8.toNat_ofNat_of_lt (by simp only [UInt8.size]; omega)
        have higher : number / 128 < 128 ^ (groups + 1) := by
          rw [Nat.pow_succ] at fits
          omega
        rw [varint, if_neg small, List.cons_append, readGroups, byte, if_neg (by omega),
          ih higher, Option.map_some]
        congr 2
        omega

/-- A number of 64 bits. Higher bits of the last group are dropped. -/
def varintCodec : Codec UInt64 where
  Valid _ := True
  write value := varint value.toNat
  read bytes := (readGroups maxVarintBytes bytes).map fun parts => (UInt64.ofNat parts.1, parts.2)
  read_write value _ rest := by
    have fits : value.toNat < 128 ^ maxVarintBytes :=
      Nat.lt_trans value.toNat_lt (by decide)
    rw [maxVarintBytes, readGroups_varint fits, Option.map_some, UInt64.ofNat_toNat]

/-- What a field holds. -/
inductive Value where
  | varint (value : UInt64)
  | fixed64 (value : UInt64)
  | bytes (value : List UInt8)
  | fixed32 (value : UInt32)
  deriving DecidableEq, Repr

/-- One field of a message. -/
structure Field where
  number : Nat
  value : Value
  deriving DecidableEq, Repr

namespace Value

/-- How a value is written, as its tag says it. -/
def wireType : Value → Nat
  | .varint _ => 0
  | .fixed64 _ => 1
  | .bytes _ => 2
  | .fixed32 _ => 5

def write : Value → List UInt8
  | .varint value => Protobuf.varint value.toNat
  | .fixed64 value => littleEndian 8 value.toNat
  | .bytes value => Protobuf.varint value.length ++ value
  | .fixed32 value => littleEndian 4 value.toNat

/-- Reads a value that is written as its tag says, if that is known. -/
def read (wireType : Nat) (bytes : List UInt8) : Option (Value × List UInt8) :=
  match wireType with
  | 0 => (varintCodec.read bytes).map fun parts => (.varint parts.1, parts.2)
  | 1 => ((Codec.number 8).read bytes).map fun parts => (.fixed64 (UInt64.ofNat parts.1), parts.2)
  | 2 => (varintCodec.read bytes).bind fun size =>
      (Codec.split size.1.toNat size.2).map fun parts => (.bytes parts.1, parts.2)
  | 5 => ((Codec.number 4).read bytes).map fun parts => (.fixed32 (UInt32.ofNat parts.1), parts.2)
  | _ => none

/-- A value whose length, if it has one, can be written. -/
def Valid : Value → Prop
  | .bytes value => value.length < UInt64.size
  | .varint _ | .fixed64 _ | .fixed32 _ => True

theorem read_write {value : Value} (valid : value.Valid) (rest : List UInt8) :
    read value.wireType (value.write ++ rest) = some (value, rest) := by
  cases value with
  | varint value =>
      have back := varintCodec.read_write value trivial rest
      exact congrArg (Option.map _) back
  | fixed64 value =>
      have back := (Codec.number 8).read_write value.toNat value.toNat_lt rest
      simp only [wireType, read, write, Codec.number] at back ⊢
      rw [back, Option.map_some, UInt64.ofNat_toNat]
  | fixed32 value =>
      have back := (Codec.number 4).read_write value.toNat value.toNat_lt rest
      simp only [wireType, read, write, Codec.number] at back ⊢
      rw [back, Option.map_some, UInt32.ofNat_toNat]
  | bytes value =>
      have size : (UInt64.ofNat value.length).toNat = value.length :=
        UInt64.toNat_ofNat_of_lt valid
      have back := varintCodec.read_write (UInt64.ofNat value.length) trivial (value ++ rest)
      simp only [varintCodec, size] at back
      simp only [wireType, read, write, varintCodec, List.append_assoc]
      rw [back, Option.bind_some, size, Codec.split_append, Option.map_some]

end Value

namespace Field

/-- The number and the kind of value of a field. -/
def tag (field : Field) : Nat := field.number * 8 + field.value.wireType

/-- A number that fits a tag, with a value that can be written. -/
def Valid (field : Field) : Prop :=
  0 < field.number ∧ field.tag < UInt32.size ∧ field.value.Valid

def write (field : Field) : List UInt8 := varint field.tag ++ field.value.write

def read (bytes : List UInt8) : Option (Field × List UInt8) :=
  (varintCodec.read bytes).bind fun tag =>
    if tag.1.toNat / 8 = 0 ∨ UInt32.size ≤ tag.1.toNat then none
    else
      (Value.read (tag.1.toNat % 8) tag.2).map fun parts =>
        (⟨tag.1.toNat / 8, parts.1⟩, parts.2)

theorem read_write {field : Field} (valid : field.Valid) (rest : List UInt8) :
    read (field.write ++ rest) = some (field, rest) := by
  obtain ⟨positive, fits, value⟩ := valid
  have short : field.tag < UInt64.size := Nat.lt_trans fits (by decide)
  have tag : (UInt64.ofNat field.tag).toNat = field.tag := UInt64.toNat_ofNat_of_lt short
  have kind : field.value.wireType < 8 := by
    cases field.value <;> simp only [Value.wireType, Nat.reduceLT]
  have number : field.tag / 8 = field.number := by
    simp only [Field.tag]
    omega
  have wireType : field.tag % 8 = field.value.wireType := by
    simp only [Field.tag]
    omega
  have back := varintCodec.read_write (UInt64.ofNat field.tag) trivial (field.value.write ++ rest)
  simp only [varintCodec, tag] at back
  simp only [read, write, varintCodec, List.append_assoc]
  rw [back, Option.bind_some, tag, number, wireType, Value.read_write value, Option.map_some,
    if_neg (by omega)]

/-- Fields, as they follow one another in a message. -/
def codec : Codec Field where
  Valid := Valid
  write := write
  read := read
  read_write _ := read_write

end Field

/-- The fields of a message, if its bytes are one. -/
def readFields (bytes : List UInt8) : Option (List Field) := Field.codec.readAll bytes

/-- **A message is read back as its fields.** -/
theorem readFields_flatMap {fields : List Field} (valid : ∀ field ∈ fields, field.Valid) :
    readFields (fields.flatMap Field.write) = some fields := by
  apply Field.codec.readAll_flatMap
  intro field member
  exact ⟨valid field member, List.append_ne_nil_of_left_ne_nil (varint_ne_nil _) _⟩

end Foundation.Protobuf
