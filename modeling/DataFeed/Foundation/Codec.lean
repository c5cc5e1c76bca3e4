import Mathlib.Algebra.Order.Ring.Nat
import Mathlib.Data.List.Basic

/-! # Values as bytes

A `Codec` writes values as bytes and reads them back from the front of a longer
text; that what was written is read again, with the rest left over, is a field of the
structure. Codecs are composed from numbers of a fixed width by pairing
(`Codec.pair`), by a list behind its count (`Codec.counted`) and by a change of type
(`Codec.via`). A text of records without any framing is then read back record by
record (`Codec.readAll_flatMap`).
-/

namespace Foundation

/-- The low bytes of a number, the lowest first. -/
def littleEndian : Nat → Nat → List UInt8
  | 0, _ => []
  | width + 1, number => UInt8.ofNat number :: littleEndian width (number / 256)

/-- The number that bytes are, the lowest first. -/
def ofLittleEndian : List UInt8 → Nat
  | [] => 0
  | byte :: rest => byte.toNat + 256 * ofLittleEndian rest

@[simp] theorem length_littleEndian (width number : Nat) :
    (littleEndian width number).length = width := by
  induction width generalizing number with
  | zero => rfl
  | succ width ih => simp only [littleEndian, List.length_cons, ih]

theorem ofLittleEndian_littleEndian {width number : Nat} (fits : number < 256 ^ width) :
    ofLittleEndian (littleEndian width number) = number := by
  induction width generalizing number with
  | zero =>
      obtain rfl : number = 0 := by omega
      rfl
  | succ width ih =>
      have quotient : number / 256 < 256 ^ width := by
        rw [Nat.pow_succ] at fits
        omega
      have byte : (UInt8.ofNat number).toNat = number % 256 := UInt8.toNat_ofNat'
      rw [littleEndian, ofLittleEndian, ih quotient, byte]
      omega

/-- Writes values as bytes, and reads them from the front of some bytes. -/
structure Codec (Value : Type*) where
  /-- The values that can be written. -/
  Valid : Value → Prop
  write : Value → List UInt8
  read : List UInt8 → Option (Value × List UInt8)
  read_write : ∀ value, Valid value → ∀ rest, read (write value ++ rest) = some (value, rest)

namespace Codec

variable {Value Other : Type*}

/-- The first bytes of a text, if it is that long. -/
def split (count : Nat) (bytes : List UInt8) : Option (List UInt8 × List UInt8) :=
  if count ≤ bytes.length then some (bytes.take count, bytes.drop count) else none

theorem split_append (front rest : List UInt8) :
    split front.length (front ++ rest) = some (front, rest) := by
  have long : front.length ≤ (front ++ rest).length := by
    rw [List.length_append]
    exact Nat.le_add_right _ _
  rw [split, if_pos long, List.take_left, List.drop_left]

/-- Numbers of a fixed width. -/
def number (width : Nat) : Codec Nat where
  Valid value := value < 256 ^ width
  write := littleEndian width
  read bytes := (split width bytes).map fun parts => (ofLittleEndian parts.1, parts.2)
  read_write value fits rest := by
    have front := split_append (littleEndian width value) rest
    rw [length_littleEndian] at front
    rw [front, Option.map_some, ofLittleEndian_littleEndian fits]

/-- Bytes as they are, a fixed number of them. -/
def raw (count : Nat) : Codec (List UInt8) where
  Valid bytes := bytes.length = count
  write bytes := bytes
  read := split count
  read_write bytes sized rest := by
    rw [← sized]
    exact split_append bytes rest

/-- One value after another. -/
def pair (first : Codec Value) (second : Codec Other) : Codec (Value × Other) where
  Valid value := first.Valid value.1 ∧ second.Valid value.2
  write value := first.write value.1 ++ second.write value.2
  read bytes := (first.read bytes).bind fun left =>
    (second.read left.2).map fun right => ((left.1, right.1), right.2)
  read_write value valid rest := by
    rw [List.append_assoc, first.read_write _ valid.1, Option.bind_some,
      second.read_write _ valid.2, Option.map_some]

/-- Values that are written as others. -/
def via (codec : Codec Other) (encode : Value → Other) (decode : Other → Option Value)
    (Encodes : Value → Prop) (decode_encode : ∀ value, Encodes value →
      codec.Valid (encode value) ∧ decode (encode value) = some value) : Codec Value where
  Valid := Encodes
  write value := codec.write (encode value)
  read bytes := (codec.read bytes).bind fun parts =>
    (decode parts.1).map fun value => (value, parts.2)
  read_write value valid rest := by
    obtain ⟨fits, back⟩ := decode_encode value valid
    rw [codec.read_write _ fits, Option.bind_some, back, Option.map_some]

/-- As many values as told. -/
def readMany (codec : Codec Value) : Nat → List UInt8 → Option (List Value × List UInt8)
  | 0, bytes => some ([], bytes)
  | count + 1, bytes => (codec.read bytes).bind fun first =>
      (readMany codec count first.2).map fun others => (first.1 :: others.1, others.2)

theorem readMany_flatMap (codec : Codec Value) {values : List Value}
    (valid : ∀ value ∈ values, codec.Valid value) (rest : List UInt8) :
    codec.readMany values.length (values.flatMap codec.write ++ rest) = some (values, rest) := by
  induction values with
  | nil => rfl
  | cons value values ih =>
      have later := ih fun other member => valid other (List.mem_cons_of_mem _ member)
      rw [List.flatMap_cons, List.append_assoc, List.length_cons, readMany,
        codec.read_write value (valid value List.mem_cons_self), Option.bind_some, later,
        Option.map_some]

/-- A list behind its size, which counts `unit` for each value. -/
def counted (size : Codec Nat) (unit : Nat) (positive : 0 < unit) (codec : Codec Value) :
    Codec (List Value) where
  Valid values := size.Valid (values.length * unit) ∧ ∀ value ∈ values, codec.Valid value
  write values := size.write (values.length * unit) ++ values.flatMap codec.write
  read bytes := (size.read bytes).bind fun parts => codec.readMany (parts.1 / unit) parts.2
  read_write values valid rest := by
    rw [List.append_assoc, size.read_write _ valid.1, Option.bind_some,
      Nat.mul_div_cancel _ positive, codec.readMany_flatMap valid.2]

/-- Reads values until nothing is left over; each takes at least one byte, so as many
rounds as there are bytes are enough. -/
def readAllWithin (codec : Codec Value) : Nat → List UInt8 → Option (List Value)
  | _, [] => some []
  | 0, _ :: _ => none
  | rounds + 1, byte :: bytes => (codec.read (byte :: bytes)).bind fun first =>
      (readAllWithin codec rounds first.2).map (first.1 :: ·)

/-- Reads values until nothing is left over. -/
def readAll (codec : Codec Value) (bytes : List UInt8) : Option (List Value) :=
  codec.readAllWithin bytes.length bytes

theorem readAllWithin_flatMap (codec : Codec Value) {values : List Value}
    (valid : ∀ value ∈ values, codec.Valid value ∧ codec.write value ≠ []) {rounds : Nat}
    (enough : (values.flatMap codec.write).length ≤ rounds) :
    codec.readAllWithin rounds (values.flatMap codec.write) = some values := by
  induction values generalizing rounds with
  | nil => cases rounds <;> rfl
  | cons value values ih =>
      obtain ⟨fits, nonempty⟩ := valid value List.mem_cons_self
      obtain ⟨byte, bytes, written⟩ := List.exists_cons_of_ne_nil nonempty
      have back := codec.read_write value fits (values.flatMap codec.write)
      rw [List.flatMap_cons, written, List.cons_append] at enough ⊢
      rw [written, List.cons_append] at back
      rw [List.length_cons, List.length_append] at enough
      obtain ⟨rounds, rfl⟩ : ∃ fewer, rounds = fewer + 1 := ⟨rounds - 1, by omega⟩
      have later := @ih (fun other member => valid other (List.mem_cons_of_mem _ member)) rounds
        (by omega)
      rw [readAllWithin, back, Option.bind_some, later, Option.map_some]

/-- **Records need no framing.** A text of records is read back to exactly these. -/
theorem readAll_flatMap (codec : Codec Value) {values : List Value}
    (valid : ∀ value ∈ values, codec.Valid value ∧ codec.write value ≠ []) :
    codec.readAll (values.flatMap codec.write) = some values :=
  codec.readAllWithin_flatMap valid (Nat.le_refl _)

end Codec

end Foundation
