import DataFeed.Foundation.Protobuf
import Mathlib.Data.List.Flatten
import Mathlib.Logic.Equiv.Defs

/-! # Protobuf messages

A schema says as which fields a message is written, and what one more field makes of a
message that is being read. Fields that hold what a reader assumes anyway are left out, of
two values of a field the later one counts, and fields that are not known are skipped. That
a message is restored by its own fields is a field of the structure. Schemas are composed as
a message type is declared: a field of some kind (`Kind.field`), a repeated one
(`Schema.items`, `packed`), one of several (`oneOf`), one part beside another
(`Schema.pair`), and under the names of a record (`Schema.via`). A message is then read back
from its bytes (`Schema.parse_write`).
-/

namespace Foundation.Protobuf

/-! ## Kinds of values -/

namespace Value

/-- What a reader assumes of a field that is not there. -/
def isDefault : Value → Bool
  | .varint value => value = 0
  | .fixed64 value => value = 0
  | .bytes value => value = []
  | .fixed32 value => value = 0

/-- A signed number that is small in both directions. -/
def zigzag (number : Int64) : UInt64 :=
  if 0 ≤ number.toInt then UInt64.ofNat (2 * number.toInt.natAbs)
  else UInt64.ofNat (2 * number.toInt.natAbs - 1)

def unzigzag (value : UInt64) : Int64 :=
  if value.toNat % 2 = 0 then Int64.ofInt (value.toNat / 2 : Nat)
  else Int64.ofInt (-((value.toNat / 2 : Nat) : Int) - 1)

@[simp] theorem unzigzag_zigzag (number : Int64) : unzigzag (zigzag number) = number := by
  have above := number.toInt_lt
  have below := number.le_toInt
  have small : ∀ size : Nat, size < 2 ^ 64 → (UInt64.ofNat size).toNat = size :=
    fun size fits => UInt64.toNat_ofNat_of_lt fits
  unfold zigzag
  split
  · rename_i positive
    have half : ((2 * number.toInt.natAbs / 2 : Nat) : Int) = number.toInt := by omega
    rw [unzigzag, small _ (by omega), if_pos (by omega), half, Int64.ofInt_toInt]
  · rename_i negative
    have half : (-(((2 * number.toInt.natAbs - 1) / 2 : Nat) : Int) - 1) = number.toInt := by
      omega
    rw [unzigzag, small _ (by omega), if_neg (by omega), half, Int64.ofInt_toInt]

/-- The bytes of a text. -/
def utf8 (text : String) : List UInt8 := text.toByteArray.data.toList

/-- The text that bytes are, if they are one. -/
def ofUtf8 (bytes : List UInt8) : Option String := String.fromUTF8? ⟨bytes.toArray⟩

@[simp] theorem ofUtf8_utf8 (text : String) : ofUtf8 (utf8 text) = some text := by
  have same : (⟨(utf8 text).toArray⟩ : ByteArray) = text.toByteArray := rfl
  rw [ofUtf8, same, String.fromUTF8?, dif_pos text.isValidUTF8]
  rfl

@[simp] theorem utf8_eq_nil_iff {text : String} : utf8 text = [] ↔ text = "" := by
  constructor
  · intro none
    apply String.toByteArray_inj.mp
    exact ByteArray.ext (Array.toList_inj.mp none)
  · rintro rfl
    rfl

end Value

/-- How values of a type are held by a field. -/
structure Kind (Held : Type*) where
  /-- What a reader assumes. -/
  assumed : Held
  encode : Held → Value
  /-- What a value says, if it is one of this kind and can be read. -/
  decode : Value → Option (Option Held)
  decode_encode : ∀ held, decode (encode held) = some (some held)
  assumed_of_default : ∀ held, (encode held).isDefault = true → held = assumed

namespace Kind

def uint64 : Kind UInt64 where
  assumed := 0
  encode := .varint
  decode
    | .varint value => some (some value)
    | _ => some none
  decode_encode _ := rfl
  assumed_of_default _ := of_decide_eq_true

/-- Numbers of 32 bits, also those of an enumeration. Higher bits are dropped. -/
def uint32 : Kind UInt32 where
  assumed := 0
  encode held := .varint held.toUInt64
  decode
    | .varint value => some (some value.toUInt32)
    | _ => some none
  decode_encode held := by
    dsimp only
    rw [UInt32.toUInt32_toUInt64]
  assumed_of_default held default := by
    have same := congrArg UInt64.toUInt32 (of_decide_eq_true default)
    rwa [UInt32.toUInt32_toUInt64] at same

def sint64 : Kind Int64 where
  assumed := 0
  encode held := .varint (Value.zigzag held)
  decode
    | .varint value => some (some (Value.unzigzag value))
    | _ => some none
  decode_encode held := by
    dsimp only
    rw [Value.unzigzag_zigzag]
  assumed_of_default held default := by
    have same : Value.zigzag held = Value.zigzag 0 := of_decide_eq_true default
    rw [← Value.unzigzag_zigzag held, same, Value.unzigzag_zigzag]

def sfixed64 : Kind Int64 where
  assumed := 0
  encode held := .fixed64 held.toUInt64
  decode
    | .fixed64 value => some (some value.toInt64)
    | _ => some none
  decode_encode held := by
    dsimp only
    rw [Int64.toInt64_toUInt64]
  assumed_of_default held default := by
    have same := congrArg UInt64.toInt64 (of_decide_eq_true default)
    rwa [Int64.toInt64_toUInt64] at same

def fixed32 : Kind UInt32 where
  assumed := 0
  encode := .fixed32
  decode
    | .fixed32 value => some (some value)
    | _ => some none
  decode_encode _ := rfl
  assumed_of_default _ := of_decide_eq_true

def bool : Kind Bool where
  assumed := false
  encode held := .varint (if held then 1 else 0)
  decode
    | .varint value => some (some (value ≠ 0))
    | _ => some none
  decode_encode held := by cases held <;> rfl
  assumed_of_default held default := by
    cases held with
    | false => rfl
    | true =>
        have zero : (1 : UInt64) = 0 := of_decide_eq_true default
        exact absurd zero (by decide)

/-- Texts. Bytes that are none cannot be read. -/
def text : Kind String where
  assumed := ""
  encode held := .bytes (Value.utf8 held)
  decode
    | .bytes bytes => (Value.ofUtf8 bytes).map some
    | _ => some none
  decode_encode held := by
    dsimp only
    rw [Value.ofUtf8_utf8, Option.map_some]
  assumed_of_default held default := Value.utf8_eq_nil_iff.mp (of_decide_eq_true default)

end Kind

/-! ## Schemas -/

/-- The bytes that fields are written as. -/
abbrev writeFields (fields : List Field) : List UInt8 := fields.flatMap Field.write

/-- A number takes as many bytes as it has groups of seven bits. -/
theorem length_varint_le {groups number : Nat} (fits : number < 128 ^ (groups + 1)) :
    (varint number).length ≤ groups + 1 := by
  induction groups generalizing number with
  | zero =>
      rw [varint, if_pos (by simpa using fits)]
      exact Nat.le_refl _
  | succ groups ih =>
      rw [varint]
      split
      · exact Nat.succ_le_succ (Nat.zero_le _)
      · have higher : number / 128 < 128 ^ (groups + 1) := by
          rw [Nat.pow_succ] at fits
          omega
        exact Nat.succ_le_succ (ih higher)

/-- Numbers that a tag has room for. -/
def Taggable (number : Nat) : Prop := 0 < number ∧ number < 536870912

instance instDecidableTaggable (number : Nat) : Decidable (Taggable number) :=
  inferInstanceAs (Decidable (_ ∧ _))

/-- How messages of a type are written, and what a field makes of one being read. -/
structure Schema (Message : Type*) where
  /-- The numbers of the fields it knows. -/
  numbers : List Nat
  /-- The message without fields. -/
  empty : Message
  fields : Message → List Field
  absorb : Message → Field → Option Message
  taggable : ∀ number ∈ numbers, Taggable number
  numbered : ∀ message, ∀ field ∈ fields message, field.number ∈ numbers
  skips : ∀ message field, field.number ∉ numbers → absorb message field = some message
  restores : ∀ message, (writeFields (fields message)).length < UInt64.size →
    (fields message).foldlM absorb empty = some message

/-- The bytes of a field are no more than those of all. -/
theorem length_bytes_le {fields : List Field} {number : Nat} {bytes : List UInt8}
    (member : ⟨number, .bytes bytes⟩ ∈ fields) : bytes.length ≤ (writeFields fields).length := by
  obtain ⟨before, after, rfl⟩ := List.append_of_mem member
  rw [writeFields, List.flatMap_append, List.flatMap_cons, Field.write, Value.write]
  simp only [List.length_append]
  omega

/-- Fields that are not too long can be written. -/
theorem valid_of_length {fields : List Field} (taggable : ∀ field ∈ fields, Taggable field.number)
    (short : (writeFields fields).length < UInt64.size) : ∀ field ∈ fields, field.Valid := by
  intro field member
  obtain ⟨positive, small⟩ := taggable field member
  obtain ⟨number, value⟩ := field
  refine ⟨positive, ?_, ?_⟩
  · have kind : value.wireType < 8 := by
      cases value <;> simp only [Value.wireType, Nat.reduceLT]
    dsimp only at small
    simp only [Field.tag, UInt32.size]
    omega
  · cases value with
    | bytes bytes => exact Nat.lt_of_le_of_lt (length_bytes_le member) short
    | varint _ => trivial
    | fixed64 _ => trivial
    | fixed32 _ => trivial

namespace Schema

variable {Message Part Other : Type*} (schema : Schema Message)

/-- Writes a message. -/
def write (message : Message) : List UInt8 := writeFields (schema.fields message)

/-- Reads fields into a message. -/
def merge (message : Message) (bytes : List UInt8) : Option Message :=
  (readFields bytes).bind fun fields => fields.foldlM schema.absorb message

/-- Reads a message. -/
def parse (bytes : List UInt8) : Option Message := schema.merge schema.empty bytes

/-- The fields of a message, as it knows them. -/
def known (fields : List Field) : List Field :=
  fields.filter fun field => field.number ∈ schema.numbers

/-- Only the fields it knows count. -/
theorem foldlM_known (message : Message) (fields : List Field) :
    (schema.known fields).foldlM schema.absorb message = fields.foldlM schema.absorb message := by
  induction fields generalizing message with
  | nil => rfl
  | cons field rest ih =>
      rw [List.foldlM_cons]
      by_cases among : field.number ∈ schema.numbers
      · have kept : schema.known (field :: rest) = field :: schema.known rest :=
          List.filter_cons_of_pos (decide_eq_true among)
        rw [kept, List.foldlM_cons]
        exact congrArg _ (funext ih)
      · have dropped : schema.known (field :: rest) = schema.known rest :=
          List.filter_cons_of_neg (by simpa using among)
        rw [dropped, schema.skips _ _ among]
        exact ih message

theorem foldlM_skips (message : Message) (fields : List Field)
    (unknown : ∀ field ∈ fields, field.number ∉ schema.numbers) :
    fields.foldlM schema.absorb message = some message := by
  have none : schema.known fields = [] :=
    List.filter_eq_nil_iff.mpr fun field member => by simpa using unknown field member
  rw [← foldlM_known, none]
  rfl

/-- **A message is read back from its bytes**, among fields that it does not know. -/
theorem parse_known {message : Message} {fields : List Field}
    (own : schema.known fields = schema.fields message)
    (taggable : ∀ field ∈ fields, Taggable field.number)
    (short : (writeFields fields).length < UInt64.size) :
    schema.parse (writeFields fields) = some message := by
  have part : (writeFields (schema.fields message)).length ≤ (writeFields fields).length := by
    rw [← own]
    exact (List.filter_sublist.flatMap Field.write).length_le
  rw [parse, merge, writeFields, readFields_flatMap (valid_of_length taggable short),
    Option.bind_some, ← foldlM_known, own]
  exact schema.restores message (Nat.lt_of_le_of_lt part short)

/-- A message is read back from its bytes. -/
theorem parse_write {message : Message} (short : (schema.write message).length < UInt64.size) :
    schema.parse (schema.write message) = some message := by
  have every : schema.known (schema.fields message) = schema.fields message :=
    List.filter_eq_self.mpr fun field member =>
      decide_eq_true (schema.numbered message field member)
  exact schema.parse_known every
    (fun field member => schema.taggable _ (schema.numbered message field member)) short

/-! ### Parts beside one another -/

section Pair

variable (first : Schema Part) (second : Schema Other)

/-- What a field makes of two parts. -/
def absorbBoth (message : Part × Other) (field : Field) : Option (Part × Other) :=
  (first.absorb message.1 field).bind fun left =>
    (second.absorb message.2 field).map fun right => (left, right)

/-- The two parts absorb fields side by side. -/
theorem foldlM_absorbBoth (fields : List Field) (left : Part) (right : Other) :
    fields.foldlM (absorbBoth first second) (left, right) =
      (fields.foldlM first.absorb left).bind fun left =>
        (fields.foldlM second.absorb right).map fun right => (left, right) := by
  induction fields generalizing left right with
  | nil => rfl
  | cons field rest ih =>
      simp only [List.foldlM_cons, absorbBoth, Option.bind_eq_bind]
      cases first.absorb left field with
      | none => rfl
      | some left =>
          cases second.absorb right field with
          | some right => exact ih left right
          | none =>
              simp only [Option.bind_some, Option.map_none, Option.bind_none, Option.bind_fun_none]

/-- Two parts with different fields. -/
def pair (disjoint : ∀ number ∈ first.numbers, number ∉ second.numbers) :
    Schema (Part × Other) where
  numbers := first.numbers ++ second.numbers
  empty := (first.empty, second.empty)
  fields message := first.fields message.1 ++ second.fields message.2
  absorb := absorbBoth first second
  taggable := List.forall_mem_append.mpr ⟨first.taggable, second.taggable⟩
  numbered message := by
    refine List.forall_mem_append.mpr ⟨fun field member => ?_, fun field member => ?_⟩
    · exact List.mem_append_left _ (first.numbered _ field member)
    · exact List.mem_append_right _ (second.numbered _ field member)
  skips message field unknown := by
    rw [List.mem_append, not_or] at unknown
    rw [absorbBoth, first.skips _ _ unknown.1, second.skips _ _ unknown.2]
    rfl
  restores message short := by
    rw [writeFields, List.flatMap_append, List.length_append] at short
    have left := first.restores message.1 (Nat.lt_of_le_of_lt (Nat.le_add_right _ _) short)
    have right := second.restores message.2 (Nat.lt_of_le_of_lt (Nat.le_add_left _ _) short)
    have pass := second.foldlM_skips second.empty (first.fields message.1)
      fun field member => disjoint _ (first.numbered _ field member)
    have keep := first.foldlM_skips message.1 (second.fields message.2)
      fun field member same => disjoint _ same (second.numbered _ field member)
    rw [List.foldlM_append, foldlM_absorbBoth, left, pass]
    simp only [Option.bind_some, Option.map_some, Option.bind_eq_bind]
    rw [foldlM_absorbBoth, keep, right]
    rfl

end Pair

/-- Messages that are others under different names. -/
def via (names : Message ≃ Other) (schema : Schema Other) : Schema Message where
  numbers := schema.numbers
  empty := names.symm schema.empty
  fields message := schema.fields (names message)
  absorb message field := (schema.absorb (names message) field).map names.symm
  taggable := schema.taggable
  numbered message := schema.numbered (names message)
  skips message field unknown := by
    rw [schema.skips _ _ unknown, Option.map_some, Equiv.symm_apply_apply]
  restores message short := by
    have follows : ∀ (fields : List Field) (start : Other),
        fields.foldlM (fun message field => (schema.absorb (names message) field).map names.symm)
            (names.symm start) =
          (fields.foldlM schema.absorb start).map names.symm := by
      intro fields
      induction fields with
      | nil => exact fun _ => rfl
      | cons field rest ih =>
          intro start
          rw [List.foldlM_cons, List.foldlM_cons, Equiv.apply_symm_apply]
          cases schema.absorb start field with
          | none => rfl
          | some next => exact ih next
    rw [follows, schema.restores _ short, Option.map_some, Equiv.symm_apply_apply]

/-! ### Parts in a field -/

/-- Reads a part into what is known of it. -/
def putPart (part : Schema Part) (known : Part) (set : Part → Message) (message : Message) :
    Value → Option Message
  | .bytes bytes => (part.merge known bytes).map set
  | _ => some message

/-- A part that is not too long is read back. -/
theorem putPart_write (part : Schema Part) {held : Part} {set : Part → Message}
    (message : Message) (short : (part.write held).length < UInt64.size) :
    part.putPart part.empty set message (.bytes (part.write held)) = some (set held) :=
  congrArg (Option.map set) (part.parse_write short)

/-- A part that is read back if its field is not too long. -/
theorem putPart_field (part : Schema Part) {number : Nat} {held : Part} {set : Part → Message}
    (message : Message)
    (short : (Field.write ⟨number, .bytes (part.write held)⟩).length < UInt64.size) :
    part.putPart part.empty set message (.bytes (part.write held)) = some (set held) := by
  apply part.putPart_write
  rw [Field.write, Value.write, List.length_append, List.length_append] at short
  omega

/-- A field with a part for each item. -/
def items (number : Nat) (taggable : Taggable number) (part : Schema Part) :
    Schema (List Part) where
  numbers := [number]
  empty := []
  fields items := items.map fun item => ⟨number, .bytes (part.write item)⟩
  absorb items field :=
    if field.number = number then
      part.putPart part.empty (fun item => items ++ [item]) items field.value
    else some items
  taggable := List.forall_mem_singleton.mpr taggable
  numbered items field member := by
    obtain ⟨item, _, rfl⟩ := List.mem_map.mp member
    exact List.mem_singleton_self number
  skips items field unknown := if_neg fun same => unknown (List.mem_singleton.mpr same)
  restores items short := by
    have each : ∀ item ∈ items, (part.write item).length < UInt64.size := fun item member =>
      Nat.lt_of_le_of_lt (length_bytes_le (List.mem_map.mpr ⟨item, member, rfl⟩)) short
    have follows : ∀ (items before : List Part),
        (∀ item ∈ items, (part.write item).length < UInt64.size) →
          (items.map fun item => (⟨number, .bytes (part.write item)⟩ : Field)).foldlM
              (fun items field =>
                if field.number = number then
                  part.putPart part.empty (fun item => items ++ [item]) items field.value
                else some items) before =
            some (before ++ items) := by
      intro items
      induction items with
      | nil => exact fun before _ => congrArg some (List.append_nil before).symm
      | cons item rest ih =>
          intro before each
          obtain ⟨first, others⟩ := List.forall_mem_cons.mp each
          have later := ih (before ++ [item]) others
          rw [List.append_assoc, List.singleton_append] at later
          rw [List.map_cons, List.foldlM_cons, if_pos rfl, part.putPart_write before first]
          exact later
    exact follows items [] each

end Schema

/-- A field with one value. -/
def Kind.field {Held : Type*} (kind : Kind Held) (number : Nat)
    (taggable : Taggable number) : Schema Held where
  numbers := [number]
  empty := kind.assumed
  fields held := if (kind.encode held).isDefault then [] else [⟨number, kind.encode held⟩]
  absorb held field :=
    if field.number = number then (kind.decode field.value).map fun read => read.getD held
    else some held
  taggable := List.forall_mem_singleton.mpr taggable
  numbered held field member := by
    split at member
    · exact (List.not_mem_nil member).elim
    · obtain rfl := List.mem_singleton.mp member
      exact List.mem_singleton_self number
  skips held field unknown := if_neg fun same => unknown (List.mem_singleton.mpr same)
  restores held _ := by
    split
    · rename_i default
      exact congrArg some (kind.assumed_of_default held default).symm
    · simp only [List.foldlM_cons, ↓reduceIte, kind.decode_encode, Option.map_some,
        Option.getD_some, List.foldlM_nil, Option.bind_eq_bind, Option.bind_some, Option.pure_def]

/-- Numbers behind one another. -/
def varints (values : List UInt64) : List UInt8 := values.flatMap fun value => varint value.toNat

theorem readAll_varints (values : List UInt64) :
    varintCodec.readAll (varints values) = some values :=
  varintCodec.readAll_flatMap fun _ _ => ⟨trivial, varint_ne_nil _⟩

/-- A field with many numbers, which are read together or one by one. -/
def packed {Item : Type*} (number : Nat) (taggable : Taggable number) (encode : Item → UInt64)
    (decode : UInt64 → Item) (decode_encode : ∀ item, decode (encode item) = item) :
    Schema (List Item) where
  numbers := [number]
  empty := []
  fields items :=
    if items.isEmpty then [] else [⟨number, .bytes (varints (items.map encode))⟩]
  absorb items field :=
    if field.number = number then
      match field.value with
      | .bytes bytes => (varintCodec.readAll bytes).map fun values => items ++ values.map decode
      | .varint value => some (items ++ [decode value])
      | _ => some items
    else some items
  taggable := List.forall_mem_singleton.mpr taggable
  numbered items field member := by
    split at member
    · exact (List.not_mem_nil member).elim
    · obtain rfl := List.mem_singleton.mp member
      exact List.mem_singleton_self number
  skips items field unknown := if_neg fun same => unknown (List.mem_singleton.mpr same)
  restores items _ := by
    split
    · rename_i none
      exact congrArg some (List.isEmpty_iff.mp none).symm
    · simp only [List.foldlM_cons, ↓reduceIte, readAll_varints, Option.map_some, List.nil_append,
        List.map_map, Function.comp_def, decode_encode, List.map_id', List.foldlM_nil,
        Option.bind_eq_bind, Option.bind_some, Option.pure_def]

/-- One of several fields, or none. The one that is read last counts. -/
def oneOf {Choice : Type*} (numbers : List Nat)
    (taggable : ∀ number ∈ numbers, Taggable number) (field : Choice → Field)
    (numbered : ∀ choice, (field choice).number ∈ numbers)
    (absorb : Option Choice → Field → Option (Option Choice))
    (skips : ∀ known field, field.number ∉ numbers → absorb known field = some known)
    (restores : ∀ choice, (field choice).write.length < UInt64.size →
      absorb none (field choice) = some (some choice)) : Schema (Option Choice) where
  numbers := numbers
  empty := none
  fields choice := (choice.map field).toList
  absorb := absorb
  taggable := taggable
  numbered choice other member := by
    obtain ⟨chosen, rfl, rfl⟩ := Option.map_eq_some_iff.mp (Option.mem_toList.mp member)
    exact numbered chosen
  skips := skips
  restores choice short := by
    cases choice with
    | none => rfl
    | some chosen =>
        have whole : (field chosen).write.length < UInt64.size := by
          simpa only [Option.map_some, Option.toList_some, writeFields, List.flatMap_singleton]
            using short
        simp only [Option.map_some, Option.toList_some, List.foldlM_cons, restores chosen whole,
          List.foldlM_nil, Option.bind_eq_bind, Option.bind_some, Option.pure_def]

end Foundation.Protobuf
