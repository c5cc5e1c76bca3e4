import DataFeed.Foundation.Base64

/-! # Base64 with noise

What is decoded is only the text that is left without its noise, and what is cut off the
block decoder's result is one byte for each pad that this text ends in. Every text that
encoding gives is decoded to its bytes, whatever noise is put into it
(`base64Decode_withNoise`). Nobody looks where the pads are: texts that are not well padded
are refused only for their length (`base64Decode_safely_iff`).
-/

namespace DataFeed.Crypto

open Foundation

/-- What a block function leaves in the buffer and returns. -/
structure Written where
  buffer : List UInt8
  count : Int32
  deriving DecidableEq, Repr

/-- The block functions of the library: each is given a buffer, a text and its length. -/
structure Evp where
  encodeBlock : List UInt8 → List UInt8 → Int32 → Written
  decodeBlock : List UInt8 → List UInt8 → Int32 → Written

/-- What is written at the front of a buffer. -/
def writtenTo (buffer text : List UInt8) : Written :=
  ⟨text ++ buffer.drop text.length, Int32.ofNat text.length⟩

/-- Blocks are encoded into a buffer that is large enough for them. -/
def Evp.Encodes (evp : Evp) : Prop :=
  ∀ buffer data : List UInt8, (Base64.encode data).length < 2 ^ 31 →
    (Base64.encode data).length ≤ buffer.length →
    evp.encodeBlock buffer data (Int32.ofNat data.length) = writtenTo buffer (Base64.encode data)

/-- Groups of symbols and pads are decoded into a buffer that is large enough for them, the
pads as zeros that count. -/
def Evp.Decodes (evp : Evp) : Prop :=
  ∀ buffer text : List UInt8, text.length < 2 ^ 31 → text.length % 4 = 0 →
    (∀ byte ∈ text, byte ∈ Base64.alphabet ∨ byte = Base64.pad) →
    (Base64.decodeGroups text).length ≤ buffer.length →
    evp.decodeBlock buffer text (Int32.ofNat text.length) =
      writtenTo buffer (Base64.decodeGroups text)

/-- How decoding ends. -/
inductive Base64Outcome where
  | returned (data : List UInt8)
  | runtimeError (message : String)
  | lengthError
  deriving DecidableEq, Repr

/-- A character that is not dropped. -/
def isValidBase64Character (character : UInt8) : Bool :=
  (97 ≤ character && character ≤ 122) || (65 ≤ character && character ≤ 90) ||
    (48 ≤ character && character ≤ 57) ||
    (character == 43 || character == 47 || character == 61)

/-- A buffer at another length, unless that is more than any buffer can have. -/
def resize (buffer : List UInt8) (length : UInt64) : Option (List UInt8) :=
  if length ≤ 9223372036854775807 then
    some (buffer.take length.toNat ++ List.replicate (length.toNat - buffer.length) 0)
  else none

/-- The text of some bytes. -/
def base64Encode (evp : Evp) (data : List UInt8) : Option (List UInt8) :=
  if data = [] then some []
  else
    let out := List.replicate (4 * ((data.length + 2) / 3)) 0
    let written := evp.encodeBlock out data (Int32.ofNat data.length)
    resize written.buffer (UInt64.ofInt written.count.toInt)

/-- The loop that takes one off for each pad at the end of a text. -/
def withoutPadding (length : UInt64) : List UInt8 → UInt64
  | [] => length
  | byte :: rest => if byte = 61 then withoutPadding (length - 1) rest else length

/-- What a buffer at its new length is returned as. -/
def ofResized : Option (List UInt8) → Base64Outcome
  | some data => .returned data
  | none => .lengthError

/-- The bytes of a text, noise left out. -/
def base64Decode (evp : Evp) (input : List UInt8) : Base64Outcome :=
  if input = [] then .returned []
  else
    let trimmed := input.filter isValidBase64Character
    if trimmed.length % 4 ≠ 0 then
      .runtimeError "Length of base64 string not divisible by 4."
    else
      let out := List.replicate (3 * (trimmed.length / 4)) 0
      let decoded := evp.decodeBlock out trimmed (Int32.ofNat trimmed.length)
      if decoded.count < 0 then .runtimeError "Failed to base64-decode API secret"
      else
        let length := withoutPadding (UInt64.ofInt decoded.count.toInt) trimmed.reverse
        ofResized (resize decoded.buffer length)

/-- Characters that mean nothing in Base64 put into a text, anywhere. -/
inductive WithNoise : List UInt8 → List UInt8 → Prop
  | nil : WithNoise [] []
  | kept (byte : UInt8) {text noisy : List UInt8} :
      WithNoise text noisy → WithNoise (byte :: text) (byte :: noisy)
  | noise {byte : UInt8} {text noisy : List UInt8} :
      byte ∉ Base64.alphabet → byte ≠ Base64.pad →
      WithNoise text noisy → WithNoise text (byte :: noisy)

section Characters

/-- The characters that are kept are those of the alphabet and the pad. -/
theorem isValidBase64Character_iff (character : UInt8) :
    isValidBase64Character character = true ↔
      character ∈ Base64.alphabet ∨ character = Base64.pad := by
  have numbers : Base64.alphabet.map UInt8.toNat =
      List.range' 65 26 ++ List.range' 97 26 ++ List.range' 48 10 ++ [43, 47] := by
    decide
  have member : character ∈ Base64.alphabet ↔
      character.toNat ∈ Base64.alphabet.map UInt8.toNat :=
    (List.mem_map_of_injective fun _ _ => UInt8.toNat_inj.mp).symm
  rw [member, numbers, Base64.pad]
  simp only [isValidBase64Character, Bool.or_eq_true, Bool.and_eq_true, decide_eq_true_eq,
    beq_iff_eq, UInt8.le_iff_toNat_le, ← UInt8.toNat_inj, List.mem_append, List.mem_range'_1,
    List.mem_cons, List.not_mem_nil, or_false, UInt8.reduceToNat]
  omega

/-- What is left without the noise is the text. -/
theorem filter_withNoise {text noisy : List UInt8} (inserted : WithNoise text noisy)
    (valid : ∀ byte ∈ text, byte ∈ Base64.alphabet ∨ byte = Base64.pad) :
    noisy.filter isValidBase64Character = text := by
  induction inserted with
  | nil => rfl
  | kept byte _ ih =>
      have first := (isValidBase64Character_iff byte).mpr (valid byte List.mem_cons_self)
      rw [List.filter_cons_of_pos first, ih fun other member =>
        valid other (List.mem_cons_of_mem _ member)]
  | noise symbol pad _ ih =>
      rename_i byte _ _ _
      have dropped : ¬ isValidBase64Character byte = true := by
        rw [isValidBase64Character_iff]
        rintro (same | same)
        · exact symbol same
        · exact pad same
      rw [List.filter_cons_of_neg dropped, ih valid]

end Characters

section Lengths

/-- The loop goes up to the first character that is no pad. -/
theorem withoutPadding_eq (length : UInt64) (text : List UInt8) :
    withoutPadding length text = length - UInt64.ofNat (text.takeWhile (· = 61)).length := by
  induction text generalizing length with
  | nil => exact (UInt64.sub_zero length).symm
  | cons byte rest ih =>
      rw [withoutPadding]
      by_cases pad : byte = 61
      · have more : (byte :: rest).takeWhile (· = 61) = byte :: rest.takeWhile (· = 61) :=
          List.takeWhile_cons_of_pos (decide_eq_true pad)
        have one : UInt64.ofNat 1 = 1 := rfl
        rw [if_pos pad, ih, more, List.length_cons, UInt64.ofNat_add, one]
        grind
      · have none : (byte :: rest).takeWhile (· = 61) = [] :=
          List.takeWhile_cons_of_neg (by rwa [decide_eq_true_eq])
        rw [if_neg pad, none]
        exact (UInt64.sub_zero length).symm

/-- A short length is counted as it is. -/
theorem toInt_count {length : Nat} (small : length < 2 ^ 31) :
    (Int32.ofNat length).toInt = length :=
  Int32.toInt_ofNat_of_lt small

/-- A length is the same as an int and as a size. -/
theorem ofInt_natCast {length : Nat} (small : length < 2 ^ 31) :
    UInt64.ofInt length = UInt64.ofNat length := by
  unfold UInt64.ofInt
  congr 1
  omega

/-- A count is a size. -/
theorem ofInt_count {length : Nat} (small : length < 2 ^ 31) :
    UInt64.ofInt (Int32.ofNat length).toInt = UInt64.ofNat length := by
  rw [toInt_count small, ofInt_natCast small]

/-- A short length is its size. -/
theorem toNat_size {length : Nat} (small : length < 2 ^ 31) :
    (UInt64.ofNat length).toNat = length :=
  Nat.mod_eq_of_lt (Nat.lt_trans small (by decide : 2 ^ 31 < 2 ^ 64))

/-- The front of a buffer, which has been written. -/
theorem resize_written {buffer text : List UInt8} {length : UInt64} {kept : Nat}
    (length_is : length.toNat = kept) (inside : kept ≤ text.length)
    (small : text.length < 2 ^ 31) :
    resize (writtenTo buffer text).buffer length = some (text.take kept) := by
  have most : length ≤ 9223372036854775807 := by
    rw [UInt64.le_iff_toNat_le, length_is]
    exact Nat.le_trans inside (Nat.le_trans small.le (by decide))
  have enough : kept - (writtenTo buffer text).buffer.length = 0 := by
    rw [writtenTo, List.length_append]
    omega
  unfold resize
  rw [if_pos most, length_is, enough, List.replicate_zero, List.append_nil, writtenTo,
    List.take_append_of_le_length inside]

end Lengths

variable {evp : Evp} {data : List UInt8}

/-- The text of some bytes is the encoded one. -/
theorem base64Encode_eq (encodes : evp.Encodes) (short : data.length < 2 ^ 30) :
    base64Encode evp data = some (Base64.encode data) := by
  have length := Base64.length_encode data
  have small : (Base64.encode data).length < 2 ^ 31 := by omega
  unfold base64Encode
  split
  · rename_i nothing
    rw [nothing]
    rfl
  · dsimp only
    rw [encodes _ data small (by rw [List.length_replicate, length])]
    have count : (UInt64.ofInt (Int32.ofNat (Base64.encode data).length).toInt).toNat =
        (Base64.encode data).length := by
      rw [ofInt_count small, toNat_size small]
    refine (resize_written count le_rfl small).trans ?_
    rw [List.take_length]

/-- **Noise is ignored, and decoding undoes encoding.** -/
theorem base64Decode_withNoise (encodes : evp.Encodes) (decodes : evp.Decodes)
    (short : data.length < 2 ^ 30) :
    ∃ text, base64Encode evp data = some text ∧
      ∀ noisy, WithNoise text noisy → base64Decode evp noisy = .returned data := by
  refine ⟨_, base64Encode_eq encodes short, ?_⟩
  intro noisy inserted
  have length := Base64.length_encode data
  have decoded := Base64.decodeGroups_encode data
  have trimmed := filter_withNoise inserted fun byte => Base64.mem_encode
  have filled : data.length + Base64.padding data.length = 3 * ((data.length + 2) / 3) := by
    unfold Base64.padding
    omega
  have written : (data ++ List.replicate (Base64.padding data.length) 0).length =
      3 * ((data.length + 2) / 3) := by
    rw [List.length_append, List.length_replicate, filled]
  have small : (data ++ List.replicate (Base64.padding data.length) 0).length < 2 ^ 31 := by omega
  unfold base64Decode
  split
  · rename_i nothing
    rw [nothing, List.filter_nil] at trimmed
    rw [← trimmed, List.length_nil] at length
    have empty : data.length = 0 := by omega
    rw [List.eq_nil_of_length_eq_zero empty]
  · dsimp only
    rw [trimmed, if_neg (by omega), decodes _ _ (by omega) (by omega)
      (fun byte => Base64.mem_encode) (by rw [decoded, written, List.length_replicate]; omega),
      decoded]
    have pads : ((Base64.encode data).reverse.takeWhile (· = 61)).length =
        Base64.padding data.length := by
      rw [show (61 : UInt8) = Base64.pad from rfl, Base64.pads_encode, List.length_replicate]
    have kept : (withoutPadding (UInt64.ofInt (Int32.ofNat
        (data ++ List.replicate (Base64.padding data.length) 0).length).toInt)
          (Base64.encode data).reverse).toNat = data.length := by
      rw [withoutPadding_eq, pads, ofInt_count small, written, ← filled,
        ← UInt64.ofNat_sub (Nat.le_add_left _ _), Nat.add_sub_cancel,
        toNat_size (Nat.lt_trans short (by decide))]
    have front : data.length ≤
        (data ++ List.replicate (Base64.padding data.length) (0 : UInt8)).length := by
      rw [List.length_append]
      exact Nat.le_add_right _ _
    have sized := @resize_written (List.replicate (3 * ((Base64.encode data).length / 4)) 0) _ _ _
      kept front small
    have succeeded : ¬ Int32.ofNat
        (data ++ List.replicate (Base64.padding data.length) (0 : UInt8)).length < 0 := by
      rw [Int32.lt_iff_toInt_lt, toInt_count small]
      exact Int.not_lt.mpr (Int.natCast_nonneg _)
    rw [List.take_left] at sized
    exact (if_neg succeeded).trans (congrArg ofResized sized)

section Padding

variable (evp)

/-- What is left of a text without its noise. -/
def trimmed (input : List UInt8) : List UInt8 := input.filter isValidBase64Character

/-- What the block decoder answers for a text. -/
def decodedCount (text : List UInt8) : Int32 :=
  (evp.decodeBlock (List.replicate (3 * (text.length / 4)) 0) text
    (Int32.ofNat text.length)).count

/-- A text is decoded safely: it is refused or its bytes are returned, these only if the pads
that are left are at most two and at the very end, and no more are taken off than there are. -/
structure DecodedSafely (input : List UInt8) : Prop where
  ends : (∃ message, base64Decode evp input = .runtimeError message) ∨
    ∃ data, base64Decode evp input = .returned data
  padded : ∀ data, base64Decode evp input = .returned data → Base64.WellPadded (trimmed input)
  counted : (trimmed input).length % 4 = 0 → 0 ≤ decodedCount evp (trimmed input) →
    (Base64.trailingPads (trimmed input) : Int) ≤ (decodedCount evp (trimmed input)).toInt

variable {evp} {input : List UInt8}

/-- A text that does not form whole groups is refused. -/
theorem base64Decode_of_ragged (ragged : (trimmed input).length % 4 ≠ 0) :
    base64Decode evp input =
      .runtimeError "Length of base64 string not divisible by 4." := by
  have given : input ≠ [] := by
    rintro rfl
    exact ragged rfl
  unfold base64Decode
  rw [if_neg given]
  exact if_pos ragged

/-- A text that EVP refuses is a runtime error. -/
theorem base64Decode_of_refused (given : input ≠ []) (groups : (trimmed input).length % 4 = 0)
    (refused : decodedCount evp (trimmed input) < 0) :
    base64Decode evp input = .runtimeError "Failed to base64-decode API secret" := by
  unfold base64Decode
  rw [if_neg given]
  refine (if_neg (not_not_intro groups)).trans ?_
  exact if_pos refused

/-- A text that EVP answers is cut to the count, less its padding. -/
theorem base64Decode_of_answered (given : input ≠ []) (groups : (trimmed input).length % 4 = 0)
    (answered : ¬ decodedCount evp (trimmed input) < 0) :
    ∃ buffer, base64Decode evp input =
      ofResized (resize buffer (withoutPadding
        (UInt64.ofInt (decodedCount evp (trimmed input)).toInt) (trimmed input).reverse)) := by
  refine ⟨(evp.decodeBlock (List.replicate (3 * ((trimmed input).length / 4)) 0) (trimmed input)
    (Int32.ofNat (trimmed input).length)).buffer, ?_⟩
  unfold base64Decode
  rw [if_neg given]
  refine (if_neg (not_not_intro groups)).trans ?_
  exact if_neg answered

/-- What is resized is no runtime error. -/
theorem ofResized_ne_runtimeError (resized : Option (List UInt8)) (message : String) :
    ofResized resized ≠ .runtimeError message := by
  cases resized with
  | none => exact fun same => by cases same
  | some data => exact fun same => by cases same

/-- A buffer can be resized to what a vector can hold. -/
theorem ofResized_returned_iff {buffer : List UInt8} {length : UInt64} :
    (∃ data, ofResized (resize buffer length) = .returned data) ↔
      length ≤ 9223372036854775807 := by
  unfold resize
  by_cases inside : length ≤ 9223372036854775807
  · rw [if_pos inside]
    exact ⟨fun _ => inside, fun _ => ⟨_, rfl⟩⟩
  · rw [if_neg inside]
    refine ⟨?_, fun within => (inside within).elim⟩
    intro returned
    obtain ⟨data, same⟩ := returned
    cases same

/-- With at most two pads, what the loop leaves is a length, unless the loop goes below zero. -/
theorem withoutPadding_le_iff {count : Int32} {text : List UInt8} (answered : 0 ≤ count)
    (few : Base64.trailingPads text ≤ 2) :
    withoutPadding (UInt64.ofInt count.toInt) text.reverse ≤ 9223372036854775807 ↔
      (Base64.trailingPads text : Int) ≤ count.toInt := by
  obtain ⟨size, size_is⟩ := Int.eq_ofNat_of_zero_le (Int32.le_iff_toInt_le.mp answered)
  have small : size < 2 ^ 31 := by
    have below := count.toInt_lt
    omega
  have pads : text.reverse.takeWhile (· = 61) = text.reverse.takeWhile (· = Base64.pad) := rfl
  have left := UInt64.toNat_sub (UInt64.ofNat size) (UInt64.ofNat (Base64.trailingPads text))
  rw [toNat_size small, toNat_size (by omega)] at left
  rw [withoutPadding_eq, size_is, ofInt_natCast small, pads, ← Base64.trailingPads,
    UInt64.le_iff_toNat_le, left]
  change _ ≤ 9223372036854775807 ↔ _
  omega

/-- The answer for whole groups, as far as their number fits it. -/
theorem decodedCount_eq {text : List UInt8} (decodes : evp.Decodes) (small : text.length < 2 ^ 31)
    (groups : text.length % 4 = 0)
    (valid : ∀ byte ∈ text, byte ∈ Base64.alphabet ∨ byte = Base64.pad) :
    (decodedCount evp text).toInt = (3 * (text.length / 4) : Nat) := by
  have decoded := Base64.length_decodeGroups text
  unfold decodedCount
  rw [decodes _ text small groups valid (by rw [decoded, List.length_replicate])]
  change (Int32.ofNat (Base64.decodeGroups text).length).toInt = _
  rw [decoded, toInt_count (by omega)]

/-- What is left of a text is of the alphabet, or a pad. -/
theorem valid_of_mem_trimmed {byte : UInt8} (member : byte ∈ trimmed input) :
    byte ∈ Base64.alphabet ∨ byte = Base64.pad :=
  (isValidBase64Character_iff byte).mp (List.mem_filter.mp member).2

/-- The empty text is well padded. -/
theorem wellPadded_nil : Base64.WellPadded [] :=
  ⟨[], 0, rfl, Nat.zero_le 2, List.not_mem_nil⟩

/-- A ragged text is safe, as it is refused before it is decoded. -/
theorem decodedSafely_of_ragged (ragged : (trimmed input).length % 4 ≠ 0) :
    DecodedSafely evp input := by
  have refused := @base64Decode_of_ragged evp input ragged
  refine ⟨.inl ⟨_, refused⟩, ?_, ?_⟩
  · intro data returned
    cases refused.symm.trans returned
  · intro groups
    exact (ragged groups).elim

/-- So is the empty text. -/
theorem decodedSafely_nil (counted : 0 ≤ decodedCount evp [] → 0 ≤ (decodedCount evp []).toInt) :
    DecodedSafely evp [] := by
  have returned : base64Decode evp [] = .returned [] := rfl
  exact ⟨.inr ⟨[], returned⟩, fun _ _ => wellPadded_nil, fun _ => counted⟩

/-- So is a text that EVP refuses. -/
theorem decodedSafely_of_refused (groups : (trimmed input).length % 4 = 0)
    (refused : decodedCount evp (trimmed input) < 0) : DecodedSafely evp input := by
  have negative : ¬ 0 ≤ decodedCount evp (trimmed input) := Int32.not_le.mpr refused
  by_cases given : input = []
  · subst given
    exact decodedSafely_nil fun answered => (negative answered).elim
  · have thrown := base64Decode_of_refused given groups refused
    refine ⟨.inl ⟨_, thrown⟩, ?_, fun _ answered => (negative answered).elim⟩
    intro data returned
    cases thrown.symm.trans returned

/-- Whole groups that are answered are decoded safely if and only if they are well padded and
no more pads are taken off than there are bytes. -/
theorem decodedSafely_of_answered_iff (groups : (trimmed input).length % 4 = 0)
    (answered : ¬ decodedCount evp (trimmed input) < 0) :
    DecodedSafely evp input ↔ Base64.WellPadded (trimmed input) ∧
      (Base64.trailingPads (trimmed input) : Int) ≤
        (decodedCount evp (trimmed input)).toInt := by
  have positive : 0 ≤ decodedCount evp (trimmed input) := Int32.not_lt.mp answered
  by_cases given : input = []
  · subst given
    have counted : ((0 : Nat) : Int) ≤ (decodedCount evp []).toInt :=
      Int32.le_iff_toInt_le.mp positive
    exact ⟨fun _ => ⟨wellPadded_nil, counted⟩, fun _ => decodedSafely_nil fun _ => counted⟩
  · obtain ⟨buffer, decoded⟩ := base64Decode_of_answered given groups answered
    constructor
    · intro safe
      have counted := safe.counted groups positive
      obtain ⟨message, refused⟩ | ⟨data, returned⟩ := safe.ends
      · exact (ofResized_ne_runtimeError _ message (decoded.symm.trans refused)).elim
      · exact ⟨safe.padded data returned, counted⟩
    · rintro ⟨padded, counted⟩
      refine ⟨.inr ?_, fun _ _ => padded, fun _ _ => counted⟩
      rw [decoded]
      exact ofResized_returned_iff.mpr
        ((withoutPadding_le_iff positive padded.trailingPads_le).mpr counted)

/-- A text that is decoded by a library that decodes every group has no more pads at its end
than it has bytes, when it is well padded. -/
theorem trailingPads_le_decodedCount {text : List UInt8} (decodes : evp.Decodes)
    (small : text.length < 2 ^ 31) (groups : text.length % 4 = 0)
    (valid : ∀ byte ∈ text, byte ∈ Base64.alphabet ∨ byte = Base64.pad)
    (padded : Base64.WellPadded text) :
    (Base64.trailingPads text : Int) ≤ (decodedCount evp text).toInt := by
  have few := padded.trailingPads_le
  have inside := Base64.trailingPads_le_length text
  rw [decodedCount_eq decodes small groups valid]
  omega

/-- **Nobody looks where the pads are.** A text is decoded safely if and only if what is left
of it does not form whole groups, or the block decoder refuses it, or it is well padded and
has the bytes that are taken off; with a library that decodes every group, if and only if what
is left does not form whole groups or is well padded. -/
theorem base64Decode_safely_iff (evp : Evp) (input : List UInt8) :
    (DecodedSafely evp input ↔ (trimmed input).length % 4 ≠ 0 ∨
      decodedCount evp (trimmed input) < 0 ∨
        Base64.WellPadded (trimmed input) ∧
          (Base64.trailingPads (trimmed input) : Int) ≤
            (decodedCount evp (trimmed input)).toInt) ∧
    (evp.Decodes → (trimmed input).length < 2 ^ 31 →
      (DecodedSafely evp input ↔
        (trimmed input).length % 4 ≠ 0 ∨ Base64.WellPadded (trimmed input))) := by
  by_cases ragged : (trimmed input).length % 4 ≠ 0
  · have safe := @decodedSafely_of_ragged evp input ragged
    exact ⟨iff_of_true safe (.inl ragged), fun _ _ => iff_of_true safe (.inl ragged)⟩
  have groups : (trimmed input).length % 4 = 0 := not_not.mp ragged
  rw [or_iff_right ragged, or_iff_right ragged]
  constructor
  · by_cases refused : decodedCount evp (trimmed input) < 0
    · exact iff_of_true (decodedSafely_of_refused groups refused) (.inl refused)
    · rw [or_iff_right refused]
      exact decodedSafely_of_answered_iff groups refused
  · intro decodes small
    have answered : ¬ decodedCount evp (trimmed input) < 0 := by
      rw [Int32.lt_iff_toInt_lt,
        decodedCount_eq decodes small groups fun _ => valid_of_mem_trimmed]
      exact Int.not_lt.mpr (Int.natCast_nonneg _)
    rw [decodedSafely_of_answered_iff groups answered]
    exact and_iff_left_of_imp
      (trailingPads_le_decodedCount decodes small groups fun _ => valid_of_mem_trimmed)

end Padding

section Library

/-- Block functions as the library has them, for texts of symbols and pads. -/
def rfc4648 : Evp where
  encodeBlock buffer data length :=
    writtenTo buffer (Base64.encode (data.take length.toInt.toNat))
  decodeBlock buffer text length :=
    let taken := text.take length.toInt.toNat
    if taken.length % 4 = 0 ∧ taken.all isValidBase64Character = true then
      writtenTo buffer (Base64.decodeGroups taken)
    else ⟨buffer, -1⟩

/-- A short text is taken whole. -/
theorem take_count {text : List UInt8} (small : text.length < 2 ^ 31) :
    text.take (Int32.ofNat text.length).toInt.toNat = text := by
  rw [toInt_count small, Int.toNat_natCast, List.take_length]

/-- The RFC's encoder encodes. -/
theorem encodes_rfc4648 : rfc4648.Encodes := by
  intro buffer data small _
  have length := Base64.length_encode data
  unfold rfc4648
  dsimp only
  rw [take_count (by omega)]

/-- The RFC's decoder decodes. -/
theorem decodes_rfc4648 : rfc4648.Decodes := by
  intro buffer text small groups valid _
  have all : text.all isValidBase64Character = true :=
    List.all_eq_true.mpr fun byte member => (isValidBase64Character_iff byte).mpr (valid byte member)
  unfold rfc4648
  dsimp only
  rw [take_count small, if_pos ⟨groups, all⟩]

/-- The text of five bytes and a line break. -/
theorem base64Decode_safely_fooba :
    (DecodedSafely rfc4648 [90, 109, 57, 118, 89, 109, 69, 61, 10] ↔
      8 % 4 ≠ 0 ∨ Base64.WellPadded [90, 109, 57, 118, 89, 109, 69, 61]) ∧
      DecodedSafely rfc4648 [90, 109, 57, 118, 89, 109, 69, 61, 10] := by
  have left : trimmed [90, 109, 57, 118, 89, 109, 69, 61, 10] =
      [90, 109, 57, 118, 89, 109, 69, 61] := by
    decide
  have exact_when := (base64Decode_safely_iff rfc4648
    [90, 109, 57, 118, 89, 109, 69, 61, 10]).2 decodes_rfc4648 (by decide)
  rw [left] at exact_when
  refine ⟨exact_when, exact_when.mpr (.inr ?_)⟩
  exact ⟨[90, 109, 57, 118, 89, 109, 69], 1, rfl, by decide, by decide⟩

/-- Of a group of pads more is taken off than it gave, and a group may be padded in the
middle of a text. -/
theorem base64Decode_pads :
    base64Decode rfc4648 [61, 61, 61, 61] = .lengthError ∧
      base64Decode rfc4648 [90, 103, 61, 61, 90, 103, 61, 61] = .returned [102, 0, 0, 102] ∧
      ¬ ∀ evp : Evp, evp.Decodes → ∀ input, DecodedSafely evp input := by
  have wrapped : base64Decode rfc4648 [61, 61, 61, 61] = .lengthError := by decide +kernel
  refine ⟨wrapped, by decide +kernel, ?_⟩
  intro safe
  obtain ⟨message, refused⟩ | ⟨data, returned⟩ :=
    (safe rfc4648 decodes_rfc4648 [61, 61, 61, 61]).ends
  · cases wrapped.symm.trans refused
  · cases wrapped.symm.trans returned

/-- A text with blanks in it and a line break after it. -/
theorem base64Decode_withNoise_fooba :
    base64Decode rfc4648 [32, 90, 109, 57, 118, 32, 89, 109, 69, 61, 13, 10] =
      .returned [102, 111, 111, 98, 97] := by
  have decoded := @base64Decode_withNoise rfc4648 [102, 111, 111, 98, 97] encodes_rfc4648
    decodes_rfc4648 (by decide)
  obtain ⟨text, encoded, decoded⟩ := decoded
  have spelled : base64Encode rfc4648 [102, 111, 111, 98, 97] =
      some [90, 109, 57, 118, 89, 109, 69, 61] := by
    decide +kernel
  obtain rfl := Option.some.inj (spelled.symm.trans encoded)
  apply decoded
  refine .noise (by decide) (by decide) (.kept 90 (.kept 109 (.kept 57 (.kept 118 ?_))))
  refine .noise (by decide) (by decide) (.kept 89 (.kept 109 (.kept 69 (.kept 61 ?_))))
  exact .noise (by decide) (by decide) (.noise (by decide) (by decide) .nil)

end Library

end DataFeed.Crypto
