import Mathlib.Data.List.Basic
import DataFeed.Foundation.Crc

/-! # CRC-32

The check sum a byte at a time, by a table of what each byte leaves. It is the check sum
taken bit by bit (`crc32_eq`).
-/

namespace DataFeed.Crypto

open Foundation

/-- One bit of a table entry. -/
def crcBit (crc : UInt32) : UInt32 :=
  if crc &&& 1 ≠ 0 then (crc >>> 1) ^^^ 0xEDB88320 else crc >>> 1

/-- What each byte leaves. -/
def crc32Table : Vector UInt32 256 := .ofFn fun value => crcBit^[8] (UInt32.ofNat value)

theorem low_byte_lt (crc : UInt32) : (crc &&& 0xFF).toNat < 256 := by
  rw [UInt32.toNat_and]
  exact Nat.lt_of_le_of_lt Nat.and_le_right (by decide)

/-- Takes in one byte. -/
def crcByte (crc : UInt32) (byte : UInt8) : UInt32 :=
  have inside := low_byte_lt (crc ^^^ byte.toUInt32)
  crc32Table[((crc ^^^ byte.toUInt32) &&& 0xFF).toNat] ^^^ (crc >>> 8)

/-- The check sum of some bytes. -/
def crc32 (data : List UInt8) : UInt32 := data.foldl crcByte 0xFFFFFFFF ^^^ 0xFFFFFFFF

/-- The polynomial of the check sum, in reflected order. -/
def polynomial : BitVec 32 := 0xEDB88320#32

theorem toBitVec_crcBit (crc : UInt32) :
    (crcBit crc).toBitVec = Crc.shiftOut polynomial crc.toBitVec := by
  have lowest : (crc &&& 1 ≠ 0) ↔ crc.toBitVec.getLsbD 0 = true := by
    have bit : (crc &&& 1).toBitVec = (BitVec.ofBool (crc.toBitVec.getLsbD 0)).setWidth 32 :=
      BitVec.and_one_eq_setWidth_ofBool_getLsbD
    rw [ne_eq, ← UInt32.toBitVec_inj, bit]
    cases crc.toBitVec.getLsbD 0 <;> decide
  unfold crcBit Crc.shiftOut
  by_cases odd : crc &&& 1 ≠ 0
  · rw [if_pos odd, if_pos (lowest.mp odd)]
    rfl
  · rw [if_neg odd, if_neg fun low => odd (lowest.mpr low)]
    rfl

theorem toBitVec_iterate_crcBit (count : Nat) (crc : UInt32) :
    (crcBit^[count] crc).toBitVec = (Crc.shiftOut polynomial)^[count] crc.toBitVec := by
  induction count with
  | zero => rfl
  | succ count ih =>
      rw [Function.iterate_succ_apply', Function.iterate_succ_apply', toBitVec_crcBit, ih]

theorem toBitVec_and_255 (crc : UInt32) :
    (crc &&& 0xFF).toBitVec = Crc.lowByte crc.toBitVec := by
  apply BitVec.eq_of_getLsbD_eq
  intro index inside
  have mask : (255#32).getLsbD index = decide (index < 8) := by
    rw [BitVec.getLsbD_ofNat, decide_eq_true inside, Bool.true_and]
    exact Nat.testBit_two_pow_sub_one 8 index
  rw [Crc.getLsbD_lowByte, UInt32.toBitVec_and, BitVec.getLsbD_and, Bool.and_comm]
  exact congrArg (· && _) mask

/-- The table entry of a byte, and the rest of the register, are what the bits of the
byte leave. -/
theorem toBitVec_crcByte (crc : UInt32) (byte : UInt8) :
    (crcByte crc byte).toBitVec = Crc.absorb polynomial crc.toBitVec byte.toBitVec := by
  have entry : UInt32.ofNat ((crc ^^^ byte.toUInt32) &&& 0xFF).toNat =
      (crc ^^^ byte.toUInt32) &&& 0xFF := UInt32.ofNat_toNat
  have low : ((crc ^^^ byte.toUInt32) &&& 0xFF).toBitVec =
      Crc.lowByte (crc.toBitVec ^^^ byte.toBitVec.setWidth 32) :=
    toBitVec_and_255 _
  unfold crcByte crc32Table
  dsimp only
  rw [Vector.getElem_ofFn, UInt32.toBitVec_xor, entry, toBitVec_iterate_crcBit, low, Crc.absorb_eq]
  rfl

theorem toBitVec_foldl_crcByte (data : List UInt8) (crc : UInt32) :
    (data.foldl crcByte crc).toBitVec =
      (data.map UInt8.toBitVec).foldl (Crc.absorb polynomial) crc.toBitVec := by
  induction data generalizing crc with
  | nil => rfl
  | cons byte data ih =>
      rw [List.foldl_cons, ih, toBitVec_crcByte, List.map_cons, List.foldl_cons]

/-- The table computes the check sum of the polynomial. -/
theorem toBitVec_crc32 (data : List UInt8) :
    (crc32 data).toBitVec = Crc.checkSum polynomial (data.map UInt8.toBitVec) := by
  unfold crc32 Crc.checkSum
  rw [UInt32.toBitVec_xor, toBitVec_foldl_crcByte]
  rfl

/-- The check sum one bit at a time: each byte is added to the low bits of the register, and
then eight bits are shifted out of it. -/
def bitwiseCrc32 (data : List UInt8) : BitVec 32 :=
  ~~~ data.foldl (fun register byte =>
    (Crc.shiftOut 0xEDB88320#32)^[8] (register ^^^ byte.toBitVec.setWidth 32)) 0xFFFFFFFF#32

/-- **The table computes the check sum bit by bit**, for bytes of any number. -/
theorem crc32_eq (data : List UInt8) : (crc32 data).toBitVec = bitwiseCrc32 data := by
  have start : BitVec.allOnes 32 = 0xFFFFFFFF#32 := rfl
  rw [toBitVec_crc32, Crc.checkSum, List.foldl_map, BitVec.xor_allOnes, start]
  rfl

example : bitwiseCrc32 [49, 50, 51, 52, 53, 54, 55, 56, 57] = 0xCBF43926#32 := by decide +kernel

theorem map_toBitVec_injective : Function.Injective (List.map UInt8.toBitVec) :=
  List.map_injective_iff.mpr fun _ _ same => UInt8.toBitVec_inj.mp same

/-- Texts that are the same but for at most four bytes in a row have different check sums. -/
theorem crc32_window {first second : List UInt8} (before after : List UInt8)
    (length : first.length = second.length) (short : first.length ≤ 4)
    (same : crc32 (before ++ first ++ after) = crc32 (before ++ second ++ after)) :
    first = second := by
  have sums := congrArg UInt32.toBitVec same
  rw [toBitVec_crc32, toBitVec_crc32, List.map_append, List.map_append, List.map_append,
    List.map_append] at sums
  have top : polynomial.msb = true := by decide
  have fits : 8 * (first.map UInt8.toBitVec).length ≤ 32 := by
    rw [List.length_map]
    omega
  have lengths : (first.map UInt8.toBitVec).length = (second.map UInt8.toBitVec).length := by
    rw [List.length_map, List.length_map, length]
  exact map_toBitVec_injective (Crc.checkSum_burst top _ _ lengths fits sums)

/-- The bytes at four positions in a row, with those before and after them. -/
theorem window_eq (data : List UInt8) (start : Nat) :
    data = data.take start ++ (data.drop start).take 4 ++ data.drop (start + 4) := by
  rw [List.append_assoc, ← List.drop_drop, List.take_append_drop, List.take_append_drop]

/-- **Short bursts are noticed.** Texts of one length that differ, and only within four bytes
in a row, have different check sums; so flipping a bit of a text always changes its own. -/
theorem crc32_bursts :
    (∀ (first second : List UInt8) (start : Nat), first.length = second.length →
      first ≠ second →
      (∀ position, ¬ (start ≤ position ∧ position < start + 4) →
        first[position]? = second[position]?) →
        crc32 first ≠ crc32 second) ∧
      ∀ (data : List UInt8) (position : Nat) (byte : UInt8) (bit : Nat), bit < 8 →
        data[position]? = some byte →
          crc32 (data.set position (byte ^^^ (1 <<< UInt8.ofNat bit))) ≠ crc32 data := by
  have bursts : ∀ (first second : List UInt8) (start : Nat), first.length = second.length →
      first ≠ second →
      (∀ position, ¬ (start ≤ position ∧ position < start + 4) →
        first[position]? = second[position]?) →
        crc32 first ≠ crc32 second := by
    intro first second start length differ outside same
    have before : first.take start = second.take start := by
      apply List.ext_getElem?
      intro position
      rw [List.getElem?_take, List.getElem?_take]
      split
      · exact outside position (by omega)
      · rfl
    have after : first.drop (start + 4) = second.drop (start + 4) := by
      apply List.ext_getElem?
      intro position
      rw [List.getElem?_drop, List.getElem?_drop]
      exact outside _ (by omega)
    have windows : (first.drop start).take 4 = (second.drop start).take 4 := by
      rw [window_eq first start, window_eq second start, before, after] at same
      refine crc32_window _ _ ?_ (List.length_take_le _ _) same
      rw [List.length_take, List.length_take, List.length_drop, List.length_drop, length]
    apply differ
    rw [window_eq first start, window_eq second start, before, after, windows]
  refine ⟨bursts, ?_⟩
  intro data position byte bit small found
  have flips : ∀ bit < 8, (1 : UInt8) <<< UInt8.ofNat bit ≠ 0 := by decide
  have inside : position < data.length := (List.getElem?_eq_some_iff.mp found).1
  apply bursts _ _ position
  · exact List.length_set
  · intro same
    have here := congrArg (·[position]?) same
    simp only [List.getElem?_set_self inside, found, Option.some_inj] at here
    rw [← UInt8.xor_right_inj byte, UInt8.xor_self, ← UInt8.xor_assoc, UInt8.xor_self,
      UInt8.zero_xor] at here
    exact flips bit small here
  · intro other away
    exact List.getElem?_set_ne (by omega)

end DataFeed.Crypto
