import Mathlib.Logic.Function.Iterate

/-! # Cyclic redundancy checks

A check sum of any width, its bits in reflected order, computed bit by bit. Shifting is
linear, so a byte can be taken in at once with the register that its low bits alone
would leave (`absorb_eq`): a table of those registers is all that a program needs.
-/

namespace Foundation.Crc

variable {width : Nat} (polynomial : BitVec width)

/-- Shifts the lowest bit out of the register. -/
def shiftOut (register : BitVec width) : BitVec width :=
  if register.getLsbD 0 then (register >>> 1) ^^^ polynomial else register >>> 1

/-- Takes in a byte, its lowest bit first. -/
def absorb (register : BitVec width) (byte : BitVec 8) : BitVec width :=
  (shiftOut polynomial)^[8] (register ^^^ byte.setWidth width)

/-- The check sum of some bytes: all bits are set before the first and flipped after the
last. -/
def checkSum (data : List (BitVec 8)) : BitVec width :=
  data.foldl (absorb polynomial) (BitVec.allOnes width) ^^^ BitVec.allOnes width

/-- The lowest byte of a register. -/
def lowByte (register : BitVec width) : BitVec width := (register.setWidth 8).setWidth width

theorem shiftOut_xor (first second : BitVec width) :
    shiftOut polynomial (first ^^^ second) =
      shiftOut polynomial first ^^^ shiftOut polynomial second := by
  unfold shiftOut
  rw [BitVec.getLsbD_xor, BitVec.ushiftRight_xor_distrib]
  cases first.getLsbD 0 <;> cases second.getLsbD 0
  · rfl
  · exact BitVec.xor_assoc _ _ _
  · change first >>> 1 ^^^ second >>> 1 ^^^ polynomial =
      (first >>> 1 ^^^ polynomial) ^^^ second >>> 1
    rw [BitVec.xor_assoc, BitVec.xor_assoc, BitVec.xor_comm polynomial]
  · change first >>> 1 ^^^ second >>> 1 =
      (first >>> 1 ^^^ polynomial) ^^^ (second >>> 1 ^^^ polynomial)
    rw [BitVec.xor_comm (second >>> 1) polynomial, BitVec.xor_assoc, ← BitVec.xor_assoc polynomial,
      BitVec.xor_self, BitVec.zero_xor]

theorem iterate_shiftOut_xor (count : Nat) (first second : BitVec width) :
    (shiftOut polynomial)^[count] (first ^^^ second) =
      (shiftOut polynomial)^[count] first ^^^ (shiftOut polynomial)^[count] second := by
  induction count with
  | zero => rfl
  | succ count ih =>
      rw [Function.iterate_succ_apply', Function.iterate_succ_apply', Function.iterate_succ_apply',
        ih, shiftOut_xor]

/-- As long as the bits shifted out are clear, nothing else happens. -/
theorem iterate_shiftOut_of_clear {count : Nat} {register : BitVec width}
    (clear : ∀ index < count, register.getLsbD index = false) :
    (shiftOut polynomial)^[count] register = register >>> count := by
  induction count with
  | zero => rw [Function.iterate_zero_apply, BitVec.ushiftRight_zero]
  | succ count ih =>
      have lowest : (register >>> count).getLsbD 0 = false := by
        rw [BitVec.getLsbD_ushiftRight]
        exact clear count (Nat.lt_succ_self count)
      rw [Function.iterate_succ_apply', ih fun index below => clear index (Nat.lt_succ_of_lt below),
        shiftOut, lowest, if_neg Bool.false_ne_true, BitVec.shiftRight_add]

theorem getLsbD_lowByte (register : BitVec width) (index : Nat) :
    (lowByte register).getLsbD index = (decide (index < 8) && register.getLsbD index) := by
  unfold lowByte
  rw [BitVec.getLsbD_setWidth, BitVec.getLsbD_setWidth]
  by_cases inside : index < width
  · rw [decide_eq_true inside, Bool.true_and]
  · rw [BitVec.getLsbD_of_ge _ _ (Nat.not_lt.mp inside), Bool.and_false, Bool.and_false]

/-- **Taking in a byte at once.** What the lowest byte leaves is added to the rest of the
register, shifted by a byte. -/
theorem absorb_eq (register : BitVec width) (byte : BitVec 8) :
    absorb polynomial register byte =
      (shiftOut polynomial)^[8] (lowByte (register ^^^ byte.setWidth width)) ^^^
        (register >>> 8) := by
  have split : ∀ input : BitVec width, input = lowByte input ^^^ (lowByte input ^^^ input) := by
    intro input
    rw [← BitVec.xor_assoc, BitVec.xor_self, BitVec.zero_xor]
  have clear : ∀ index < 8,
      (lowByte (register ^^^ byte.setWidth width) ^^^
        (register ^^^ byte.setWidth width)).getLsbD index = false := by
    intro index below
    rw [BitVec.getLsbD_xor, getLsbD_lowByte, decide_eq_true below, Bool.true_and, Bool.xor_self]
  have high : (lowByte (register ^^^ byte.setWidth width) ^^^
      (register ^^^ byte.setWidth width)) >>> 8 = register >>> 8 := by
    apply BitVec.eq_of_getLsbD_eq
    intro index _
    have above : ¬ 8 + index < 8 := by omega
    rw [BitVec.getLsbD_ushiftRight, BitVec.getLsbD_ushiftRight, BitVec.getLsbD_xor,
      getLsbD_lowByte, decide_eq_false above, Bool.false_and, Bool.false_xor, BitVec.getLsbD_xor,
      BitVec.getLsbD_setWidth, BitVec.getLsbD_of_ge byte _ (by omega), Bool.and_false,
      Bool.xor_false]
  unfold absorb
  rw [split (register ^^^ byte.setWidth width), iterate_shiftOut_xor,
    iterate_shiftOut_of_clear polynomial clear, high, ← split]

/-! ## Bursts -/

/-- Some bytes as one word, the first of them lowest. -/
def packed : List (BitVec 8) → BitVec width
  | [] => BitVec.ofNat width 0
  | byte :: rest => byte.setWidth width ^^^ (packed rest <<< 8)

theorem getLsbD_packed_high (bytes : List (BitVec 8)) {index : Nat}
    (above : 8 * bytes.length ≤ index) : (packed bytes : BitVec width).getLsbD index = false := by
  induction bytes generalizing index with
  | nil => exact BitVec.getLsbD_zero
  | cons byte rest ih =>
      rw [List.length_cons] at above
      rw [packed, BitVec.getLsbD_xor, BitVec.getLsbD_setWidth, BitVec.getLsbD_of_ge byte _ (by omega),
        Bool.and_false, Bool.false_xor, BitVec.getLsbD_shiftLeft, ih (by omega), Bool.and_false]

/-- A word that leaves room for a byte comes back when it has made that room. -/
theorem packed_shift (bytes : List (BitVec 8)) (room : 8 * (bytes.length + 1) ≤ width) :
    (packed bytes <<< 8 : BitVec width) >>> 8 = packed bytes := by
  apply BitVec.eq_of_getLsbD_eq
  intro index inside
  rw [BitVec.getLsbD_ushiftRight, BitVec.getLsbD_shiftLeft, Nat.add_sub_cancel_left]
  by_cases below : 8 + index < width
  · rw [decide_eq_true below, decide_eq_false (by omega), Bool.not_false, Bool.and_self,
      Bool.true_and]
  · rw [decide_eq_false below, Bool.false_and, Bool.false_and,
      getLsbD_packed_high bytes (by omega)]

/-- The first byte of a word, and the rest of it. -/
theorem getLsbD_packed_low (byte : BitVec 8) (rest : List (BitVec 8)) {index : Nat}
    (low : index < 8) (inside : index < width) :
    (packed (byte :: rest) : BitVec width).getLsbD index = byte.getLsbD index := by
  rw [packed, BitVec.getLsbD_xor, BitVec.getLsbD_setWidth, decide_eq_true inside, Bool.true_and,
    BitVec.getLsbD_shiftLeft, decide_eq_true low, Bool.not_true, Bool.and_false, Bool.false_and,
    Bool.xor_false]

/-- Bytes that fit in a word can be told from it. -/
theorem packed_inj {first second : List (BitVec 8)} (length : first.length = second.length)
    (fits : 8 * first.length ≤ width)
    (same : (packed first : BitVec width) = packed second) : first = second := by
  induction first generalizing second with
  | nil => exact (List.length_eq_zero_iff.mp length.symm).symm
  | cons byte rest ih =>
      cases second with
      | nil => cases length
      | cons other further =>
          rw [List.length_cons] at fits
          have lengths : rest.length = further.length := Nat.succ.inj length
          have bytes : byte = other := by
            apply BitVec.eq_of_getLsbD_eq
            intro index low
            have inside : index < width := by omega
            rw [← getLsbD_packed_low byte rest low inside, same,
              getLsbD_packed_low other further low inside]
          subst bytes
          have shifted : (packed rest <<< 8 : BitVec width) = packed further <<< 8 := by
            have cancelled := congrArg (byte.setWidth width ^^^ ·) same
            simp only [packed, ← BitVec.xor_assoc, BitVec.xor_self, BitVec.zero_xor] at cancelled
            exact cancelled
          have words : (packed rest : BitVec width) = packed further := by
            rw [← packed_shift rest fits, shifted, packed_shift further (lengths ▸ fits)]
          rw [ih lengths (by omega) words]

/-- Bytes that fit in the register are taken in as if they were added to it first. -/
theorem foldl_absorb (bytes : List (BitVec 8)) (fits : 8 * bytes.length ≤ width)
    (register : BitVec width) :
    bytes.foldl (absorb polynomial) register =
      (shiftOut polynomial)^[8 * bytes.length] (register ^^^ packed bytes) := by
  induction bytes generalizing register with
  | nil => exact BitVec.xor_zero.symm
  | cons byte rest ih =>
      rw [List.length_cons] at fits
      have clear : ∀ index < 8, (packed rest <<< 8 : BitVec width).getLsbD index = false := by
        intro index low
        rw [BitVec.getLsbD_shiftLeft, decide_eq_true low, Bool.not_true, Bool.and_false,
          Bool.false_and]
      have later : (packed rest : BitVec width) =
          (shiftOut polynomial)^[8] (packed rest <<< 8) := by
        rw [iterate_shiftOut_of_clear polynomial clear, packed_shift rest fits]
      rw [List.foldl_cons, ih (by omega), absorb, later, ← iterate_shiftOut_xor, packed,
        List.length_cons, Nat.mul_succ, Function.iterate_add_apply, BitVec.xor_assoc]

section Injective

variable {polynomial} (top : polynomial.msb = true)
include top

/-- A polynomial with its highest bit set tells which bit was shifted out. -/
theorem shiftOut_eq_zero {register : BitVec width}
    (zero : shiftOut polynomial register = BitVec.ofNat width 0) : register = BitVec.ofNat width 0 := by
  have positive : 0 < width := by
    by_contra none
    have empty : width = 0 := Nat.eq_zero_of_not_pos none
    subst empty
    exact Bool.false_ne_true ((congrArg BitVec.msb BitVec.of_length_zero).symm.trans top)
  unfold shiftOut at zero
  split at zero
  · have same : register >>> 1 = polynomial := BitVec.xor_eq_zero_iff.mp zero
    have clear : (register >>> 1).msb = false := by
      rw [BitVec.msb_eq_getLsbD_last, BitVec.getLsbD_ushiftRight]
      exact BitVec.getLsbD_of_ge _ _ (by omega)
    rw [same, top] at clear
    cases clear
  · rename_i low
    apply BitVec.eq_of_getLsbD_eq
    intro index inside
    rw [BitVec.getLsbD_zero]
    cases index with
    | zero => exact Bool.not_eq_true _ ▸ low
    | succ index =>
        have bit := congrArg (·.getLsbD index) zero
        rwa [BitVec.getLsbD_ushiftRight, BitVec.getLsbD_zero, Nat.add_comm] at bit

theorem shiftOut_injective : Function.Injective (shiftOut polynomial) := by
  intro first second same
  apply BitVec.xor_eq_zero_iff.mp
  apply shiftOut_eq_zero top
  rw [shiftOut_xor, same, BitVec.xor_self]

/-- Bytes that are taken in leave different registers different. -/
theorem foldl_absorb_injective (bytes : List (BitVec 8)) :
    Function.Injective fun register => bytes.foldl (absorb polynomial) register := by
  induction bytes with
  | nil => exact Function.injective_id
  | cons byte rest ih =>
      intro first second same
      have absorbed := ih same
      have added := (shiftOut_injective top).iterate 8 absorbed
      exact (BitVec.xor_left_inj _).mp added

/-- **Bursts are noticed.** Texts that are the same but for bytes that fit in the register
have different check sums. -/
theorem checkSum_burst {first second : List (BitVec 8)} (before after : List (BitVec 8))
    (length : first.length = second.length) (fits : 8 * first.length ≤ width)
    (same : checkSum polynomial (before ++ first ++ after) =
      checkSum polynomial (before ++ second ++ after)) : first = second := by
  unfold checkSum at same
  have registers := (BitVec.xor_left_inj _).mp same
  rw [List.foldl_append, List.foldl_append, List.foldl_append, List.foldl_append] at registers
  have windows := foldl_absorb_injective top after registers
  rw [foldl_absorb polynomial first fits, foldl_absorb polynomial second (length ▸ fits),
    ← length] at windows
  have words := (shiftOut_injective top).iterate _ windows
  exact packed_inj length fits ((BitVec.xor_right_inj _).mp words)

end Injective

end Foundation.Crc
