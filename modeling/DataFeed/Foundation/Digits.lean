import Mathlib.Data.List.DropRight
import Mathlib.Data.Nat.Digits.Lemmas
import Mathlib.Tactic.Ring

/-! # Decimal digits as text

The digits of a text, the number a run of them stands for, and the digits a number is
printed as. Printing what a run of digits stands for gives the run back without its
leading zeros (`decimalDigits_numeral`), and a number is read back from what it is printed
as (`numeral_decimalDigits`).
-/

namespace Foundation

/-- A byte that is a decimal digit. -/
def isDigit (byte : UInt8) : Bool := 48 ≤ byte && byte ≤ 57

/-- The value of a digit. -/
def digitValue (byte : UInt8) : Nat := byte.toNat - 48

/-- The number that a text of digits stands for. -/
def numeral (digits : List UInt8) : Nat :=
  digits.foldl (fun value byte => 10 * value + digitValue byte) 0

/-- The digits a text begins with. -/
def leadingDigits (text : List UInt8) : List UInt8 := text.takeWhile isDigit

/-- A text of digits only. -/
def AllDigits (text : List UInt8) : Prop := ∀ byte ∈ text, isDigit byte = true

instance instDecidableAllDigits (text : List UInt8) : Decidable (AllDigits text) :=
  inferInstanceAs (Decidable (∀ byte ∈ text, isDigit byte = true))

/-- The digits are the bytes from 48 to 57. -/
theorem isDigit_iff {byte : UInt8} : isDigit byte = true ↔ 48 ≤ byte.toNat ∧ byte.toNat ≤ 57 := by
  unfold isDigit
  rw [Bool.and_eq_true, decide_eq_true_eq, decide_eq_true_eq]
  exact Iff.rfl

/-- A digit is worth less than ten. -/
theorem digitValue_lt {byte : UInt8} (digit : isDigit byte = true) : digitValue byte < 10 := by
  have range := isDigit_iff.mp digit
  unfold digitValue
  omega

/-- The only digit that is worth nothing is 0. -/
theorem digitValue_eq_zero_iff {byte : UInt8} (digit : isDigit byte = true) :
    digitValue byte = 0 ↔ byte = 48 := by
  have range := isDigit_iff.mp digit
  unfold digitValue
  rw [← UInt8.toNat_inj]
  change _ ↔ byte.toNat = 48
  omega

namespace AllDigits

variable {text first second : List UInt8}

/-- The empty text has only digits. -/
@[simp] theorem nil : AllDigits [] := fun _ member => (List.not_mem_nil member).elim

/-- A text has only digits if both its parts do. -/
theorem append_iff : AllDigits (first ++ second) ↔ AllDigits first ∧ AllDigits second :=
  List.forall_mem_append

/-- What is left of digits are digits. -/
theorem of_sublist (digits : AllDigits text) (part : first.Sublist text) : AllDigits first :=
  fun byte member => digits byte (part.subset member)

/-- Zeros are digits. -/
theorem replicate_zero (count : Nat) : AllDigits (List.replicate count 48) := by
  intro byte member
  rw [List.eq_of_mem_replicate member]
  decide

end AllDigits

/-- The leading digits end at the first byte that is none. -/
theorem leadingDigits_append {digits rest : List UInt8} (all : AllDigits digits)
    (ends : ∀ byte ∈ rest.head?, isDigit byte = false) : leadingDigits (digits ++ rest) = digits := by
  unfold leadingDigits
  rw [List.takeWhile_append_of_pos all]
  cases rest with
  | nil => exact List.append_nil digits
  | cons byte rest =>
      rw [List.takeWhile_cons_of_neg (Bool.not_eq_true _ ▸ ends byte rfl), List.append_nil]

/-- Digits alone are all leading. -/
theorem leadingDigits_eq {digits : List UInt8} (all : AllDigits digits) :
    leadingDigits digits = digits := by
  have ends : ∀ byte ∈ ([] : List UInt8).head?, isDigit byte = false :=
    fun _ member => by contradiction
  have whole := leadingDigits_append all ends
  rwa [List.append_nil] at whole

/-- The leading digits are digits. -/
theorem allDigits_leadingDigits (text : List UInt8) : AllDigits (leadingDigits text) :=
  fun _ member => List.mem_takeWhile_imp member

/-- No digits stand for zero. -/
@[simp] theorem numeral_nil : numeral [] = 0 := rfl

/-- One more digit makes a number ten times as large and adds the digit. -/
theorem numeral_concat (digits : List UInt8) (byte : UInt8) :
    numeral (digits ++ [byte]) = 10 * numeral digits + digitValue byte := by
  unfold numeral
  rw [List.foldl_append, List.foldl_cons, List.foldl_nil]

/-- Digits before others count by the place that these take. -/
theorem numeral_append (first second : List UInt8) :
    numeral (first ++ second) = numeral first * 10 ^ second.length + numeral second := by
  induction second using List.reverseRecOn with
  | nil => rw [List.append_nil, List.length_nil, Nat.pow_zero, Nat.mul_one, numeral_nil, Nat.add_zero]
  | append_singleton second byte ih =>
      rw [← List.append_assoc, numeral_concat, numeral_concat, ih, List.length_append,
        List.length_singleton, Nat.pow_succ]
      ring

/-- So many digits stand for less than the power of ten. -/
theorem numeral_lt {digits : List UInt8} (all : AllDigits digits) :
    numeral digits < 10 ^ digits.length := by
  induction digits using List.reverseRecOn with
  | nil => exact Nat.one_pos
  | append_singleton digits byte ih =>
      obtain ⟨before, last⟩ := AllDigits.append_iff.mp all
      have value := digitValue_lt (last byte List.mem_cons_self)
      have smaller := ih before
      rw [numeral_concat, List.length_append, List.length_singleton, Nat.pow_succ]
      omega

/-- Only zeros stand for zero. -/
theorem numeral_eq_zero_iff {digits : List UInt8} (all : AllDigits digits) :
    numeral digits = 0 ↔ ∀ byte ∈ digits, byte = 48 := by
  induction digits using List.reverseRecOn with
  | nil => exact iff_of_true rfl fun _ member => (List.not_mem_nil member).elim
  | append_singleton digits byte ih =>
      obtain ⟨before, last⟩ := AllDigits.append_iff.mp all
      rw [numeral_concat, List.forall_mem_append, ← ih before, List.forall_mem_singleton,
        ← digitValue_eq_zero_iff (last byte List.mem_cons_self)]
      omega

/-- Zeros stand for zero. -/
theorem numeral_replicate_zero (count : Nat) : numeral (List.replicate count 48) = 0 :=
  (numeral_eq_zero_iff (AllDigits.replicate_zero count)).mpr fun _ member =>
    List.eq_of_mem_replicate member

/-- Leading zeros do not count. -/
theorem numeral_dropWhile_zero (digits : List UInt8) :
    numeral (digits.dropWhile (· = 48)) = numeral digits := by
  induction digits with
  | nil => rfl
  | cons byte digits ih =>
      by_cases zero : byte = 48
      · rw [List.dropWhile_cons, if_pos (decide_eq_true zero), ih, zero]
        rfl
      · rw [List.dropWhile_cons, if_neg (by rwa [decide_eq_true_eq])]

/-- A digit as text. -/
def digitByte (digit : Nat) : UInt8 := UInt8.ofNat (48 + digit)

/-- A digit is the byte of its value. -/
theorem digitByte_digitValue {byte : UInt8} (digit : isDigit byte = true) :
    digitByte (digitValue byte) = byte := by
  have range := isDigit_iff.mp digit
  unfold digitByte digitValue
  rw [show 48 + (byte.toNat - 48) = byte.toNat by omega, UInt8.ofNat_toNat]

/-- The digits a number is printed as. -/
def decimalDigits (value : Nat) : List UInt8 :=
  if value = 0 then [48] else (Nat.digits 10 value).reverse.map digitByte

/-- The number a run of digits stands for has them as its digits, the last one first. -/
theorem numeral_eq_ofDigits (digits : List UInt8) :
    numeral digits = Nat.ofDigits 10 (digits.map digitValue).reverse := by
  induction digits using List.reverseRecOn with
  | nil => rfl
  | append_singleton digits byte ih =>
      rw [numeral_concat, ih, List.map_append, List.map_singleton, List.reverse_append,
        List.reverse_singleton, List.singleton_append, Nat.ofDigits_cons]
      exact Nat.add_comm _ _

/-- **Printing undoes reading.** What a run of digits stands for is printed as the run
without its leading zeros. -/
theorem decimalDigits_numeral {digits : List UInt8} (all : AllDigits digits)
    (positive : 0 < numeral digits) :
    decimalDigits (numeral digits) = digits.dropWhile (· = 48) := by
  have kept : AllDigits (digits.dropWhile (· = 48)) :=
    all.of_sublist (List.dropWhile_sublist _)
  rw [← numeral_dropWhile_zero] at positive ⊢
  generalize same : digits.dropWhile (· = 48) = trimmed at kept positive ⊢
  have leading : ∀ byte ∈ trimmed.head?, byte ≠ 48 := by
    intro byte first zero
    have stopped := List.head?_dropWhile_not (fun byte : UInt8 => decide (byte = 48)) digits
    rw [same, Option.mem_def.mp first] at stopped
    exact absurd (decide_eq_true zero) (by simpa only [Bool.not_eq_true] using stopped)
  unfold decimalDigits
  rw [if_neg positive.ne', numeral_eq_ofDigits, Nat.digits_ofDigits 10 (by omega)]
  · rw [List.reverse_reverse, List.map_map]
    have back : ∀ byte ∈ trimmed, (digitByte ∘ digitValue) byte = id byte :=
      fun byte listed => digitByte_digitValue (kept byte listed)
    rw [List.map_congr_left back, List.map_id]
  · intro digit member
    rw [List.mem_reverse, List.mem_map] at member
    obtain ⟨byte, listed, rfl⟩ := member
    exact digitValue_lt (kept byte listed)
  · intro present
    cases trimmed with
    | nil => exact (present rfl).elim
    | cons byte rest =>
        have digit := kept byte List.mem_cons_self
        intro zero
        have first : digitValue byte = 0 := (List.getLast_reverse present).symm.trans zero
        exact leading byte rfl ((digitValue_eq_zero_iff digit).mp first)

/-- The byte of a small number is a digit. -/
theorem isDigit_digitByte {digit : Nat} (small : digit < 10) : isDigit (digitByte digit) = true := by
  revert digit
  decide

/-- The byte of a small number is worth that number. -/
theorem digitValue_digitByte {digit : Nat} (small : digit < 10) :
    digitValue (digitByte digit) = digit := by
  revert digit
  decide

/-- The last digit of a number comes after the digits of its tens. -/
theorem decimalDigits_tens {value : Nat} (tens : 10 ≤ value) :
    decimalDigits value = decimalDigits (value / 10) ++ [digitByte (value % 10)] := by
  have some_tens : value / 10 ≠ 0 := by omega
  unfold decimalDigits
  rw [if_neg (by omega), if_neg some_tens, Nat.digits_def' (by decide) (by omega),
    List.reverse_cons, List.map_append, List.map_singleton]

/-- A number below ten is written as one digit. -/
theorem decimalDigits_digit {value : Nat} (small : value < 10) :
    decimalDigits value = [digitByte value] := by
  unfold decimalDigits
  split
  · rename_i zero
    rw [zero]
    rfl
  · rename_i positive
    rw [Nat.digits_of_lt 10 value positive small]
    rfl

/-- A number is written with at least one digit. -/
theorem decimalDigits_ne_nil (value : Nat) : decimalDigits value ≠ [] := by
  rcases Nat.lt_or_ge value 10 with small | tens
  · rw [decimalDigits_digit small]
    exact List.cons_ne_nil _ _
  · rw [decimalDigits_tens tens]
    exact List.append_ne_nil_of_right_ne_nil _ (List.cons_ne_nil _ _)

/-- A number is written with digits only. -/
theorem allDigits_decimalDigits (value : Nat) : AllDigits (decimalDigits value) := by
  induction value using Nat.strongRecOn with
  | _ value ih =>
      rcases Nat.lt_or_ge value 10 with small | tens
      · rw [decimalDigits_digit small]
        exact List.forall_mem_singleton.mpr (isDigit_digitByte small)
      · rw [decimalDigits_tens tens]
        exact AllDigits.append_iff.mpr ⟨ih (value / 10) (by omega),
          List.forall_mem_singleton.mpr (isDigit_digitByte (Nat.mod_lt value (by decide)))⟩

/-- The digits of a positive number do not begin with a zero. -/
theorem head_decimalDigits {value : Nat} (positive : 0 < value) :
    (decimalDigits value).head? ≠ some 48 := by
  induction value using Nat.strongRecOn with
  | _ value ih =>
      rcases Nat.lt_or_ge value 10 with small | tens
      · rw [decimalDigits_digit small]
        intro zero
        have digit := digitValue_digitByte small
        rw [Option.some.inj zero] at digit
        exact positive.ne digit
      · rw [decimalDigits_tens tens,
          List.head?_append_of_ne_nil _ (decimalDigits_ne_nil (value / 10))]
        exact ih (value / 10) (by omega) (by omega)

/-- **Reading undoes printing.** -/
theorem numeral_decimalDigits (value : Nat) : numeral (decimalDigits value) = value := by
  induction value using Nat.strongRecOn with
  | _ value ih =>
      rcases Nat.lt_or_ge value 10 with small | tens
      · rw [decimalDigits_digit small]
        exact (numeral_concat [] _).trans (by rw [digitValue_digitByte small]; exact Nat.zero_add _)
      · rw [decimalDigits_tens tens, numeral_concat, ih (value / 10) (by omega),
          digitValue_digitByte (Nat.mod_lt value (by decide))]
        exact Nat.div_add_mod value 10

end Foundation
