import DataFeed.Core.Decimal
import DataFeed.Foundation.DecimalText

/-! # Scaling decimal text

`scaleDecimalStringToI64` gives a text's value in units of the last decimal, what is
finer dropped, as long as it has neither a sign nor an exponent and the value fits
(`scale_plain`). It adds the fraction after a minus sign too, and does not look at what
follows the digits of either part.
-/

namespace DataFeed.Core

open Foundation

/-- A signed 64 bit number. -/
def FitsI64 (value : Int) : Prop :=
  -9223372036854775808 ≤ value ∧ value ≤ 9223372036854775807

instance instDecidableFitsI64 (value : Int) : Decidable (FitsI64 value) :=
  inferInstanceAs (Decidable (_ ∧ _))

/-- A value within 64 bits passes the check. -/
theorem checked_of_fits {value : Int} (fits : FitsI64 value) : checked value = some value :=
  if_pos fits

/-- A value within 64 bits is kept by the conversion. -/
theorem toInt_ofInt_of_fits {value : Int} (fits : FitsI64 value) :
    (Int64.ofInt value).toInt = value :=
  Int64.toInt_ofInt_of_le fits.1 (Int.lt_of_le_of_lt fits.2 (by decide))

/-- Every 64-bit value is within 64 bits. -/
theorem fitsI64_toInt (value : Int64) : FitsI64 value.toInt :=
  ⟨value.le_toInt, Int.le_of_lt_add_one value.toInt_lt⟩

/-- A factor of a value within 64 bits is within them. -/
theorem fitsI64_of_mul {value unit : Int} (positive : 0 < unit) (fits : FitsI64 (value * unit)) :
    FitsI64 value := by
  obtain ⟨low, high⟩ := fits
  rcases Int.le_total 0 value with above | below
  · have grows : value * 1 ≤ value * unit := Int.mul_le_mul_of_nonneg_left positive above
    constructor <;> omega
  · have shrinks : value * unit ≤ value * 1 := Int.mul_le_mul_of_nonpos_left below positive
    constructor <;> omega

/-- Amounts of at most eighteen digits are within 64 bits. -/
theorem fitsI64_of_lt {amount : Nat} (small : amount < 10 ^ 18) : FitsI64 amount := by
  constructor <;> omega

/-- Up to the eighteenth, the power of ten is the power. -/
theorem pow10_eq {exponent : Nat} (small : exponent ≤ 18) :
    pow10 exponent = some (10 ^ exponent) := by
  induction exponent with
  | zero => rfl
  | succ exponent ih =>
      have bound : (10 : Int) ^ (exponent + 1) ≤ 10 ^ 18 :=
        pow_le_pow_right₀ (by decide) small
      have positive : (0 : Int) < 10 ^ (exponent + 1) := by positivity
      rw [pow10, ih (Nat.le_of_succ_le small), Option.bind_some, ← pow_succ]
      apply checked_of_fits
      constructor <;> omega

/-- From the nineteenth on, the power of ten overflows. -/
theorem pow10_overflow {exponent : Nat} (large : 18 < exponent) : pow10 exponent = none := by
  induction exponent, large using Nat.le_induction with
  | base => decide
  | succ exponent _ ih => rw [pow10, ih, Option.bind_none]

/-- What a minus sign or none multiplies by. -/
def signOf (negative : Bool) : Int := if negative then -1 else 1

/-- No digit is a minus sign. -/
theorem head?_ne_minus {digits : List UInt8} (all : AllDigits digits) : digits.head? ≠ some 45 := by
  intro minus
  have digit := all 45 (List.mem_of_mem_head? minus)
  contradiction

/-- Digits, after a minus sign or without one, are read to their end. -/
theorem fromCharsI64_eq {digits : List UInt8} (all : AllDigits digits) (negative : Bool) :
    fromCharsI64 ((if negative then [45] else []) ++ digits) =
      if digits = [] then .invalid
      else if FitsI64 (signOf negative * numeral digits) then
        .number (signOf negative * numeral digits) []
      else .outOfRange [] := by
  unfold fromCharsI64 fromChars
  extract_lets signed unsigned leading rest value
  have sign : signed = negative := by
    cases negative with
    | false =>
        simp only [signed, Bool.false_eq_true, ↓reduceIte, List.nil_append, head?_ne_minus all,
          decide_false, Bool.and_false]
    | true => rfl
  have body : unsigned = digits := by
    cases negative with
    | false => simp only [unsigned, sign, Bool.false_eq_true, ↓reduceIte, List.nil_append]
    | true => simp only [unsigned, sign, ↓reduceIte, List.singleton_append, List.tail_cons]
  have read : leading = digits := by
    simp only [leading, body, leadingDigits_eq all]
  have same : value = signOf negative * numeral digits := by
    simp only [value, sign, read, signOf]
    split
    · exact (Int.neg_one_mul _).symm
    · exact (Int.one_mul _).symm
  have whole : rest = [] := by
    simp only [rest, read, body, List.drop_length]
  rw [read, same, whole]
  rfl

/-- Digits, after a minus sign or without one, count as what they stand for. -/
theorem fromCharsI64_signed {digits : List UInt8} (all : AllDigits digits) (negative : Bool)
    (fits : FitsI64 (signOf negative * numeral digits)) :
    (fromCharsI64 ((if negative then [45] else []) ++ digits)).valueOr 0 =
      signOf negative * numeral digits := by
  rw [fromCharsI64_eq all negative, if_pos fits]
  split
  · rename_i nothing
    rw [nothing, numeral_nil]
    exact (Int.mul_zero _).symm
  · rfl

/-- A text's two parts, whatever its sign, scaled and added up. -/
theorem scale_parts {text : String} {decimals : UInt32} {negative : Bool}
    {whole fraction : List UInt8}
    (integer : integerPart (bytes text) = (if negative then [45] else []) ++ whole)
    (rest : fractionPart (bytes text) = fraction) (whole_digits : AllDigits whole)
    (fraction_digits : AllDigits fraction) (precise : decimals.toNat ≤ 18)
    (high_fits : FitsI64 (signOf negative * wholeUnits whole decimals.toNat))
    (fits : FitsI64 (signOf negative * wholeUnits whole decimals.toNat +
      fractionUnits fraction decimals.toNat)) :
    scaleDecimalStringToI64 text decimals =
      some (Int64.ofInt (signOf negative * wholeUnits whole decimals.toNat +
        fractionUnits fraction decimals.toNat)) := by
  have kept : AllDigits (fraction.take decimals.toNat) :=
    fraction_digits.of_sublist (List.take_sublist _ _)
  have small : fractionUnits fraction decimals.toNat < 10 ^ 18 :=
    Nat.lt_of_lt_of_le (fractionUnits_lt fraction_digits _) (Nat.pow_le_pow_right (by decide) precise)
  have whole_product : signOf negative * (wholeUnits whole decimals.toNat : Int) =
      signOf negative * numeral whole * 10 ^ decimals.toNat := by
    rw [wholeUnits]
    push_cast
    rw [Int.mul_assoc]
  have fraction_product : (fractionUnits fraction decimals.toNat : Int) =
      numeral (fraction.take decimals.toNat) *
        10 ^ (decimals.toNat - min fraction.length decimals.toNat) := by
    rw [fractionUnits]
    push_cast
    rfl
  have high : (fromCharsI64 (integerPart (bytes text))).valueOr 0 =
      signOf negative * numeral whole := by
    rw [whole_product] at high_fits
    rw [integer]
    exact fromCharsI64_signed whole_digits negative (fitsI64_of_mul (by positivity) high_fits)
  have low : (if min fraction.length decimals.toNat > 0 then
      (fromCharsI64 (fraction.take (min fraction.length decimals.toNat))).valueOr 0 else 0) =
        (numeral (fraction.take decimals.toNat) : Int) := by
    have cut : fraction.take (min fraction.length decimals.toNat) =
        fraction.take decimals.toNat := by
      rw [Nat.min_comm, ← List.take_eq_take_min]
    rw [cut]
    split
    · have unsigned := fromCharsI64_signed kept false (by
        rw [signOf, if_neg Bool.false_ne_true, Int.one_mul]
        exact fitsI64_of_lt (Nat.lt_of_le_of_lt (Nat.le_mul_of_pos_right _ (by positivity)) small))
      rwa [signOf, if_neg Bool.false_ne_true, if_neg Bool.false_ne_true, Int.one_mul] at unsigned
    · rename_i none
      have length : (fraction.take decimals.toNat).length = min fraction.length decimals.toNat := by
        rw [List.length_take, Nat.min_comm]
      have nothing : fraction.take decimals.toNat = [] :=
        List.eq_nil_of_length_eq_zero (by omega)
      rw [nothing]
      rfl
  unfold scaleDecimalStringToI64
  dsimp only
  rw [rest, high, low, pow10_eq precise, Option.bind_some, ← whole_product,
    checked_of_fits high_fits, Option.bind_some, pow10_eq (Nat.le_trans (Nat.sub_le _ _) precise),
    Option.bind_some, ← fraction_product, checked_of_fits (fitsI64_of_lt small), Option.bind_some,
    checked_of_fits fits, Option.map_some]

/-- Digits with at most one point among them. -/
def Plain (text : List UInt8) : Prop :=
  AllDigits (integerPart text) ∧ AllDigits (fractionPart text)

instance instDecidablePlain (text : List UInt8) : Decidable (Plain text) :=
  inferInstanceAs (Decidable (_ ∧ _))

/-- A plain text's value in units of the last decimal, what is finer dropped. -/
def plainScaled (text : List UInt8) (decimals : Nat) : Nat :=
  numeral (integerPart text ++ fractionPart text) * 10 ^ decimals /
    10 ^ (fractionPart text).length

/-- Plain decimals are scaled exactly. -/
theorem scale_plain {text : String} {decimals : UInt32} (plain : Plain (bytes text))
    (precise : decimals.toNat ≤ 18) (fits : FitsI64 (plainScaled (bytes text) decimals.toNat)) :
    scaleDecimalStringToI64 text decimals =
      some (Int64.ofInt (plainScaled (bytes text) decimals.toNat)) := by
  have sum : (plainScaled (bytes text) decimals.toNat : Int) =
      signOf false * wholeUnits (integerPart (bytes text)) decimals.toNat +
        fractionUnits (fractionPart (bytes text)) decimals.toNat := by
    rw [signOf, if_neg Bool.false_ne_true, Int.one_mul, plainScaled, numeral_cut plain.2]
    rfl
  have high_fits : FitsI64 (signOf false * wholeUnits (integerPart (bytes text))
      decimals.toNat) := by
    rw [sum, signOf, if_neg Bool.false_ne_true, Int.one_mul] at fits
    rw [signOf, if_neg Bool.false_ne_true, Int.one_mul]
    obtain ⟨_, high⟩ := fits
    constructor <;> omega
  rw [sum] at fits ⊢
  exact scale_parts rfl rfl plain.1 plain.2 precise high_fits fits

/-- What a text says in units of the last decimal, toward zero, if it is a number at
all. -/
def exactValue (text : String) (decimals : UInt32) : Option Int :=
  (DecimalText.read (bytes text)).map fun number => number.scaled decimals.toNat

/-- A number as `scaleDecimalStringToI64` takes numbers to be written: it has no exponent,
there is nothing in the decimals of a negative one, and it fits. -/
def WellSpelled (text : String) (decimals : UInt32) : Prop :=
  ∃ number, DecimalText.read (bytes text) = some number ∧ number.exponent = none ∧
    decimals.toNat ≤ 18 ∧ FitsI64 (number.scaled decimals.toNat) ∧
    (number.negative = true → ∀ byte ∈ number.fraction.take decimals.toNat, byte = 48)

/-- A text has an exponent. -/
def HasExponent (text : String) : Prop :=
  ∃ number, DecimalText.read (bytes text) = some number ∧ number.exponent ≠ none

/-- What stands before the point is the integer part. -/
theorem integerPart_append {front point fraction : List UInt8} (before : 46 ∉ front)
    (pointed : point = [] ∧ fraction = [] ∨ point = 46 :: fraction) :
    integerPart (front ++ point) = front := by
  have passed : ∀ byte ∈ front, decide (byte ≠ 46) = true := by
    intro byte member
    rw [decide_eq_true_eq]
    rintro rfl
    exact before member
  unfold integerPart
  rw [List.takeWhile_append_of_pos passed]
  rcases pointed with ⟨rfl, _⟩ | rfl
  · exact List.append_nil front
  · exact List.append_nil front

/-- What stands after the point is the fraction. -/
theorem fractionPart_append {front point fraction : List UInt8} (before : 46 ∉ front)
    (pointed : point = [] ∧ fraction = [] ∨ point = 46 :: fraction) :
    fractionPart (front ++ point) = fraction := by
  have passed : ∀ byte ∈ front, decide (byte ≠ 46) = true := by
    intro byte member
    rw [decide_eq_true_eq]
    rintro rfl
    exact before member
  unfold fractionPart
  rw [List.dropWhile_append_of_pos passed]
  rcases pointed with ⟨rfl, rfl⟩ | rfl <;> rfl

section Scaled

variable {text : String} {decimals : UInt32} {number : DecimalText}

/-- The parts of a text that spells a number without an exponent. -/
theorem parts_of_read (reads : DecimalText.read (bytes text) = some number)
    (plain : number.exponent = none) :
    integerPart (bytes text) = number.sign ++ number.whole ∧
      fractionPart (bytes text) = number.fraction ∧
      AllDigits number.whole ∧ AllDigits number.fraction := by
  obtain ⟨whole, fraction, _, point, spelled, pointed⟩ := DecimalText.text_of_read reads plain
  have before : 46 ∉ number.sign ++ number.whole := by
    rw [List.mem_append, not_or]
    constructor
    · unfold DecimalText.sign
      split <;> decide
    · intro member
      have digit := whole 46 member
      contradiction
  rw [spelled]
  exact ⟨integerPart_append before pointed, fractionPart_append before pointed, whole, fraction⟩

/-- The digits of a number cut to the decimals. -/
theorem scaled_eq (plain : number.exponent = none) (digits : AllDigits number.fraction) :
    number.scaled decimals.toNat =
      signOf number.negative * (wholeUnits number.whole decimals.toNat +
        fractionUnits number.fraction decimals.toNat : Nat) :=
  DecimalText.scaled_of_plain plain digits _

/-- A number without an exponent comes out with its fraction added, whatever its sign. -/
theorem scale_of_read (reads : DecimalText.read (bytes text) = some number)
    (plain : number.exponent = none) (precise : decimals.toNat ≤ 18)
    (fits : FitsI64 (number.scaled decimals.toNat)) :
    ∃ value : Int64, scaleDecimalStringToI64 text decimals = some value ∧
      value.toInt = signOf number.negative * wholeUnits number.whole decimals.toNat +
        fractionUnits number.fraction decimals.toNat := by
  obtain ⟨integer, rest, whole, fraction⟩ := parts_of_read reads plain
  rw [scaled_eq plain fraction] at fits
  have small : fractionUnits number.fraction decimals.toNat < 10 ^ 18 :=
    Nat.lt_of_lt_of_le (fractionUnits_lt fraction _) (Nat.pow_le_pow_right (by decide) precise)
  have sum : FitsI64 (signOf number.negative * wholeUnits number.whole decimals.toNat +
      fractionUnits number.fraction decimals.toNat) ∧
      FitsI64 (signOf number.negative * wholeUnits number.whole decimals.toNat) := by
    obtain ⟨least, most⟩ := fits
    cases negative : number.negative with
    | false =>
        rw [negative, signOf, if_neg Bool.false_ne_true] at least most
        rw [signOf, if_neg Bool.false_ne_true]
        refine ⟨⟨?_, ?_⟩, ?_, ?_⟩ <;> omega
    | true =>
        rw [negative, signOf, if_pos rfl] at least most
        rw [signOf, if_pos rfl]
        refine ⟨⟨?_, ?_⟩, ?_, ?_⟩ <;> omega
  exact ⟨_, scale_parts integer rest whole fraction precise sum.2 sum.1,
    toInt_ofInt_of_fits sum.1⟩

variable {scale : String → UInt32 → Int64}

/-- Numbers that are written as expected are read exactly, in every build. -/
theorem exact_of_wellSpelled (scales : Scales scale) (spelled : WellSpelled text decimals) :
    exactValue text decimals = some (scale text decimals).toInt := by
  obtain ⟨number, reads, plain, precise, fits, signed⟩ := spelled
  obtain ⟨value, scaled, sum⟩ := scale_of_read reads plain precise fits
  obtain ⟨_, _, _, fraction⟩ := parts_of_read reads plain
  rw [scales _ _ _ scaled, sum, exactValue, reads, Option.map_some, scaled_eq plain fraction]
  congr 1
  cases negative : number.negative with
  | false =>
      rw [signOf, if_neg Bool.false_ne_true]
      omega
  | true =>
      rw [(fractionUnits_eq_zero_iff fraction).mpr (signed negative), Nat.add_zero, Int.natCast_zero,
        Int.add_zero]

/-- Without an exponent, nothing else is read exactly. -/
theorem wellSpelled_of_exact
    (exact : ∀ scale, Scales scale → exactValue text decimals = some (scale text decimals).toInt)
    (plain : ¬ HasExponent text) : WellSpelled text decimals := by
  -- A build may make anything of an overflow.
  have built : ∀ wild : Int64, exactValue text decimals =
      some ((scaleDecimalStringToI64 text decimals).getD wild).toInt := fun wild =>
    exact (fun text decimals => (scaleDecimalStringToI64 text decimals).getD wild)
      fun text decimals value scaled => congrArg (Option.getD · wild) scaled
  cases scaled : scaleDecimalStringToI64 text decimals with
  | none =>
      have zero := built 0
      have one := built 1
      rw [scaled] at zero one
      rw [zero] at one
      contradiction
  | some value =>
      have same := built 0
      rw [scaled, Option.getD_some] at same
      obtain ⟨number, reads, read⟩ := Option.map_eq_some_iff.mp same
      have unscaled : number.exponent = none :=
        Decidable.byContradiction fun present => plain ⟨number, reads, present⟩
      have precise : decimals.toNat ≤ 18 := by
        by_contra large
        rw [scaleDecimalStringToI64, pow10_overflow (Nat.not_le.mp large)] at scaled
        contradiction
      have fits : FitsI64 (number.scaled decimals.toNat) := read ▸ fitsI64_toInt value
      obtain ⟨_, _, _, fraction⟩ := parts_of_read reads unscaled
      refine ⟨number, reads, unscaled, precise, fits, fun negative => ?_⟩
      obtain ⟨other, again, sum⟩ := scale_of_read reads unscaled precise fits
      obtain rfl := Option.some.inj (again.symm.trans scaled)
      rw [sum, scaled_eq unscaled fraction, negative, signOf, if_pos rfl] at read
      apply (fractionUnits_eq_zero_iff fraction).mp
      omega

end Scaled

end DataFeed.Core
