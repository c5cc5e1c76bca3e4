import Mathlib.Data.List.DropRight
import Mathlib.Data.String.Basic
import DataFeed.Foundation.Digits

/-! # Numbers in text

`fromChars` reads the digits a text begins with, and leaves what follows them; most of
its callers look neither at what is left nor at its errors. Signed arithmetic that
overflows has no result (`checked`).
-/

namespace DataFeed.Core

open Foundation

/-- The bytes of a text. -/
def bytes (text : String) : List UInt8 := text.toByteArray.data.toList

@[simp] theorem bytes_append (first second : String) :
    bytes (first ++ second) = bytes first ++ bytes second := by
  unfold bytes
  rw [String.toByteArray_append, ByteArray.data_append, Array.toList_append]

theorem bytes_inj {first second : String} (same : bytes first = bytes second) : first = second :=
  String.toByteArray_inj.mp (ByteArray.ext (Array.toList_inj.mp same))

theorem repr_tens {value : Nat} (tens : 10 ≤ value) :
    value.repr = (value / 10).repr ++ (value % 10).repr := by
  apply String.toList_injective
  rw [String.toList_append, Nat.toList_repr, Nat.toList_repr, Nat.toList_repr,
    Nat.toDigits_of_base_le (by decide) tens,
    Nat.toDigits_of_lt_base (Nat.mod_lt value (by decide))]

theorem bytes_digit : ∀ digit < 10, bytes digit.repr = [digitByte digit] := by
  decide

/-- A number is spelled in its digits. -/
theorem bytes_repr (value : Nat) : bytes value.repr = decimalDigits value := by
  induction value using Nat.strongRecOn with
  | _ value ih =>
      rcases Nat.lt_or_ge value 10 with small | tens
      · rw [decimalDigits_digit small, bytes_digit value small]
      · rw [repr_tens tens, bytes_append, decimalDigits_tens tens, ih (value / 10) (by omega),
          bytes_digit _ (Nat.mod_lt value (by decide))]

/-- How reading a number from the front of a text ends. -/
inductive FromChars where
  | invalid
  | outOfRange (rest : List UInt8)
  | number (value : Int) (rest : List UInt8)
  deriving DecidableEq, Repr

/-- Reads an optional sign, if the type has one, and the digits after it. -/
def fromChars (signed : Bool) (low high : Int) (text : List UInt8) : FromChars :=
  let negative := signed && text.head? = some 45
  let unsigned := if negative then text.tail else text
  let digits := leadingDigits unsigned
  let rest := unsigned.drop digits.length
  let value : Int := if negative then -numeral digits else numeral digits
  if digits = [] then .invalid
  else if low ≤ value ∧ value ≤ high then .number value rest
  else .outOfRange rest

/-- Reads a signed 64 bit number. -/
def fromCharsI64 (text : List UInt8) : FromChars :=
  fromChars true (-9223372036854775808) 9223372036854775807 text

/-- Reads an unsigned 64 bit number. -/
def fromCharsU64 (text : List UInt8) : FromChars :=
  fromChars false 0 18446744073709551615 text

/-- Reads an unsigned 32 bit number. -/
def fromCharsU32 (text : List UInt8) : FromChars := fromChars false 0 4294967295 text

/-- The number read, or what the result was before. -/
def FromChars.valueOr (parsed : FromChars) (before : Int) : Int :=
  match parsed with
  | .number value _ => value
  | .invalid | .outOfRange _ => before

/-- The result of signed 64 bit arithmetic, if it does not overflow. -/
def checked (value : Int) : Option Int :=
  if -9223372036854775808 ≤ value ∧ value ≤ 9223372036854775807 then some value else none

/-- A power of ten, multiplied up. -/
def pow10 : Nat → Option Int
  | 0 => some 1
  | exponent + 1 => (pow10 exponent).bind fun result => checked (result * 10)

/-- The part of a number's text before the dot. -/
def integerPart (text : List UInt8) : List UInt8 := text.takeWhile (· ≠ 46)

/-- The part of a number's text after the dot. -/
def fractionPart (text : List UInt8) : List UInt8 := (text.dropWhile (· ≠ 46)).tail

/-- A decimal text as an integer scaled by a power of ten, unless the arithmetic
overflows. -/
def scaleDecimalStringToI64 (value : String) (decimals : UInt32) : Option Int64 :=
  let text := bytes value
  let integerValue := (fromCharsI64 (integerPart text)).valueOr 0
  let digitsUsed := min (fractionPart text).length decimals.toNat
  let fractionValue :=
    if digitsUsed > 0 then
      (fromCharsI64 ((fractionPart text).take digitsUsed)).valueOr 0
    else 0
  (pow10 decimals.toNat).bind fun unit =>
    (checked (integerValue * unit)).bind fun high =>
      (pow10 (decimals.toNat - digitsUsed)).bind fun place =>
        (checked (fractionValue * place)).bind fun low =>
          (checked (high + low)).map Int64.ofInt

/-- A function that has the results of `scaleDecimalStringToI64`, whatever a build makes
of an overflow. -/
def Scales (scale : String → UInt32 → Int64) : Prop :=
  ∀ text decimals value, scaleDecimalStringToI64 text decimals = some value →
    scale text decimals = value

/-- How many fraction digits a text needs, trailing zeros aside. -/
def fractionDigits (value : String) : UInt32 :=
  let text := bytes value
  if 46 ∈ text then
    UInt32.ofNat ((fractionPart text).rdropWhile (· = 48)).length
  else 0

end DataFeed.Core
