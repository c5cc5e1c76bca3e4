import DataFeed.Core.Scaling

/-! # Plain decimal text

Digits, some of them after a point, are scaled without loss and without an overflow, as long
as the result fits (`scale_exact`). `fractionDigits` counts the decimals that such a text
needs, and no more (`fractionDigits_isLeast`).
-/

namespace DataFeed.Core

open Foundation

/-- A text of digits, the ones of the fraction after a point. -/
def Spells (text : String) (whole fraction : List UInt8) : Prop :=
  AllDigits whole ∧ AllDigits fraction ∧
    (bytes text = whole ∧ fraction = [] ∨ bytes text = whole ++ 46 :: fraction)

instance instDecidableSpells (text : String) (whole fraction : List UInt8) :
    Decidable (Spells text whole fraction) :=
  inferInstanceAs (Decidable (_ ∧ _ ∧ _))

section Spells

variable {text : String} {whole fraction : List UInt8} {decimals : UInt32}

theorem point_notMem {digits : List UInt8} (all : AllDigits digits) : 46 ∉ digits := by
  intro member
  have digit := all 46 member
  contradiction

theorem Spells.parts (spells : Spells text whole fraction) :
    integerPart (bytes text) = whole ∧ fractionPart (bytes text) = fraction := by
  obtain ⟨digits, _, spelled⟩ := spells
  have before := point_notMem digits
  obtain ⟨point, same, pointed⟩ : ∃ point, bytes text = whole ++ point ∧
      (point = [] ∧ fraction = [] ∨ point = 46 :: fraction) := by
    rcases spelled with ⟨same, none⟩ | same
    · exact ⟨[], same.trans (List.append_nil _).symm, .inl ⟨rfl, none⟩⟩
    · exact ⟨46 :: fraction, same, .inr rfl⟩
  rw [same]
  exact ⟨integerPart_append before pointed, fractionPart_append before pointed⟩

theorem Spells.plain (spells : Spells text whole fraction) : Plain (bytes text) := by
  obtain ⟨integer, rest⟩ := spells.parts
  rw [Plain, integer, rest]
  exact ⟨spells.1, spells.2.1⟩

/-- A text of digits does not begin with a minus sign. -/
theorem Spells.head?_ne_minus (spells : Spells text whole fraction) :
    (bytes text).head? ≠ some 45 := by
  obtain ⟨digits, _, spelled⟩ := spells
  rcases spelled with ⟨same, _⟩ | same
  · rw [same]
    exact Core.head?_ne_minus digits
  · rw [same, List.head?_append]
    cases first : whole.head? with
    | none => exact fun minus => by cases minus
    | some byte =>
        rw [Option.some_or, ← first]
        exact Core.head?_ne_minus digits

/-- What is scaled is the value of the text, what is finer than the decimals dropped. -/
theorem Spells.plainScaled_eq (spells : Spells text whole fraction) (places : Nat) :
    (plainScaled (bytes text) places : Int) = ⌊pointValue whole fraction * 10 ^ places⌋ := by
  obtain ⟨integer, rest⟩ := spells.parts
  rw [plainScaled, integer, rest, floor_pointValue]

theorem fromCharsI64_ne_outOfRange {digits : List UInt8} (all : AllDigits digits)
    (fits : FitsI64 (numeral digits)) (rest : List UInt8) :
    fromCharsI64 digits ≠ .outOfRange rest := by
  have unsigned := fromCharsI64_eq all false
  rw [if_neg Bool.false_ne_true, List.nil_append, signOf, if_neg Bool.false_ne_true, Int.one_mul,
    if_pos fits] at unsigned
  rw [unsigned]
  split <;> exact FromChars.noConfusion

/-- **Plain decimals are scaled exactly.** The result is the value in units of the last
decimal, the rest dropped, if that fits; and then no part that is read, and nothing that is
multiplied or added up, leaves the range of 64 bits. -/
theorem scale_exact (spells : Spells text whole fraction) (precise : decimals.toNat ≤ 18)
    (fits : FitsI64 ⌊pointValue whole fraction * 10 ^ decimals.toNat⌋) :
    (∃ value : Int64, scaleDecimalStringToI64 text decimals = some value ∧
        value.toInt = ⌊pointValue whole fraction * 10 ^ decimals.toNat⌋) ∧
      (∀ rest, fromCharsI64 (integerPart (bytes text)) ≠ .outOfRange rest) ∧
      ∀ rest, fromCharsI64 ((fractionPart (bytes text)).take
        (min (fractionPart (bytes text)).length decimals.toNat)) ≠ .outOfRange rest := by
  have whole_digits := spells.1
  have fraction_digits := spells.2.1
  obtain ⟨integer, rest⟩ := spells.parts
  have sum : plainScaled (bytes text) decimals.toNat =
      wholeUnits whole decimals.toNat + fractionUnits fraction decimals.toNat := by
    rw [plainScaled, integer, rest, numeral_cut fraction_digits]
  rw [← spells.plainScaled_eq] at fits ⊢
  refine ⟨⟨_, scale_plain spells.plain precise fits, toInt_ofInt_of_fits fits⟩, ?_, ?_⟩
  · rw [integer]
    apply fromCharsI64_ne_outOfRange whole_digits
    have grows : numeral whole * 1 ≤ numeral whole * 10 ^ decimals.toNat :=
      Nat.mul_le_mul_left _ (Nat.pow_pos (by decide))
    rw [sum, wholeUnits] at fits
    obtain ⟨_, most⟩ := fits
    constructor <;> omega
  · have kept : AllDigits (fraction.take (min fraction.length decimals.toNat)) :=
      fraction_digits.of_sublist (List.take_sublist _ _)
    rw [rest]
    apply fromCharsI64_ne_outOfRange kept
    apply fitsI64_of_lt
    refine Nat.lt_of_lt_of_le (numeral_lt kept) (Nat.pow_le_pow_right (by decide) ?_)
    rw [List.length_take]
    omega

/-- The largest number there is, with zeros around it. -/
theorem scale_exact_largest :
    ∃ value : Int64, scaleDecimalStringToI64 "00009223372036854.7758079900" 6 = some value ∧
      value.toInt = 9223372036854775807 := by
  have spells : Spells "00009223372036854.7758079900" (bytes "00009223372036854")
      (bytes "7758079900") := by
    decide +kernel
  have value : ⌊pointValue (bytes "00009223372036854") (bytes "7758079900") *
      10 ^ (6 : UInt32).toNat⌋ = 9223372036854775807 := by
    rw [floor_pointValue]
    decide +kernel
  have fits : FitsI64 ⌊pointValue (bytes "00009223372036854") (bytes "7758079900") *
      10 ^ (6 : UInt32).toNat⌋ := by
    rw [value]
    decide
  rw [← value]
  exact (scale_exact spells (by decide) fits).1

/-- The digits that `fractionDigits` counts, in a text of any length. -/
theorem fractionDigits_eq (spells : Spells text whole fraction) :
    (fractionDigits text).toNat = (significant fraction).length % 4294967296 := by
  obtain ⟨_, rest⟩ := spells.parts
  unfold fractionDigits
  dsimp only
  split
  · rw [rest]
    rfl
  · rename_i pointless
    have nothing : fraction = [] := by
      rcases spells.2.2 with ⟨_, none⟩ | pointed
      · exact none
      · rw [pointed] at pointless
        exact (pointless (List.mem_append_right _ List.mem_cons_self)).elim
    rw [nothing]
    rfl

/-- A text shorter than 2^32 bytes has its digits counted whole. -/
theorem fractionDigits_of_short (spells : Spells text whole fraction)
    (short : (bytes text).length < 4294967296) :
    (fractionDigits text).toNat = (significant fraction).length := by
  rw [fractionDigits_eq spells, Nat.mod_eq_of_lt]
  have part : (significant fraction).length ≤ fraction.length :=
    (List.rdropWhile_prefix _ _).length_le
  rcases spells.2.2 with ⟨_, rfl⟩ | pointed
  · exact Nat.lt_of_le_of_lt part (by decide)
  · rw [pointed, List.length_append, List.length_cons] at short
    omega

/-- **`fractionDigits` counts the decimals that are needed.** The value is a whole number of
units of the last of so many decimals, and of no fewer. -/
theorem fractionDigits_isLeast (spells : Spells text whole fraction)
    (short : (bytes text).length < 4294967296) :
    IsLeast {places : Nat | ∃ units : Int, pointValue whole fraction * 10 ^ places = units}
      (fractionDigits text).toNat := by
  rw [fractionDigits_of_short spells short]
  exact significant_isLeast spells.2.1

end Spells

end DataFeed.Core
