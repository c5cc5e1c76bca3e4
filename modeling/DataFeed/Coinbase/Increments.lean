import DataFeed.Coinbase.L2Decoder
import DataFeed.Core.PlainDecimal

/-! # The precision that a product's increments give

A product's prices and quantities are multiples of its increments, so they need no more
decimals than these, and the decoder reads them exactly (`requireScaled_of_multiple`). What
it accepts it never cuts short (`requireScaled_keeps`).
-/

namespace DataFeed.Coinbase

open Foundation DataFeed.Core

variable {scale : String → UInt32 → Int64} {level : Json} {name text increment : String}
  {whole fraction step_whole step_fraction : List UInt8} {decimals : UInt32} {value : Int64}

/-- A multiple of an increment is a whole number of units of its last decimal. -/
theorem units_of_multiple (spells : Spells increment step_whole step_fraction)
    (short : (bytes increment).length < 4294967296)
    (multiple : ∃ count : Int,
      pointValue whole fraction = count * pointValue step_whole step_fraction) :
    ∃ units : Int,
      pointValue whole fraction * 10 ^ (fractionDigits increment).toNat = units := by
  obtain ⟨count, same⟩ := multiple
  obtain ⟨step, exact⟩ := (fractionDigits_isLeast spells short).1
  refine ⟨count * step, ?_⟩
  rw [same, mul_assoc, exact, Int.cast_mul]

/-- A text with no more digits that matter than the decimals is read. -/
theorem requireScaled_of_fits (scales : Scales scale) (given : level.requireString name = .ok text)
    (spells : Spells text whole fraction) (precise : decimals.toNat ≤ 18)
    (needed : (significant fraction).length ≤ decimals.toNat)
    (fits : FitsI64 ⌊pointValue whole fraction * 10 ^ decimals.toNat⌋) :
    ∃ value, requireScaled scale level name decimals = .ok value ∧
      value.toInt = ⌊pointValue whole fraction * 10 ^ decimals.toNat⌋ := by
  have coarse : ¬ fractionDigits text > decimals := by
    rw [gt_iff_lt, UInt32.lt_iff_toNat_lt, fractionDigits_eq spells, Nat.mod_eq_of_lt (by omega)]
    exact Nat.not_lt.mpr needed
  obtain ⟨⟨value, scaled, exact⟩, _⟩ := scale_exact spells precise fits
  refine ⟨value, ?_, exact⟩
  rw [requireScaled, given, Except.bind, if_neg spells.head?_ne_minus, if_neg coarse,
    scales _ _ _ scaled]

/-- A multiple of an increment is read exactly at the increment's precision. -/
theorem requireScaled_of_multiple (scales : Scales scale)
    (steps : Spells increment step_whole step_fraction)
    (short : (bytes increment).length < 4294967296)
    (precise : (fractionDigits increment).toNat ≤ 18)
    (given : level.requireString name = .ok text) (spells : Spells text whole fraction)
    (multiple : ∃ count : Int,
      pointValue whole fraction = count * pointValue step_whole step_fraction)
    (fits : FitsI64 ⌊pointValue whole fraction * 10 ^ (fractionDigits increment).toNat⌋) :
    ∃ value, requireScaled scale level name (fractionDigits increment) = .ok value ∧
      (value.toInt : ℚ) = pointValue whole fraction * 10 ^ (fractionDigits increment).toNat := by
  have whole_units := units_of_multiple steps short multiple
  have needed := (@significant_isLeast whole fraction spells.2.1).2 whole_units
  obtain ⟨value, accepted, same⟩ :=
    requireScaled_of_fits scales given spells precise needed fits
  obtain ⟨units, exact⟩ := whole_units
  refine ⟨value, accepted, ?_⟩
  rw [same, exact, Int.floor_intCast]

/-- What is accepted has nothing but zeros beyond the decimals. -/
theorem requireScaled_keeps (given : level.requireString name = .ok text)
    (spells : Spells text whole fraction) (short : (bytes text).length < 4294967296)
    (accepted : requireScaled scale level name decimals = .ok value) :
    ∀ byte ∈ fraction.drop decimals.toNat, byte = 48 := by
  rw [requireScaled, given, Except.bind, if_neg spells.head?_ne_minus] at accepted
  split at accepted
  · contradiction
  · rename_i coarse
    rw [gt_iff_lt, UInt32.lt_iff_toNat_lt, fractionDigits_of_short spells short] at coarse
    obtain ⟨count, same⟩ := significant_append_zeros fraction
    intro byte member
    rw [same, List.drop_append, List.drop_eq_nil_of_le (Nat.not_lt.mp coarse),
      List.nil_append] at member
    exact List.eq_of_mem_replicate (List.mem_of_mem_drop member)

/-- **The precision of an increment is exact.** `fractionDigits` is the least number of
decimals at which a text's value is whole; so a product's levels, which are multiples of its
increment, are accepted and scaled exactly, with any number of zeros at their end; and the
decoder never cuts off a digit other than zero of what it accepts. -/
theorem increments_exact (scales : Scales scale) :
    (∀ text whole fraction, Spells text whole fraction → (bytes text).length < 4294967296 →
      whole ++ fraction ≠ [] →
        IsLeast {places : Nat | ∃ units : Int, pointValue whole fraction * 10 ^ places = units}
          (fractionDigits text).toNat) ∧
      (∀ increment step_whole step_fraction, Spells increment step_whole step_fraction →
        (bytes increment).length < 4294967296 → 0 < pointValue step_whole step_fraction →
        (fractionDigits increment).toNat ≤ 18 →
          ∀ level name text whole fraction, Json.requireString level name = .ok text →
            Spells text whole fraction →
            (∃ count : Int,
              pointValue whole fraction = count * pointValue step_whole step_fraction) →
            FitsI64 ⌊pointValue whole fraction * 10 ^ (fractionDigits increment).toNat⌋ →
              ∃ value, requireScaled scale level name (fractionDigits increment) = .ok value ∧
                (value.toInt : ℚ) =
                  pointValue whole fraction * 10 ^ (fractionDigits increment).toNat) ∧
      ∀ level name text whole fraction decimals value,
        Json.requireString level name = .ok text → Spells text whole fraction →
        (bytes text).length < 4294967296 →
        requireScaled scale level name decimals = .ok value →
          ∀ byte ∈ fraction.drop decimals.toNat, byte = 48 := by
  refine ⟨?_, ?_, ?_⟩
  · intro text whole fraction spells short _
    exact fractionDigits_isLeast spells short
  · intro increment step_whole step_fraction steps short _ precise level name text whole fraction
      given spells multiple fits
    exact requireScaled_of_multiple scales steps short precise given spells multiple fits
  · intro level name text whole fraction decimals value given spells short accepted
    exact requireScaled_keeps given spells short accepted

/-- A price at a step of a cent, with zeros at the end of both. -/
theorem increments_exact_cent :
    let scale : String → UInt32 → Int64 := fun text decimals =>
      (scaleDecimalStringToI64 text decimals).getD 0
    ∃ value, requireScaled scale (.object [("price_level", .string "123.4500")]) "price_level"
        (fractionDigits "0.01000") = .ok value ∧ value.toInt = 12345 := by
  intro scale
  have scales : Scales scale := fun text decimals value same => by
    simp only [scale, same, Option.getD_some]
  have steps : Spells "0.01000" (bytes "0") (bytes "01000") := by
    decide +kernel
  have spells : Spells "123.4500" (bytes "123") (bytes "4500") := by
    decide +kernel
  have digits : (fractionDigits "0.01000").toNat = 2 := by decide +kernel
  have step : pointValue (bytes "0") (bytes "01000") = 1 / 100 := by
    have units : numeral (bytes "0" ++ bytes "01000") = 1000 := by decide +kernel
    have length : (bytes "01000").length = 5 := by decide +kernel
    rw [pointValue, units, length]
    norm_num
  have price : pointValue (bytes "123") (bytes "4500") = 12345 / 100 := by
    have units : numeral (bytes "123" ++ bytes "4500") = 1234500 := by decide +kernel
    have length : (bytes "4500").length = 4 := by decide +kernel
    rw [pointValue, units, length]
    norm_num
  have scaled : pointValue (bytes "123") (bytes "4500") *
      10 ^ (fractionDigits "0.01000").toNat = (12345 : Int) := by
    rw [price, digits]
    norm_num
  have multiple : ∃ count : Int, pointValue (bytes "123") (bytes "4500") =
      count * pointValue (bytes "0") (bytes "01000") := ⟨12345, by rw [price, step]; norm_num⟩
  have fits : FitsI64 ⌊pointValue (bytes "123") (bytes "4500") *
      10 ^ (fractionDigits "0.01000").toNat⌋ := by
    rw [scaled, Int.floor_intCast]
    decide
  have positive : 0 < pointValue (bytes "0") (bytes "01000") := by
    rw [step]
    norm_num
  have short : (bytes "0.01000").length < 4294967296 := by decide +kernel
  obtain ⟨value, accepted, same⟩ := (increments_exact scales).2.1 _ _ _ steps short positive
    (digits ▸ by decide) (.object [("price_level", .string "123.4500")]) "price_level" _ _ _ rfl
    spells multiple fits
  rw [scaled] at same
  exact ⟨value, accepted, by exact_mod_cast same⟩

end DataFeed.Coinbase
