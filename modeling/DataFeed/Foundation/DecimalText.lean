import Mathlib.Data.List.DropRight
import Mathlib.Data.Rat.Floor
import Mathlib.Tactic.FieldSimp
import DataFeed.Foundation.Digits

/-! # Numbers written in decimal

What a text with a sign, a point and an exponent stands for, and the whole number it
makes at a given number of decimals, the rest of it dropped.
-/

namespace Foundation

/-- A number as it is written. -/
structure DecimalText where
  negative : Bool
  whole : List UInt8
  fraction : List UInt8
  exponent : Option Int
  deriving DecidableEq, Repr

/-- A rational number without its fraction. -/
def truncate (value : ℚ) : Int := if 0 ≤ value then ⌊value⌋ else -⌊-value⌋

namespace DecimalText

/-- The digits of a number count this many units of its last place. -/
def units (number : DecimalText) : Nat := numeral (number.whole ++ number.fraction)

/-- The number that is written. -/
def value (number : DecimalText) : ℚ :=
  (if number.negative then -1 else 1) * number.units *
    10 ^ (number.exponent.getD 0 - number.fraction.length)

/-- The number in units of the last of so many decimals, the rest dropped. -/
def scaled (number : DecimalText) (decimals : Nat) : Int :=
  truncate (number.value * 10 ^ decimals)

/-- The power of ten that follows the mark of an exponent. -/
def readExponent (text : List UInt8) : Option Int :=
  let negative := text.head? = some 45
  let digits := if negative ∨ text.head? = some 43 then text.tail else text
  if digits = [] ∨ ¬ AllDigits digits then none
  else some (if negative then -numeral digits else numeral digits)

/-- Reads a whole text as a number, if it is one. -/
def read (text : List UInt8) : Option DecimalText :=
  let negative := text.head? = some 45
  let body := if negative then text.tail else text
  let whole := leadingDigits body
  let after := body.drop whole.length
  let pointed := after.head? = some 46
  let fraction := if pointed then leadingDigits after.tail else []
  let rest := if pointed then after.tail.drop fraction.length else after
  if whole = [] ∧ fraction = [] then none
  else
    match rest with
    | [] => some ⟨negative, whole, fraction, none⟩
    | mark :: power =>
        if mark = 101 ∨ mark = 69 then
          (readExponent power).map fun exponent => ⟨negative, whole, fraction, some exponent⟩
        else none

end DecimalText

theorem truncate_neg (value : ℚ) : truncate (-value) = -truncate value := by
  unfold truncate
  rcases lt_trichotomy value 0 with below | rfl | above
  · rw [if_pos (neg_nonneg.mpr below.le), if_neg (not_le.mpr below), neg_neg]
  · simp only [neg_zero, le_refl, ↓reduceIte, Int.floor_zero]
  · rw [if_neg (not_le.mpr (neg_lt_zero.mpr above)), if_pos above.le, neg_neg]

theorem truncate_div (amount unit : Nat) : truncate ((amount : ℚ) / unit) = (amount / unit : Nat) := by
  unfold truncate
  rw [if_pos (by positivity), Rat.floor_natCast_div_natCast]
  rfl

/-- What the digits before the point make in units of the last decimal. -/
def wholeUnits (whole : List UInt8) (decimals : Nat) : Nat := numeral whole * 10 ^ decimals

/-- What the digits after the point make, cut to the decimals or filled up to them. -/
def fractionUnits (fraction : List UInt8) (decimals : Nat) : Nat :=
  numeral (fraction.take decimals) * 10 ^ (decimals - min fraction.length decimals)

section Units

variable {fraction : List UInt8}

theorem fractionUnits_lt (digits : AllDigits fraction) (decimals : Nat) :
    fractionUnits fraction decimals < 10 ^ decimals := by
  have positive : 0 < 10 ^ (decimals - min fraction.length decimals) := by positivity
  have bound := Nat.mul_lt_mul_of_pos_right
    (numeral_lt (digits.of_sublist (List.take_sublist decimals fraction))) positive
  rwa [List.length_take, Nat.min_comm decimals, ← Nat.pow_add,
    Nat.add_sub_cancel' (Nat.min_le_right _ _)] at bound

theorem fractionUnits_eq_zero_iff (digits : AllDigits fraction) {decimals : Nat} :
    fractionUnits fraction decimals = 0 ↔ ∀ byte ∈ fraction.take decimals, byte = 48 := by
  rw [← numeral_eq_zero_iff (digits.of_sublist (List.take_sublist decimals fraction)),
    fractionUnits, Nat.mul_eq_zero]
  exact or_iff_left (by positivity)

/-- The digits of a number cut to so many decimals, or filled up to them. -/
theorem numeral_cut (digits : AllDigits fraction) (whole : List UInt8) (decimals : Nat) :
    numeral (whole ++ fraction) * 10 ^ decimals / 10 ^ fraction.length =
      wholeUnits whole decimals + fractionUnits fraction decimals := by
  unfold wholeUnits fractionUnits
  rw [numeral_append]
  rcases Nat.le_total fraction.length decimals with short | long
  · obtain ⟨more, rfl⟩ := Nat.exists_eq_add_of_le short
    rw [List.take_of_length_le short, Nat.min_eq_left short, Nat.add_sub_cancel_left, Nat.pow_add]
    apply Nat.div_eq_of_eq_mul_left (Nat.pow_pos (by decide))
    ring
  · obtain ⟨more, same⟩ := Nat.exists_eq_add_of_le long
    have split : numeral fraction =
        numeral (fraction.take decimals) * 10 ^ more + numeral (fraction.drop decimals) := by
      conv_lhs => rw [← List.take_append_drop decimals fraction]
      rw [numeral_append, List.length_drop, same, Nat.add_sub_cancel_left]
    have dropped : numeral (fraction.drop decimals) < 10 ^ more := by
      have bound := numeral_lt (digits.of_sublist (List.drop_sublist decimals fraction))
      rwa [List.length_drop, same, Nat.add_sub_cancel_left] at bound
    rw [Nat.min_eq_right long, Nat.sub_self, Nat.pow_zero, Nat.mul_one, same, Nat.pow_add,
      Nat.mul_comm (10 ^ decimals) (10 ^ more), Nat.mul_div_mul_right _ _ (Nat.pow_pos (by decide)),
      split]
    apply Nat.div_eq_of_lt_le
    · nlinarith
    · nlinarith

end Units

/-- What digits stand for, some of them after a point. -/
def pointValue (whole fraction : List UInt8) : ℚ :=
  numeral (whole ++ fraction) / 10 ^ fraction.length

/-- The digits after a point, without the zeros at their end. -/
def significant (fraction : List UInt8) : List UInt8 := fraction.rdropWhile (· = 48)

section PointValue

variable {whole fraction : List UInt8}

theorem significant_append_zeros (fraction : List UInt8) :
    ∃ count, fraction = significant fraction ++ List.replicate count 48 := by
  induction fraction using List.reverseRecOn with
  | nil => exact ⟨0, rfl⟩
  | append_singleton digits byte ih =>
      unfold significant
      by_cases zero : byte = 48
      · obtain ⟨count, same⟩ := ih
        rw [List.rdropWhile_concat, if_pos (decide_eq_true zero)]
        refine ⟨count + 1, ?_⟩
        rw [List.replicate_succ', ← List.append_assoc, zero]
        exact congrArg (· ++ [48]) same
      · rw [List.rdropWhile_concat, if_neg (by rwa [decide_eq_true_eq])]
        exact ⟨0, (List.append_nil _).symm⟩

/-- Zeros at the end of a fraction do not count. -/
theorem pointValue_significant (whole fraction : List UInt8) :
    pointValue whole (significant fraction) = pointValue whole fraction := by
  obtain ⟨count, same⟩ := significant_append_zeros fraction
  conv_rhs => rw [same]
  unfold pointValue
  rw [← List.append_assoc, numeral_append (whole ++ significant fraction),
    numeral_replicate_zero, Nat.add_zero, List.length_append, List.length_replicate, pow_add]
  push_cast
  rw [mul_div_mul_right _ _ (by positivity)]

/-- A value in units of its last decimal. -/
theorem pointValue_mul (whole fraction : List UInt8) :
    pointValue whole fraction * 10 ^ fraction.length = numeral (whole ++ fraction) := by
  unfold pointValue
  exact div_mul_cancel₀ _ (by positivity)

/-- A value in units of some decimals, the rest dropped. -/
theorem floor_pointValue (whole fraction : List UInt8) (decimals : Nat) :
    ⌊pointValue whole fraction * 10 ^ decimals⌋ =
      (numeral (whole ++ fraction) * 10 ^ decimals / 10 ^ fraction.length : Nat) := by
  have amount : pointValue whole fraction * 10 ^ decimals =
      ((numeral (whole ++ fraction) * 10 ^ decimals : Nat) : ℚ) / (10 ^ fraction.length : Nat) := by
    unfold pointValue
    push_cast
    ring
  rw [amount, Rat.floor_natCast_div_natCast]
  rfl

/-- **A fraction needs its digits up to the last that is not zero.** With fewer decimals the
value is no whole number of units. -/
theorem significant_isLeast (digits : AllDigits fraction) :
    IsLeast {places : Nat | ∃ units : Int, pointValue whole fraction * 10 ^ places = units}
      (significant fraction).length := by
  rw [← pointValue_significant]
  refine ⟨⟨numeral (whole ++ significant fraction), ?_⟩, ?_⟩
  · rw [pointValue_mul, Int.cast_natCast]
  · intro places exact
    obtain ⟨units, exact⟩ := exact
    by_contra fewer
    have more : places < (significant fraction).length := Nat.not_le.mp fewer
    have present : significant fraction ≠ [] := List.ne_nil_of_length_pos (Nat.zero_lt_of_lt more)
    obtain ⟨missing, length⟩ := Nat.exists_eq_add_of_lt more
    have last : ¬ (significant fraction).getLast present = 48 := by
      have kept := List.rdropWhile_last_not (· = (48 : UInt8)) fraction present
      rwa [decide_eq_true_eq] at kept
    have digit : isDigit ((significant fraction).getLast present) = true :=
      digits.of_sublist (List.rdropWhile_prefix _ _).sublist _ (List.getLast_mem present)
    have nonzero := (not_congr (digitValue_eq_zero_iff digit)).mpr last
    have small := digitValue_lt digit
    have tens : (numeral (whole ++ significant fraction) : Int) = units * 10 ^ (missing + 1) := by
      have scaled := congrArg (· * (10 : ℚ) ^ (missing + 1)) exact
      rw [mul_assoc, ← pow_add, ← Nat.add_assoc, ← length, pointValue_mul] at scaled
      exact_mod_cast scaled
    rw [← List.dropLast_append_getLast present, ← List.append_assoc, numeral_concat,
      pow_succ, ← mul_assoc] at tens
    push_cast at tens
    generalize units * 10 ^ missing = multiple at tens
    omega

end PointValue

namespace DecimalText

variable {number : DecimalText}

/-- A number without an exponent has its digits cut to the decimals. -/
theorem scaled_of_plain (plain : number.exponent = none) (digits : AllDigits number.fraction)
    (decimals : Nat) :
    number.scaled decimals =
      (if number.negative then -1 else 1) *
        (wholeUnits number.whole decimals + fractionUnits number.fraction decimals : Nat) := by
  have amount : (number.units : ℚ) * 10 ^ (number.exponent.getD 0 - number.fraction.length) *
      10 ^ decimals =
        ((number.units * 10 ^ decimals : Nat) : ℚ) / (10 ^ number.fraction.length : Nat) := by
    rw [plain, Option.getD_none, zero_sub, zpow_neg, zpow_natCast]
    push_cast
    ring
  rw [← numeral_cut digits, ← units]
  unfold scaled value
  cases number.negative with
  | false =>
      simp only [Bool.false_eq_true, ↓reduceIte, one_mul]
      rw [amount, truncate_div]
  | true =>
      simp only [↓reduceIte, neg_mul, one_mul]
      rw [amount, truncate_neg, truncate_div]

/-- The sign of a number, as it is written. -/
def sign (number : DecimalText) : List UInt8 := if number.negative then [45] else []

theorem leadingDigits_append_drop (text : List UInt8) :
    leadingDigits text ++ text.drop (leadingDigits text).length = text :=
  (List.prefix_iff_eq_append.mp (List.takeWhile_prefix isDigit))

/-- How a number without an exponent is written. -/
theorem text_of_read {text : List UInt8} (reads : read text = some number)
    (plain : number.exponent = none) :
    AllDigits number.whole ∧ AllDigits number.fraction ∧ number.whole ++ number.fraction ≠ [] ∧
      ∃ point, text = number.sign ++ number.whole ++ point ∧
        (point = [] ∧ number.fraction = [] ∨ point = 46 :: number.fraction) := by
  unfold read at reads
  extract_lets negative body whole after pointed fraction rest at reads
  have signed : text = (if negative then [45] else []) ++ body := by
    by_cases minus : negative
    · simp only [body, minus, ↓reduceIte]
      exact (List.cons_head?_tail minus).symm
    · simp only [body, minus, ↓reduceIte, List.nil_append]
  have broken : whole ++ after = body := leadingDigits_append_drop body
  have digits : AllDigits fraction := by
    by_cases point : pointed
    · simp only [fraction, point, ↓reduceIte]
      exact allDigits_leadingDigits _
    · simp only [fraction, point, ↓reduceIte]
      exact AllDigits.nil
  have pointing : after = if pointed then 46 :: (fraction ++ rest) else rest := by
    by_cases point : pointed
    · simp only [fraction, rest, point, ↓reduceIte, leadingDigits_append_drop]
      exact (List.cons_head?_tail point).symm
    · simp only [rest, point, ↓reduceIte]
  have unpointed : ¬ pointed → fraction = [] := fun point => if_neg point
  split at reads
  · contradiction
  rename_i some_digit
  clear_value rest
  cases rest with
  | nil =>
    obtain rfl := Option.some.inj reads
    refine ⟨allDigits_leadingDigits _, digits, ?_, after, ?_, ?_⟩
    · rwa [ne_eq, List.append_eq_nil_iff]
    · simp only [sign, decide_eq_true_eq]
      rw [List.append_assoc, broken]
      exact signed
    · rw [List.append_nil] at pointing
      by_cases point : pointed
      · exact Or.inr (by rw [pointing, if_pos point])
      · exact Or.inl ⟨by rw [pointing, if_neg point], unpointed point⟩
  | cons mark power =>
    dsimp only at reads
    split at reads
    · obtain ⟨exponent, _, rfl⟩ := Option.map_eq_some_iff.mp reads
      contradiction
    · contradiction

end DecimalText

end Foundation
