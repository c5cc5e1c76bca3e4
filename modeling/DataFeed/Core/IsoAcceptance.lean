import DataFeed.Core.IsoParsing

/-! # Which texts pass for times

The parser rejects exactly the texts without numbers in its windows
(`parseIso8601_rejected_iff`). Numbers may have a minus sign there, fields may have any value,
and nothing looks at what follows them, so among the texts that pass are some that spell no
time; and those whose seconds are too many overflow (`acceptsOnlyTimes_iff`).
-/

namespace DataFeed.Core

open Foundation

/-- A window of digits, or of a minus sign and digits. -/
def IsNumber (window : List UInt8) : Prop :=
  ∃ (negative : Bool) (digits : List UInt8),
    window = (if negative then [45] else []) ++ digits ∧ digits ≠ [] ∧ AllDigits digits

/-- There is a number in each window. -/
def IsoWindows.Numbers (windows : IsoWindows) : Prop :=
  IsNumber windows.year.val ∧ IsNumber windows.month.val ∧ IsNumber windows.day.val ∧
    IsNumber windows.hour.val ∧ IsNumber windows.minute.val ∧ IsNumber windows.second.val

/-- A text with its marks at their places and numbers before and between them. -/
def Passes (text : String) : Prop :=
  ∃ windows : IsoWindows, windows.join = bytes text ∧ windows.Numbers

/-- The text spells a time, with digits after a point if there is one, whose nanoseconds fit
64 bits. -/
def Names (text : String) (time : IsoTime) : Prop :=
  bytes text = time.spell ∧ (∀ digits, time.fraction = some digits → digits.val ≠ []) ∧
    time.Valid ∧ FitsI64 time.instant

/-- What is parsed names a time, everything else is rejected, and nothing overflows. -/
def AcceptsOnlyTimes (sysDays : SysDays) (text : String) : Prop :=
  (∀ nanos, parseIso8601 sysDays text = .parsed nanos → ∃ time, Names text time) ∧
    ((¬ ∃ time, Names text time) → parseIso8601 sysDays text = .rejected) ∧
    parseIso8601 sysDays text ≠ .overflowed

section Windows

theorem isNumber_of_read {window : List UInt8} {value : Int}
    (read : fromCharsI64 window = .number value []) : IsNumber window := by
  unfold fromCharsI64 fromChars at read
  extract_lets signed unsigned leading rest parsed at read
  have sign : window = (if signed then [45] else []) ++ unsigned := by
    cases signed_is : signed with
    | false => simp only [unsigned, signed_is, Bool.false_eq_true, ↓reduceIte, List.nil_append]
    | true =>
        have minus : window.head? = some 45 := of_decide_eq_true signed_is
        simp only [unsigned, signed_is, ↓reduceIte, List.singleton_append]
        exact (List.cons_head?_tail minus).symm
  split at read
  · cases read
  rename_i present
  split at read
  · have nothing : rest = [] := (FromChars.number.inj read).2
    have digits : unsigned = leading := by
      have parts := DecimalText.leadingDigits_append_drop unsigned
      rw [show unsigned.drop (leadingDigits unsigned).length = [] from nothing,
        List.append_nil] at parts
      exact parts.symm
    rw [digits] at sign
    exact ⟨signed, leading, sign, present, allDigits_leadingDigits _⟩
  · cases read

theorem readWindow_isSome_iff {window : List UInt8} (short : window.length ≤ 18) :
    (readWindow window).isSome = true ↔ IsNumber window := by
  constructor
  · intro read
    unfold readWindow at read
    split at read
    · rename_i value number
      exact isNumber_of_read number
    · cases read
  · rintro ⟨negative, digits, rfl, present, all⟩
    have few : digits.length ≤ 18 := by
      rw [List.length_append] at short
      exact Nat.le_trans (Nat.le_add_left _ _) short
    have small : numeral digits < 10 ^ 18 :=
      Nat.lt_of_lt_of_le (numeral_lt all) (Nat.pow_le_pow_right (by decide) few)
    have fits : FitsI64 (signOf negative * numeral digits) := by
      unfold signOf
      split <;> constructor <;> omega
    unfold readWindow
    rw [fromCharsI64_eq all negative, if_neg present, if_pos fits]
    rfl

theorem isSome_bind_iff {read : Option Int} {rest : Int → Option IsoFields} {others : Prop}
    (later : ∀ value, (rest value).isSome = true ↔ others) :
    (read >>= rest).isSome = true ↔ read.isSome = true ∧ others := by
  cases read with
  | none => exact iff_of_false Bool.false_ne_true fun both => Bool.false_ne_true both.1
  | some value => exact (later value).trans (and_iff_right rfl).symm

theorem fields_isSome_iff (windows : IsoWindows) :
    windows.fields.isSome = true ↔ windows.Numbers := by
  have window : ∀ {count : Nat} (window : Window count), count ≤ 18 →
      ((readWindow window.val).isSome = true ↔ IsNumber window.val) := by
    intro count window short
    exact readWindow_isSome_iff (window.property.symm ▸ short)
  unfold IsoWindows.Numbers
  rw [← window windows.year (by decide), ← window windows.month (by decide),
    ← window windows.day (by decide), ← window windows.hour (by decide),
    ← window windows.minute (by decide), ← window windows.second (by decide)]
  refine isSome_bind_iff fun _ => isSome_bind_iff fun _ => isSome_bind_iff fun _ =>
    isSome_bind_iff fun _ => isSome_bind_iff fun _ => ?_
  cases readWindow windows.second.val <;> exact Iff.rfl

/-- **Only texts that do not pass are rejected.** -/
theorem parseIso8601_rejected_iff (sysDays : SysDays) (text : String) :
    parseIso8601 sysDays text = .rejected ↔ ¬ Passes text := by
  have fields : Passes text ↔ (isoFields (bytes text)).isSome = true := by
    constructor
    · rintro ⟨windows, joined, numbers⟩
      rw [← joined, isoFields_join]
      exact (fields_isSome_iff windows).mpr numbers
    · intro read
      obtain ⟨fields, read⟩ := Option.isSome_iff_exists.mp read
      obtain ⟨windows, joined⟩ := exists_windows read
      refine ⟨windows, joined, (fields_isSome_iff windows).mp ?_⟩
      rw [← isoFields_join, joined, read]
      rfl
  rw [fields]
  unfold parseIso8601
  cases isoFields (bytes text) with
  | none => exact iff_of_true rfl Bool.false_ne_true
  | some fields =>
      refine iff_of_false ?_ (fun missing => missing rfl)
      dsimp only
      split <;> exact IsoOutcome.noConfusion

end Windows

/-- **What passes and what does not.** A text is parsed as it should if it names a time whose
seconds fit 64 bits in nanoseconds, or if it does not pass; no other text is. -/
theorem acceptsOnlyTimes_iff (sysDays : SysDays) (text : String) :
    AcceptsOnlyTimes sysDays text ↔
      (∃ time, Names text time ∧ FitsI64 (time.seconds * 1000000000)) ∨ ¬ Passes text := by
  constructor
  · rintro ⟨only, _, fits⟩
    rw [← parseIso8601_rejected_iff sysDays, or_iff_not_imp_right]
    intro accepted
    cases outcome : parseIso8601 sysDays text with
    | rejected => exact absurd outcome accepted
    | overflowed => exact absurd outcome fits
    | parsed nanos =>
        obtain ⟨time, spelled, point, valid, instant⟩ := only nanos outcome
        refine ⟨time, ⟨spelled, point, valid, instant⟩, ?_⟩
        rw [IsoTime.parseIso8601_spell sysDays valid spelled] at outcome
        by_contra large
        rw [show checked (time.seconds * 1000000000) = none from if_neg large] at outcome
        cases outcome
  · rintro (⟨time, named, seconds⟩ | fails)
    · obtain ⟨spelled, point, valid, instant⟩ := named
      have parsed : parseIso8601 sysDays text = .parsed (Int64.ofInt time.instant) := by
        rw [IsoTime.parseIso8601_spell sysDays valid spelled, checked_of_fits seconds,
          checked_of_fits instant]
      have named : ∃ time, Names text time := ⟨time, spelled, point, valid, instant⟩
      refine ⟨fun _ _ => named, fun unnamed => absurd named unnamed, ?_⟩
      rw [parsed]
      exact IsoOutcome.noConfusion
    · have rejected := (parseIso8601_rejected_iff sysDays text).mpr fails
      refine ⟨?_, fun _ => rejected, ?_⟩
      · intro nanos parsed
        rw [rejected] at parsed
        cases parsed
      · rw [rejected]
        exact IsoOutcome.noConfusion

/-- A time with an offset from UTC is taken for one in UTC. -/
theorem parseIso8601_offset : ¬ AcceptsOnlyTimes .civil "2026-09-27T11:29:39+02:00" := by
  rintro ⟨only, _⟩
  have parsed : parseIso8601 .civil "2026-09-27T11:29:39+02:00" =
      .parsed 1790508579000000000 := by
    decide +kernel
  obtain ⟨time, spelled, _⟩ := only _ parsed
  have offset : (bytes "2026-09-27T11:29:39+02:00")[19]? = some 43 := by decide +kernel
  rw [spelled, ← time.join_windows, join_getElem?] at offset
  obtain ⟨year, month, day, hour, minute, second, fraction, zulu⟩ := time
  cases fraction <;> cases zulu <;> cases offset

end DataFeed.Core
