import DataFeed.Core.IsoTime

/-! # What becomes of the texts of times

Texts of times are parsed to their instants, cut to nanoseconds, so that later times become
larger numbers (`parseIso8601_exact`).
-/

namespace DataFeed.Core

open Foundation

/-- What passes the check is what it was. -/
theorem eq_of_checked {value result : Int} (passed : checked value = some result) :
    result = value := by
  unfold checked at passed
  split at passed
  · exact (Option.some.inj passed).symm
  · cases passed

/-- The checked loop over a fraction adds what the loop does. -/
theorem fractionNanos_of_checked {nanos sum : Int} {worth : Nat} {text : List UInt8}
    (added : checkedFraction nanos worth text = some sum) :
    sum = nanos + fractionNanos worth text := by
  induction text generalizing nanos worth with
  | nil =>
      rw [fractionNanos, Int.add_zero]
      exact (Option.some.inj added).symm
  | cons byte rest ih =>
      rw [checkedFraction] at added
      rw [fractionNanos]
      split at added
      · rename_i digit
        obtain ⟨first, first_is, added⟩ := Option.bind_eq_some_iff.mp added
        obtain ⟨second, second_is, added⟩ := Option.bind_eq_some_iff.mp added
        rw [if_pos digit, ih added, eq_of_checked second_is, eq_of_checked first_is, Int.add_assoc]
      · rename_i other
        rw [if_neg other, Int.add_zero]
        exact (Option.some.inj added).symm

/-- The checked arithmetic computes what the arithmetic does. -/
theorem checkedNanos_value {fields : IsoFields} {fraction nanos : Int}
    (computed : checkedNanos .civil fields fraction = some nanos) :
    nanos = (daysFromCivil fields.year (calendarField fields.month) (calendarField fields.day) *
      86400 + fields.hour * 3600 + fields.minute * 60 + fields.second) * 1000000000 +
        fraction := by
  obtain ⟨days, days_is, computed⟩ := Option.bind_eq_some_iff.mp computed
  obtain ⟨hours, hours_is, computed⟩ := Option.bind_eq_some_iff.mp computed
  obtain ⟨toHour, toHour_is, computed⟩ := Option.bind_eq_some_iff.mp computed
  obtain ⟨minutes, minutes_is, computed⟩ := Option.bind_eq_some_iff.mp computed
  obtain ⟨toMinute, toMinute_is, computed⟩ := Option.bind_eq_some_iff.mp computed
  obtain ⟨seconds, seconds_is, computed⟩ := Option.bind_eq_some_iff.mp computed
  obtain ⟨product, product_is, computed⟩ := Option.bind_eq_some_iff.mp computed
  rw [eq_of_checked computed, eq_of_checked product_is, eq_of_checked seconds_is,
    eq_of_checked toMinute_is, eq_of_checked minutes_is, eq_of_checked toHour_is,
    eq_of_checked hours_is, eq_of_checked days_is]
  rfl

/-- The fraction that the parser adds. -/
theorem fraction_of_checked {text : List UInt8} {fraction : Int}
    (added : (if text[19]? = some 46 then checkedFraction 0 100000000 (text.drop 20)
      else some 0) = some fraction) :
    (if text[19]? = some 46 then fractionNanos 100000000 (text.drop 20) else 0) = fraction := by
  split at added
  · rename_i point
    rw [if_pos point, fractionNanos_of_checked added, Int.zero_add]
  · rename_i none
    rw [if_neg none]
    exact Option.some.inj added

/-- **The checks do not change the result.** -/
theorem parseIso8601ToUnixNanos_of_parsed {text : String} {nanos : Int64}
    (parsed : parseIso8601 .civil text = .parsed nanos) :
    parseIso8601ToUnixNanos text = some nanos := by
  unfold parseIso8601 at parsed
  split at parsed
  · cases parsed
  rename_i fields read
  split at parsed
  · cases parsed
  rename_i result computed
  cases parsed
  obtain ⟨fraction, added, computed⟩ := Option.bind_eq_some_iff.mp computed
  unfold isoFields at read
  unfold parseIso8601ToUnixNanos
  dsimp only
  split at read
  · cases read
  rename_i laidOut
  rw [if_neg laidOut, checkedNanos_value computed, fraction_of_checked added]
  obtain ⟨year, year_is, read⟩ := Option.bind_eq_some_iff.mp read
  obtain ⟨month, month_is, read⟩ := Option.bind_eq_some_iff.mp read
  obtain ⟨day, day_is, read⟩ := Option.bind_eq_some_iff.mp read
  obtain ⟨hour, hour_is, read⟩ := Option.bind_eq_some_iff.mp read
  obtain ⟨minute, minute_is, read⟩ := Option.bind_eq_some_iff.mp read
  obtain ⟨second, second_is, read⟩ := Option.bind_eq_some_iff.mp read
  cases read
  rw [year_is, month_is, day_is, hour_is, minute_is, second_is]
  rfl

namespace IsoTime

variable (time : IsoTime)

/-- The text of a time in windows. -/
def windows : IsoWindows :=
  ⟨⟨time.year.val, time.year.property.1⟩, ⟨time.month.val, time.month.property.1⟩,
    ⟨time.day.val, time.day.property.1⟩, ⟨time.hour.val, time.hour.property.1⟩,
    ⟨time.minute.val, time.minute.property.1⟩, ⟨time.second.val, time.second.property.1⟩, time.tail⟩

/-- The windows of a time are its text. -/
theorem join_windows : time.windows.join = time.spell := rfl

/-- The fields of a time. -/
def fields : IsoFields :=
  ⟨time.year.value, time.month.value, time.day.value, time.hour.value, time.minute.value,
    time.second.value⟩

end IsoTime

/-- Digits in a window are read as their number. -/
theorem readWindow_digits {window : List UInt8} (all : AllDigits window) (present : window ≠ [])
    (short : window.length ≤ 18) : readWindow window = some (numeral window : Int) := by
  have small : numeral window < 10 ^ 18 :=
    Nat.lt_of_lt_of_le (numeral_lt all) (Nat.pow_le_pow_right (by decide) short)
  have read := fromCharsI64_eq all false
  rw [if_neg Bool.false_ne_true, List.nil_append, signOf, if_neg Bool.false_ne_true, Int.one_mul,
    if_neg present, if_pos (fitsI64_of_lt small)] at read
  unfold readWindow
  rw [read]

/-- A field in a window is read as its value. -/
theorem readWindow_field {count : Nat} (field : DigitField count) (positive : 0 < count)
    (short : count ≤ 18) : readWindow field.val = some field.value := by
  apply readWindow_digits field.property.2
  · exact List.ne_nil_of_length_pos (field.property.1.symm ▸ positive)
  · exact field.property.1.symm ▸ short

/-- A field's value has as many digits as the field. -/
theorem DigitField.value_bounds {count : Nat} (field : DigitField count) :
    0 ≤ field.value ∧ field.value < 10 ^ count := by
  have small := numeral_lt field.property.2
  rw [field.property.1] at small
  have cast : (numeral field.val : Int) < 10 ^ count := by exact_mod_cast small
  exact ⟨Int.natCast_nonneg _, cast⟩

/-- The parser reads a time's fields. -/
theorem IsoTime.fields_windows (time : IsoTime) : time.windows.fields = some time.fields := by
  unfold IsoWindows.fields IsoTime.windows IsoTime.fields
  dsimp only
  rw [readWindow_field time.year (by decide) (by decide),
    readWindow_field time.month (by decide) (by decide),
    readWindow_field time.day (by decide) (by decide),
    readWindow_field time.hour (by decide) (by decide),
    readWindow_field time.minute (by decide) (by decide),
    readWindow_field time.second (by decide) (by decide)]
  rfl

/-- What follows the windows. -/
theorem join_drop (windows : IsoWindows) : windows.join.drop 19 = windows.rest := by
  obtain ⟨year, month, day, hour, minute, second, rest⟩ := windows
  obtain ⟨y₁, y₂, y₃, y₄, year_is⟩ := exists_four year
  obtain ⟨m₁, m₂, month_is⟩ := exists_two month
  obtain ⟨d₁, d₂, day_is⟩ := exists_two day
  obtain ⟨h₁, h₂, hour_is⟩ := exists_two hour
  obtain ⟨n₁, n₂, minute_is⟩ := exists_two minute
  obtain ⟨s₁, s₂, second_is⟩ := exists_two second
  unfold IsoWindows.join
  dsimp only
  rw [year_is, month_is, day_is, hour_is, minute_is, second_is]
  rfl

/-- What follows the seconds is the first of the rest. -/
theorem join_getElem? (windows : IsoWindows) : windows.join[19]? = windows.rest.head? := by
  rw [← join_drop, List.head?_drop]

/-- The arithmetic is on the fields and on what follows them. -/
theorem isoArithmetic_join (sysDays : SysDays) (windows : IsoWindows) (fields : IsoFields) :
    isoArithmetic sysDays windows.join fields =
      (if windows.rest.head? = some 46 then checkedFraction 0 100000000 windows.rest.tail
        else some 0).bind (checkedNanos sysDays fields) := by
  have after : windows.join.drop 20 = windows.rest.tail := by
    rw [← join_drop, List.tail_drop]
  unfold isoArithmetic
  rw [join_getElem?, after]

namespace IsoTime

variable {time : IsoTime}

/-- The fraction of a time is read as its nanoseconds. -/
theorem checkedFraction_tail (time : IsoTime) :
    (if time.tail.head? = some 46 then checkedFraction 0 100000000 time.tail.tail else some 0) =
      some (time.nanos : Int) := by
  obtain ⟨year, month, day, hour, minute, second, fraction, zulu⟩ := time
  cases fraction with
  | none => cases zulu <;> rfl
  | some digits =>
      have marked : ∀ byte, (if zulu then [90] else [] : List UInt8).head? = some byte →
          isDigit byte = false := by
        intro byte first
        cases zulu with
        | false => cases first
        | true =>
            cases first
            rfl
      have value : fractionNanos 100000000 (digits.val ++ if zulu then [90] else []) =
          fractionUnits digits.val 9 :=
        fractionNanos_eq digits.property marked 9
      have small := fractionUnits_lt digits.property 9
      refine (if_pos rfl).trans ?_
      change checkedFraction 0 100000000 (digits.val ++ if zulu then [90] else []) = _
      rw [checkedFraction_eq _ _ _ le_rfl (by rw [value]; omega), value, Int.zero_add]
      rfl

/-- The month and the day of a valid date fit the calendar's fields. -/
theorem calendarField_of_valid {year month day : Int} (valid : ValidDate year month day) :
    calendarField month = month ∧ calendarField day = day := by
  obtain ⟨first, last, start, finish⟩ := valid
  have longest := daysInMonth_le year month
  unfold calendarField
  omega

/-- The seconds of a time, and all that they are added up from, are far from the limits. -/
theorem checkedNanos_fields (sysDays : SysDays) (valid : time.Valid) (fraction : Int) :
    checkedNanos sysDays time.fields fraction =
      (checked (time.seconds * 1000000000)).bind fun nanos => checked (nanos + fraction) := by
  obtain ⟨date, hour, minute, second⟩ := valid
  have years := time.year.value_bounds
  have hours := time.hour.value_bounds.1
  have minutes := time.minute.value_bounds.1
  have seconds := time.second.value_bounds.1
  have latest : time.year.value ≤ 9999 := Int.le_of_lt_add_one years.2
  obtain ⟨first, last⟩ := daysFromCivil_bounds date years.1 latest
  have begins : daysFromCivil 0 1 1 = -719528 := rfl
  have ends : daysFromCivil 9999 12 31 = 2932896 := rfl
  rw [begins] at first
  rw [ends] at last
  unfold checkedNanos fields
  dsimp only
  obtain ⟨month_eq, day_eq⟩ := calendarField_of_valid date
  rw [month_eq, day_eq, sysDays.exact _ _ _ date, checked_of_fits (by constructor <;> omega),
    Option.bind_some,
    checked_of_fits (by constructor <;> omega), Option.bind_some,
    checked_of_fits (by constructor <;> omega), Option.bind_some,
    checked_of_fits (by constructor <;> omega), Option.bind_some,
    checked_of_fits (by constructor <;> omega), Option.bind_some,
    checked_of_fits (by constructor <;> omega), Option.bind_some]
  rfl

/-- What the text of a time is parsed to. -/
theorem parseIso8601_spell (sysDays : SysDays) (valid : time.Valid) {text : String}
    (spelled : bytes text = time.spell) :
    parseIso8601 sysDays text =
      match checked (time.seconds * 1000000000) with
      | none => .overflowed
      | some _ => match checked time.instant with
        | none => .overflowed
        | some nanos => .parsed (Int64.ofInt nanos) := by
  unfold parseIso8601
  rw [spelled, ← time.join_windows, isoFields_join, time.fields_windows]
  dsimp only
  rw [isoArithmetic_join, show time.windows.rest = time.tail from rfl, time.checkedFraction_tail,
    Option.bind_some, checkedNanos_fields sysDays valid]
  cases product : checked (time.seconds * 1000000000) with
  | none => rfl
  | some nanos =>
      rw [Option.bind_some, eq_of_checked product]
      rfl

/-- The instant with all of its fraction, in seconds from the epoch. -/
def exact (time : IsoTime) : ℚ :=
  time.seconds + match time.fraction with
    | some digits => pointValue [] digits.val
    | none => 0

/-- The time is there, and of a year all of which 64 bits of nanoseconds can name. -/
def InRange (time : IsoTime) : Prop :=
  time.Valid ∧ 1678 ≤ time.year.value ∧ time.year.value ≤ 2261

instance instDecidableInRange (time : IsoTime) : Decidable time.InRange :=
  inferInstanceAs (Decidable (_ ∧ _))

/-- Two times name the same nanosecond. -/
def SameMoment (time other : IsoTime) : Prop :=
  time.year.value = other.year.value ∧ time.month.value = other.month.value ∧
    time.day.value = other.day.value ∧ time.hour.value = other.hour.value ∧
    time.minute.value = other.minute.value ∧ time.second.value = other.second.value ∧
    time.nanos = other.nanos

/-- A time comes before another on the calendar, or on the same day on the clock. -/
def Before (time other : IsoTime) : Prop :=
  DateBefore time.year.value time.month.value time.day.value
      other.year.value other.month.value other.day.value ∨
    (time.year.value = other.year.value ∧ time.month.value = other.month.value ∧
      time.day.value = other.day.value) ∧
      (time.hour.value < other.hour.value ∨ time.hour.value = other.hour.value ∧
        (time.minute.value < other.minute.value ∨ time.minute.value = other.minute.value ∧
          (time.second.value < other.second.value ∨ time.second.value = other.second.value ∧
            time.nanos < other.nanos)))

/-- A fraction is less than a second. -/
theorem nanos_lt (time : IsoTime) : time.nanos < 1000000000 := by
  unfold nanos
  split
  · rename_i digits _
    exact fractionUnits_lt digits.property 9
  · decide

/-- What is finer than a nanosecond is dropped. -/
theorem floor_exact (time : IsoTime) : ⌊time.exact * 10 ^ 9⌋ = time.instant := by
  have whole : (time.seconds : ℚ) * 10 ^ 9 = ((time.seconds * 1000000000 : Int) : ℚ) := by
    push_cast
    rfl
  unfold exact instant
  rw [add_mul, whole, Int.floor_intCast_add]
  unfold nanos
  cases time.fraction with
  | some digits =>
      dsimp only
      rw [floor_pointValue, numeral_cut digits.property, wholeUnits, numeral_nil, Nat.zero_mul,
        Nat.zero_add]
  | none =>
      dsimp only
      rw [zero_mul, Int.floor_zero]
      rfl

/-- The seconds of a day that have passed. -/
theorem clock_bounds (valid : time.Valid) :
    0 ≤ time.hour.value * 3600 + time.minute.value * 60 + time.second.value ∧
      time.hour.value * 3600 + time.minute.value * 60 + time.second.value < 86400 := by
  obtain ⟨_, hour, minute, second⟩ := valid
  have hours := time.hour.value_bounds.1
  have minutes := time.minute.value_bounds.1
  have seconds := time.second.value_bounds.1
  constructor <;> omega

/-- A time in range fits 64 bits of nanoseconds. -/
theorem fits_of_inRange (inside : time.InRange) :
    FitsI64 (time.seconds * 1000000000) ∧ FitsI64 time.instant := by
  obtain ⟨valid, after, before⟩ := inside
  obtain ⟨first, last⟩ := daysFromCivil_bounds valid.1 after before
  have clock := clock_bounds valid
  have fraction := time.nanos_lt
  have begins : daysFromCivil 1678 1 1 = -106650 := rfl
  have ends : daysFromCivil 2261 12 31 = 106650 := rfl
  rw [begins] at first
  rw [ends] at last
  unfold instant seconds
  constructor <;> constructor <;> omega

variable {other : IsoTime}

/-- What is before another by its text is so as an instant. -/
theorem instant_lt_of_before (valid : time.Valid) (valid' : other.Valid)
    (before : time.Before other) : time.instant < other.instant := by
  have clock := clock_bounds valid
  have clock' := clock_bounds valid'
  have fraction := time.nanos_lt
  have fraction' := other.nanos_lt
  unfold instant seconds
  rcases before with earlier | ⟨⟨year, month, day⟩, earlier⟩
  · have fewer := daysFromCivil_lt valid.1 valid'.1 earlier
    omega
  · obtain ⟨_, hour, minute, second⟩ := valid
    have minutes := other.minute.value_bounds.1
    have seconds := other.second.value_bounds.1
    rw [year, month, day]
    omega

/-- Of two times one is before the other, or they are the same moment. -/
theorem sameMoment_or_before (time other : IsoTime) :
    time.SameMoment other ∨ time.Before other ∨ other.Before time := by
  unfold SameMoment Before DateBefore
  omega

/-- Times of the same nanosecond are the only ones with the same instant. -/
theorem sameMoment_of_instant (valid : time.Valid) (valid' : other.Valid)
    (same : time.instant = other.instant) : time.SameMoment other := by
  rcases sameMoment_or_before time other with moment | before | after
  · exact moment
  · exact absurd same (instant_lt_of_before valid valid' before).ne
  · exact absurd same (instant_lt_of_before valid' valid after).ne'

end IsoTime

open IsoTime in
/-- **Times are parsed exactly and in order.** What comes out of the text of a time is its
instant in nanoseconds, what is finer dropped, and nothing overflows; of two such texts, the
earlier time gives the smaller number, and the same number is of the same nanosecond. -/
theorem parseIso8601_exact (sysDays : SysDays) {time other : IsoTime} {text text' : String}
    (inside : time.InRange) (inside' : other.InRange) (spelled : bytes text = time.spell)
    (spelled' : bytes text' = other.spell) :
    ∃ nanos nanos' : Int64,
      parseIso8601 sysDays text = .parsed nanos ∧ parseIso8601 sysDays text' = .parsed nanos' ∧
      nanos.toInt = ⌊time.exact * 10 ^ 9⌋ ∧ nanos'.toInt = ⌊other.exact * 10 ^ 9⌋ ∧
      (time.Before other → nanos < nanos') ∧ (nanos = nanos' → time.SameMoment other) := by
  have parsed : ∀ {time : IsoTime} {text : String}, time.InRange → bytes text = time.spell →
      parseIso8601 sysDays text = .parsed (Int64.ofInt time.instant) := by
    intro time text inside spelled
    obtain ⟨seconds, instant⟩ := fits_of_inRange inside
    rw [parseIso8601_spell sysDays inside.1 spelled, checked_of_fits seconds,
      checked_of_fits instant]
  have value := toInt_ofInt_of_fits (fits_of_inRange inside).2
  have value' := toInt_ofInt_of_fits (fits_of_inRange inside').2
  refine ⟨_, _, parsed inside spelled, parsed inside' spelled', ?_, ?_, ?_, ?_⟩
  · rw [value, floor_exact]
  · rw [value', floor_exact]
  · intro before
    rw [Int64.lt_iff_toInt_lt, value, value']
    exact instant_lt_of_before inside.1 inside'.1 before
  · intro same
    apply sameMoment_of_instant inside.1 inside'.1
    rw [← value, ← value', same]

/-- The last moments before the epoch, finer than a nanosecond. -/
def beforeEpoch : IsoTime where
  year := ⟨bytes "1969", by decide +kernel⟩
  month := ⟨bytes "12", by decide +kernel⟩
  day := ⟨bytes "31", by decide +kernel⟩
  hour := ⟨bytes "23", by decide +kernel⟩
  minute := ⟨bytes "59", by decide +kernel⟩
  second := ⟨bytes "59", by decide +kernel⟩
  fraction := some ⟨bytes "99999999999", by decide +kernel⟩
  zulu := false

/-- A leap day of a century. -/
def leapDay : IsoTime where
  year := ⟨bytes "2000", by decide +kernel⟩
  month := ⟨bytes "02", by decide +kernel⟩
  day := ⟨bytes "29", by decide +kernel⟩
  hour := ⟨bytes "00", by decide +kernel⟩
  minute := ⟨bytes "00", by decide +kernel⟩
  second := ⟨bytes "00", by decide +kernel⟩
  fraction := none
  zulu := true

/-- A time before the epoch and one after it. -/
theorem parseIso8601_exact_epoch :
    ∃ nanos nanos' : Int64,
      parseIso8601 .civil "1969-12-31T23:59:59.99999999999" = .parsed nanos ∧
      parseIso8601 .civil "2000-02-29T00:00:00Z" = .parsed nanos' ∧
      nanos.toInt = ⌊beforeEpoch.exact * 10 ^ 9⌋ ∧ nanos'.toInt = ⌊leapDay.exact * 10 ^ 9⌋ ∧
      (beforeEpoch.Before leapDay → nanos < nanos') ∧
      (nanos = nanos' → beforeEpoch.SameMoment leapDay) :=
  parseIso8601_exact .civil (by decide +kernel) (by decide +kernel) (by decide +kernel)
    (by decide +kernel)

end DataFeed.Core
