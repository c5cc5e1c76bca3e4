import DataFeed.Core.Calendar
import DataFeed.Core.Scaling

/-! # Times in ISO 8601

`IsoTime` is a time as it is laid out in text, and `instant` what it stands for. The parser
looks at six fields at fixed places (`isoFields_join`), and at the digits after a point,
which it adds up to their nanoseconds (`checkedFraction_eq`).
-/

namespace DataFeed.Core

open Foundation

/-! ## What a text stands for -/

/-- A field of so many digits. -/
abbrev DigitField (count : Nat) := {text : List UInt8 // text.length = count ∧ AllDigits text}

/-- What a field says. -/
def DigitField.value {count : Nat} (field : DigitField count) : Int := numeral field.val

/-- A time as it is laid out. -/
structure IsoTime where
  year : DigitField 4
  month : DigitField 2
  day : DigitField 2
  hour : DigitField 2
  minute : DigitField 2
  second : DigitField 2
  /-- The digits after a point, if there is one. -/
  fraction : Option {text : List UInt8 // AllDigits text}
  /-- It ends with the mark of UTC. -/
  zulu : Bool

namespace IsoTime

/-- What comes after the seconds. -/
def tail (time : IsoTime) : List UInt8 :=
  (match time.fraction with
    | some digits => 46 :: digits.val
    | none => []) ++ if time.zulu then [90] else []

/-- The text of a time. -/
def spell (time : IsoTime) : List UInt8 :=
  time.year.val ++ 45 :: (time.month.val ++ 45 :: (time.day.val ++ 84 :: (time.hour.val ++
    58 :: (time.minute.val ++ 58 :: (time.second.val ++ time.tail)))))

/-- The date is in the calendar, and the time of day on the clock. -/
def Valid (time : IsoTime) : Prop :=
  ValidDate time.year.value time.month.value time.day.value ∧
    time.hour.value < 24 ∧ time.minute.value < 60 ∧ time.second.value < 60

instance instDecidableValid (time : IsoTime) : Decidable time.Valid :=
  inferInstanceAs (Decidable (_ ∧ _))

/-- The seconds from the epoch, without the fraction. -/
def seconds (time : IsoTime) : Int :=
  daysFromCivil time.year.value time.month.value time.day.value * 86400 +
    time.hour.value * 3600 + time.minute.value * 60 + time.second.value

/-- The fraction in nanoseconds, what is finer dropped. -/
def nanos (time : IsoTime) : Nat :=
  match time.fraction with
  | some digits => fractionUnits digits.val 9
  | none => 0

/-- The nanoseconds from the epoch. -/
def instant (time : IsoTime) : Int := time.seconds * 1000000000 + time.nanos

end IsoTime

/-! ## The parser's arithmetic -/

/-- What the standard library makes of a date: the count of days of a date that there is,
anything of one that there is not. -/
structure SysDays where
  count : Int → Int → Int → Int
  exact : ∀ year month day, ValidDate year month day →
    count year month day = daysFromCivil year month day

/-- A library that counts dates that there are not as well. -/
def SysDays.civil : SysDays := ⟨daysFromCivil, fun _ _ _ _ => rfl⟩

/-- The fields that the parser has read. -/
structure IsoFields where
  year : Int
  month : Int
  day : Int
  hour : Int
  minute : Int
  second : Int
  deriving DecidableEq, Repr

/-- The checks of the layout and the fields at their places, if all are there. -/
def isoFields (text : List UInt8) : Option IsoFields :=
  if text.length < 19 ∨ text[4]? ≠ some 45 ∨ text[7]? ≠ some 45 ∨ text[10]? ≠ some 84 ∨
      text[13]? ≠ some 58 ∨ text[16]? ≠ some 58 then none
  else do
    let year ← readDigits text 0 4
    let month ← readDigits text 5 2
    let day ← readDigits text 8 2
    let hour ← readDigits text 11 2
    let minute ← readDigits text 14 2
    let second ← readDigits text 17 2
    return ⟨year, month, day, hour, minute, second⟩

/-- The loop over a fraction's digits, unless something overflows. -/
def checkedFraction (nanos : Int) (digitWorth : Nat) : List UInt8 → Option Int
  | [] => some nanos
  | byte :: rest =>
      if isDigit byte then
        (checked (digitValue byte * digitWorth)).bind fun added =>
          (checked (nanos + added)).bind fun sum => checkedFraction sum (digitWorth / 10) rest
      else some nanos

/-- What the parser computes of the fields, unless something overflows. -/
def checkedNanos (sysDays : SysDays) (fields : IsoFields) (fraction : Int) : Option Int :=
  (checked (sysDays.count fields.year (calendarField fields.month) (calendarField fields.day) *
      86400)).bind fun days =>
    (checked (fields.hour * 3600)).bind fun hours =>
      (checked (days + hours)).bind fun toHour =>
        (checked (fields.minute * 60)).bind fun minutes =>
          (checked (toHour + minutes)).bind fun toMinute =>
            (checked (toMinute + fields.second)).bind fun seconds =>
              (checked (seconds * 1000000000)).bind fun nanos => checked (nanos + fraction)

/-- The parser's arithmetic on a text with some fields, unless something overflows. -/
def isoArithmetic (sysDays : SysDays) (text : List UInt8) (fields : IsoFields) : Option Int :=
  (if text[19]? = some 46 then checkedFraction 0 100000000 (text.drop 20) else some 0).bind
    (checkedNanos sysDays fields)

/-- How parsing ends. -/
inductive IsoOutcome where
  | rejected
  | overflowed
  | parsed (nanos : Int64)
  deriving DecidableEq, Repr

/-- Parses a text, telling an overflow from a result. -/
def parseIso8601 (sysDays : SysDays) (value : String) : IsoOutcome :=
  match isoFields (bytes value) with
  | none => .rejected
  | some fields =>
      match isoArithmetic sysDays (bytes value) fields with
      | none => .overflowed
      | some nanos => .parsed (Int64.ofInt nanos)

section Fraction

theorem digitValue_nonneg_mul (byte : UInt8) (worth : Nat) :
    (0 : Int) ≤ digitValue byte * worth := by positivity

/-- The worth of the first of so many decimals. -/
def worthOf : Nat → Nat
  | 0 => 0
  | places + 1 => 10 ^ places

theorem worthOf_succ_div (places : Nat) : worthOf (places + 1) / 10 = worthOf places := by
  cases places with
  | zero => rfl
  | succ places =>
      change 10 ^ (places + 1) / 10 = 10 ^ places
      rw [Nat.pow_succ]
      exact Nat.mul_div_cancel _ (by decide)

/-- The digits of a fraction count as much as their decimals. -/
theorem fractionUnits_cons (byte : UInt8) (rest : List UInt8) (places : Nat) :
    fractionUnits (byte :: rest) (places + 1) =
      digitValue byte * 10 ^ places + fractionUnits rest places := by
  have first : numeral [byte] = digitValue byte := Nat.zero_add _
  unfold fractionUnits
  rw [List.take_succ_cons, List.length_cons, Nat.add_min_add_right, Nat.add_sub_add_right,
    ← List.singleton_append, numeral_append, first, List.length_take, Nat.min_comm, Nat.add_mul,
    Nat.mul_assoc, ← Nat.pow_add, Nat.add_sub_cancel' (Nat.min_le_right _ _)]

theorem fractionUnits_zero (fraction : List UInt8) : fractionUnits fraction 0 = 0 := by
  unfold fractionUnits
  rw [List.take_zero, numeral_nil, Nat.zero_mul]

/-- What follows a fraction's digits is not looked at. -/
theorem fractionNanos_eq {digits rest : List UInt8} (all : AllDigits digits)
    (ends : ∀ byte, rest.head? = some byte → isDigit byte = false) (places : Nat) :
    fractionNanos (worthOf places) (digits ++ rest) = fractionUnits digits places := by
  induction digits generalizing places with
  | nil =>
      rw [List.nil_append]
      have nothing : fractionUnits [] places = 0 := by
        unfold fractionUnits
        rw [List.take_nil, numeral_nil, Nat.zero_mul]
      rw [nothing]
      cases rest with
      | nil => rfl
      | cons byte rest =>
          rw [fractionNanos, ends byte rfl, if_neg Bool.false_ne_true]
          rfl
  | cons byte digits ih =>
      have digit := all byte List.mem_cons_self
      have others : AllDigits digits := fun other member => all other (List.mem_cons_of_mem _ member)
      rw [List.cons_append, fractionNanos, digit, if_pos rfl]
      cases places with
      | zero =>
          have worthless := ih others 0
          rw [worthOf, Nat.zero_div, fractionUnits_zero]
          rw [worthOf, fractionUnits_zero] at worthless
          rw [worthless]
          rfl
      | succ places =>
          rw [worthOf_succ_div, ih others places, fractionUnits_cons, worthOf]
          push_cast
          rfl

/-- The loop over a fraction does not overflow as long as its result is small. -/
theorem checkedFraction_eq (text : List UInt8) (nanos : Int) (worth : Nat) (start : 0 ≤ nanos)
    (small : nanos + fractionNanos worth text < 1000000000) :
    checkedFraction nanos worth text = some (nanos + fractionNanos worth text) := by
  have nonneg : ∀ text worth, 0 ≤ fractionNanos worth text := by
    intro text
    induction text with
    | nil => exact fun _ => le_rfl
    | cons byte rest ih =>
        intro worth
        rw [fractionNanos]
        split
        · exact add_nonneg (digitValue_nonneg_mul byte worth) (ih _)
        · exact le_rfl
  induction text generalizing nanos worth with
  | nil => exact congrArg some (add_zero nanos).symm
  | cons byte rest ih =>
      rw [fractionNanos] at small ⊢
      rw [checkedFraction]
      split
      · rename_i digit
        rw [if_pos digit] at small
        have first := digitValue_nonneg_mul byte worth
        have later := nonneg rest (worth / 10)
        rw [checked_of_fits (by constructor <;> omega), Option.bind_some,
          checked_of_fits (by constructor <;> omega), Option.bind_some,
          ih _ _ (by omega) (by omega)]
        exact congrArg some (add_assoc _ _ _)
      · exact congrArg some (add_zero nanos).symm

end Fraction

/-! ## The fields at their places -/

/-- So many bytes of a text. -/
abbrev Window (count : Nat) := {text : List UInt8 // text.length = count}

/-- A text with the marks of the layout at their places. -/
structure IsoWindows where
  year : Window 4
  month : Window 2
  day : Window 2
  hour : Window 2
  minute : Window 2
  second : Window 2
  rest : List UInt8

namespace IsoWindows

/-- The text in windows. -/
def join (windows : IsoWindows) : List UInt8 :=
  windows.year.val ++ 45 :: (windows.month.val ++ 45 :: (windows.day.val ++ 84 ::
    (windows.hour.val ++ 58 :: (windows.minute.val ++ 58 :: (windows.second.val ++ windows.rest)))))

end IsoWindows

/-- The number that a window is, if it is one. -/
def readWindow (window : List UInt8) : Option Int :=
  match fromCharsI64 window with
  | .number value [] => some value
  | _ => none

/-- The fields in the windows, if all are numbers. -/
def IsoWindows.fields (windows : IsoWindows) : Option IsoFields := do
  let year ← readWindow windows.year.val
  let month ← readWindow windows.month.val
  let day ← readWindow windows.day.val
  let hour ← readWindow windows.hour.val
  let minute ← readWindow windows.minute.val
  let second ← readWindow windows.second.val
  return ⟨year, month, day, hour, minute, second⟩

section Windows

theorem exists_four (window : Window 4) :
    ∃ first second third fourth, window.val = [first, second, third, fourth] := by
  obtain ⟨first, rest, same, length⟩ := List.length_eq_succ_iff.mp window.property
  obtain ⟨second, third, fourth, rfl⟩ := List.length_eq_three.mp length
  exact ⟨first, second, third, fourth, same.symm⟩

theorem exists_two (window : Window 2) : ∃ tens ones, window.val = [tens, ones] :=
  List.length_eq_two.mp window.property

/-- The parser reads the windows. -/
theorem isoFields_join (windows : IsoWindows) : isoFields windows.join = windows.fields := by
  obtain ⟨year, month, day, hour, minute, second, rest⟩ := windows
  obtain ⟨y₁, y₂, y₃, y₄, year_is⟩ := exists_four year
  obtain ⟨m₁, m₂, month_is⟩ := exists_two month
  obtain ⟨d₁, d₂, day_is⟩ := exists_two day
  obtain ⟨h₁, h₂, hour_is⟩ := exists_two hour
  obtain ⟨n₁, n₂, minute_is⟩ := exists_two minute
  obtain ⟨s₁, s₂, second_is⟩ := exists_two second
  have long : ¬ (rest.length + 19 < 19) := Nat.not_lt.mpr (Nat.le_add_left 19 _)
  unfold isoFields IsoWindows.join IsoWindows.fields
  dsimp only
  rw [year_is, month_is, day_is, hour_is, minute_is, second_is]
  rw [if_neg (by
    rintro (short | wrong | wrong | wrong | wrong | wrong)
    · exact long short
    all_goals exact wrong rfl)]
  rfl

/-- A mark after a window. -/
theorem drop_of_mark {text : List UInt8} {start count : Nat} {mark : UInt8}
    (marked : text[start + count]? = some mark) :
    text.drop start = (text.drop start).take count ++ mark :: text.drop (start + count + 1) := by
  have after : text.drop (start + count) = mark :: text.drop (start + count + 1) := by
    rw [List.drop_eq_getElem?_toList_append, marked, Option.toList_some, List.singleton_append]
  rw [← after, ← List.drop_drop, List.take_append_drop]

/-- What the parser takes apart is in windows. -/
theorem exists_windows {text : List UInt8} {fields : IsoFields}
    (laidOut : isoFields text = some fields) : ∃ windows : IsoWindows, windows.join = text := by
  unfold isoFields at laidOut
  split at laidOut
  · cases laidOut
  rename_i passed
  simp only [not_or, not_not, Nat.not_lt] at passed
  obtain ⟨long, fourth, seventh, tenth, thirteenth, sixteenth⟩ := passed
  have window : ∀ {start count : Nat}, start + count ≤ 19 →
      ((text.drop start).take count).length = count := by
    intro start count inside
    rw [List.length_take, List.length_drop]
    omega
  refine ⟨⟨⟨_, @window 0 4 (by decide)⟩, ⟨_, @window 5 2 (by decide)⟩,
    ⟨_, @window 8 2 (by decide)⟩, ⟨_, @window 11 2 (by decide)⟩, ⟨_, @window 14 2 (by decide)⟩,
    ⟨_, @window 17 2 (by decide)⟩, text.drop 19⟩, ?_⟩
  have last : (text.drop 17).take 2 ++ text.drop 19 = text.drop 17 := by
    rw [← List.drop_drop (i := 2) (j := 17), List.take_append_drop]
  unfold IsoWindows.join
  dsimp only
  rw [last, ← @drop_of_mark text 14 2 58 sixteenth, ← @drop_of_mark text 11 2 58 thirteenth,
    ← @drop_of_mark text 8 2 84 tenth, ← @drop_of_mark text 5 2 45 seventh,
    ← @drop_of_mark text 0 4 45 fourth, List.drop_zero]

end Windows

end DataFeed.Core
