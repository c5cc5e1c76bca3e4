import Mathlib.Algebra.Order.Ring.Int
import Mathlib.Order.SuccPred.Basic
import DataFeed.Core.UnixTime

/-! # The civil calendar

The count of days is that of the Gregorian calendar in both directions: it is zero at the
epoch, and goes up by the length of each month from its first day to that of the next, so
later dates have higher counts (`daysFromCivil_lt`).
-/

namespace DataFeed.Core

/-- A year with a 29th of February. -/
def IsLeap (year : Int) : Prop := year % 4 = 0 ∧ (year % 100 ≠ 0 ∨ year % 400 = 0)

instance instDecidableIsLeap (year : Int) : Decidable (IsLeap year) :=
  inferInstanceAs (Decidable (_ ∧ _))

/-- How long a month is. -/
def daysInMonth (year month : Int) : Int :=
  if month = 2 then if IsLeap year then 29 else 28
  else if month = 4 ∨ month = 6 ∨ month = 9 ∨ month = 11 then 30
  else 31

/-- A date that there is. -/
def ValidDate (year month day : Int) : Prop :=
  1 ≤ month ∧ month ≤ 12 ∧ 1 ≤ day ∧ day ≤ daysInMonth year month

instance instDecidableValidDate (year month day : Int) : Decidable (ValidDate year month day) :=
  inferInstanceAs (Decidable (_ ∧ _))

theorem daysInMonth_pos (year month : Int) : 0 < daysInMonth year month := by
  unfold daysInMonth
  split
  · split <;> decide
  · split <;> decide

theorem daysInMonth_le (year month : Int) : daysInMonth year month ≤ 31 := by
  unfold daysInMonth
  split
  · split <;> decide
  · split <;> decide

/-- The days of a month follow each other. -/
theorem daysFromCivil_day (year month day : Int) :
    daysFromCivil year month day = daysFromCivil year month 1 + (day - 1) := by
  unfold daysFromCivil
  dsimp only
  omega

/-- A month is followed by the next. -/
theorem daysFromCivil_month {year month : Int} (first : 1 ≤ month) (last : month < 12) :
    daysFromCivil year (month + 1) 1 = daysFromCivil year month 1 + daysInMonth year month := by
  have cases : month = 1 ∨ month = 2 ∨ month = 3 ∨ month = 4 ∨ month = 5 ∨ month = 6 ∨ month = 7 ∨
      month = 8 ∨ month = 9 ∨ month = 10 ∨ month = 11 := by
    omega
  have february : daysFromCivil year 3 1 = daysFromCivil year 2 1 + daysInMonth year 2 := by
    unfold daysInMonth IsLeap daysFromCivil
    simp only [Int.reduceLE, Int.reduceSub, Int.reduceAdd, ↓reduceIte]
    split <;> omega
  rcases cases with rfl | rfl | rfl | rfl | rfl | rfl | rfl | rfl | rfl | rfl | rfl
  case inr.inl => exact february
  all_goals
    unfold daysInMonth daysFromCivil
    simp only [Int.reduceEq, Int.reduceLE, Int.reduceSub, Int.reduceAdd, ↓reduceIte, or_false,
      or_true, or_self]
    omega

/-- A year is followed by the next. -/
theorem daysFromCivil_year (year : Int) :
    daysFromCivil (year + 1) 1 1 = daysFromCivil year 12 1 + daysInMonth year 12 := by
  unfold daysInMonth daysFromCivil
  simp only [Int.reduceEq, Int.reduceLE, Int.reduceSub, Int.reduceAdd, ↓reduceIte, or_self]
  omega

/-- The count of the first day of a month, the months numbered from that of year zero. -/
def monthStart (index : Int) : Int := daysFromCivil (index / 12) (index % 12 + 1) 1

theorem monthStart_eq {month : Int} (year : Int) (first : 1 ≤ month) (last : month ≤ 12) :
    monthStart (12 * year + (month - 1)) = daysFromCivil year month 1 := by
  unfold monthStart
  congr 1 <;> omega

/-- Each month starts as the one before it has passed. -/
theorem monthStart_succ (index : Int) :
    monthStart (index + 1) = monthStart index + daysInMonth (index / 12) (index % 12 + 1) := by
  unfold monthStart
  by_cases december : index % 12 = 11
  · have year : (index + 1) / 12 = index / 12 + 1 := by omega
    have month : (index + 1) % 12 = 0 := by omega
    rw [year, month, december]
    exact daysFromCivil_year _
  · have year : (index + 1) / 12 = index / 12 := by omega
    have month : (index + 1) % 12 = index % 12 + 1 := by omega
    rw [year, month]
    exact daysFromCivil_month (by omega) (by omega)

theorem monthStart_le {first second : Int} (order : first ≤ second) :
    monthStart first ≤ monthStart second := by
  have increasing : StrictMono monthStart := by
    apply strictMono_int_of_lt_succ
    intro index
    rw [monthStart_succ]
    exact Int.lt_add_of_pos_right _ (daysInMonth_pos _ _)
  exact increasing.monotone order

/-- A date comes before another in the calendar. -/
def DateBefore (year month day year' month' day' : Int) : Prop :=
  year < year' ∨ year = year' ∧ (month < month' ∨ month = month' ∧ day < day')

/-- **Later dates have higher counts.** -/
theorem daysFromCivil_lt {year month day year' month' day' : Int}
    (valid : ValidDate year month day) (valid' : ValidDate year' month' day')
    (earlier : DateBefore year month day year' month' day') :
    daysFromCivil year month day < daysFromCivil year' month' day' := by
  obtain ⟨first, last, _, inside⟩ := valid
  obtain ⟨first', last', started, _⟩ := valid'
  rw [daysFromCivil_day, daysFromCivil_day year', ← monthStart_eq year first last,
    ← monthStart_eq year' first' last']
  by_cases same : year = year' ∧ month = month'
  · obtain ⟨rfl, rfl⟩ := same
    unfold DateBefore at earlier
    omega
  · have passed : monthStart (12 * year + (month - 1)) + daysInMonth year month ≤
        monthStart (12 * year' + (month' - 1)) := by
      have start := monthStart_succ (12 * year + (month - 1))
      have named : (12 * year + (month - 1)) / 12 = year ∧
          (12 * year + (month - 1)) % 12 + 1 = month := by
        omega
      rw [named.1, named.2] at start
      rw [← start]
      apply monthStart_le
      unfold DateBefore at earlier
      omega
    omega

/-- The days of some years are between the first and the last of them. -/
theorem daysFromCivil_bounds {year month day least most : Int} (valid : ValidDate year month day)
    (after : least ≤ year) (before : year ≤ most) :
    daysFromCivil least 1 1 ≤ daysFromCivil year month day ∧
      daysFromCivil year month day ≤ daysFromCivil most 12 31 := by
  have new_year : ValidDate least 1 1 :=
    ⟨le_rfl, by decide, le_rfl, Int.add_one_le_of_lt (daysInMonth_pos _ _)⟩
  have new_years_eve : ValidDate most 12 31 := ⟨by decide, le_rfl, by decide, le_rfl⟩
  obtain ⟨first, last, started, inside⟩ := valid
  constructor
  · by_cases same : year = least ∧ month = 1 ∧ day = 1
    · obtain ⟨rfl, rfl, rfl⟩ := same
      exact le_rfl
    · apply le_of_lt
      apply daysFromCivil_lt new_year ⟨first, last, started, inside⟩
      unfold DateBefore
      omega
  · by_cases same : year = most ∧ month = 12 ∧ day = 31
    · obtain ⟨rfl, rfl, rfl⟩ := same
      exact le_rfl
    · apply le_of_lt
      apply daysFromCivil_lt ⟨first, last, started, inside⟩ new_years_eve
      have long := daysInMonth_le year month
      unfold DateBefore
      omega

end DataFeed.Core
