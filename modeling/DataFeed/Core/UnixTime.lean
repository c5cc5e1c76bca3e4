import DataFeed.Core.Decimal

/-! # Times in text -/

namespace DataFeed.Core

open Foundation

/-- Exactly `count` decimal digits at `offset`, or nothing. -/
def readDigits (text : List UInt8) (offset count : Nat) : Option Int :=
  if offset + count > text.length then none
  else
    match fromCharsI64 ((text.drop offset).take count) with
    | .number value [] => some value
    | _ => none

/-- The days from the epoch to a date of the civil calendar. -/
def daysFromCivil (year month day : Int) : Int :=
  let shifted := if month ≤ 2 then year - 1 else year
  let era := shifted / 400
  let yearOfEra := shifted - era * 400
  let dayOfYear := (153 * (if month > 2 then month - 3 else month + 9) + 2) / 5 + day - 1
  let dayOfEra := yearOfEra * 365 + yearOfEra / 4 - yearOfEra / 100 + dayOfYear
  era * 146097 + dayOfEra - 719468

/-- A month or a day of a date, which the calendar keeps in an unsigned char. -/
def calendarField (value : Int) : Int := value % 256

/-- The nanoseconds a fraction of a second stands for: each digit is worth a tenth of
the one before it, and what is past the nanoseconds is dropped. -/
def fractionNanos : Nat → List UInt8 → Int
  | _, [] => 0
  | digitWorth, byte :: rest =>
      if isDigit byte then digitValue byte * digitWorth + fractionNanos (digitWorth / 10) rest
      else 0

/-- An ISO 8601 time in nanoseconds since the Unix epoch, or nothing if the text is
not laid out as one. -/
def parseIso8601ToUnixNanos (value : String) : Option Int64 :=
  let text := bytes value
  if text.length < 19 ∨ text[4]? ≠ some 45 ∨ text[7]? ≠ some 45 ∨ text[10]? ≠ some 84 ∨
      text[13]? ≠ some 58 ∨ text[16]? ≠ some 58 then none
  else do
    let year ← readDigits text 0 4
    let month ← readDigits text 5 2
    let day ← readDigits text 8 2
    let hour ← readDigits text 11 2
    let minute ← readDigits text 14 2
    let second ← readDigits text 17 2
    let fraction :=
      if text[19]? = some 46 then fractionNanos 100000000 (text.drop 20) else 0
    let days := daysFromCivil year (calendarField month) (calendarField day)
    let seconds := days * 86400 + hour * 3600 + minute * 60 + second
    return Int64.ofInt (seconds * 1000000000 + fraction)

example : parseIso8601ToUnixNanos "2026-10-04T18:32:21.811584Z" = some 1791138741811584000 := by
  decide

end DataFeed.Core
