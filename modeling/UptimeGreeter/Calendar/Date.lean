import UptimeGreeter.Text.Numeral

/-!
Dates of the proleptic Gregorian calendar and their day numbers, counted from 1 January 1970.
The count runs in years that begin on 1 March, so that a leap day ends its year.
-/

namespace UptimeGreeter.Calendar

structure Date where
  year : Int
  month : Nat
  day : Nat
  deriving DecidableEq, Repr

def isLeapYear (year : Int) : Bool :=
  year % 4 = 0 && (year % 100 ≠ 0 || year % 400 = 0)

def daysInMonth (year : Int) (month : Nat) : Nat :=
  if month = 2 then if isLeapYear year then 29 else 28
  else if month = 4 ∨ month = 6 ∨ month = 9 ∨ month = 11 then 30
  else 31

def Date.Proper (date : Date) : Prop :=
  1 ≤ date.month ∧ date.month ≤ 12 ∧ 1 ≤ date.day ∧ date.day ≤ daysInMonth date.year date.month

/-- Days from 1 March of year 0 to 1 January 1970. -/
def epochOffset : Int := 719468

/-- Where a day lies in a span of 400 years that begins on 1 March. A full span ends in a leap day,
which belongs to its last century, and so down to the single year. -/
structure SpanPosition where
  century : Nat
  leapCycle : Nat
  yearOfCycle : Nat
  dayOfYear : Nat
  deriving DecidableEq, Repr

def SpanPosition.ofDay (day : Nat) : SpanPosition :=
  let century := min (day / 36524) 3
  let dayOfCentury := day - century * 36524
  let leapCycle := dayOfCentury / 1461
  let dayOfCycle := dayOfCentury % 1461
  let yearOfCycle := min (dayOfCycle / 365) 3
  ⟨century, leapCycle, yearOfCycle, dayOfCycle - yearOfCycle * 365⟩

def SpanPosition.year (position : SpanPosition) : Nat :=
  position.century * 100 + position.leapCycle * 4 + position.yearOfCycle

/-- Months from March on, and days from the first, of a day counted from 1 March. -/
def monthAndDay (dayOfYear : Nat) : Nat × Nat :=
  let month := (5 * dayOfYear + 2) / 153
  (month, dayOfYear - (153 * month + 2) / 5)

def Date.ofDayNumber (number : Int) : Date :=
  let shifted := number + epochOffset
  let position := SpanPosition.ofDay (shifted % 146097).toNat
  let (month, day) := monthAndDay position.dayOfYear
  let year := shifted / 146097 * 400 + position.year
  if month < 10 then ⟨year, month + 3, day + 1⟩ else ⟨year + 1, month - 9, day + 1⟩

def Date.dayNumber (date : Date) : Int :=
  let year := if date.month ≤ 2 then date.year - 1 else date.year
  let month : Int := if date.month ≤ 2 then date.month + 9 else date.month - 3
  year * 365 + year / 4 - year / 100 + year / 400 + (153 * month + 2) / 5 + (date.day - 1)
    - epochOffset

def yearText (year : Int) : String :=
  if year < 0 then "-" ++ Decimal.padded 4 year.natAbs
  else if year ≤ 9999 then Decimal.padded 4 year.natAbs
  else "+" ++ Decimal.padded 4 year.natAbs

def Date.text (date : Date) : String :=
  yearText date.year ++ "-" ++ Decimal.padded 2 date.month ++ "-" ++ Decimal.padded 2 date.day

end UptimeGreeter.Calendar
