import UptimeGreeter.Calendar.Date

/-!
Points of civil time in seconds and nanoseconds, with leap seconds, and the text that shows them.
-/

namespace UptimeGreeter.Calendar

/-- Whether seconds since 1970 and nanoseconds name a point of time: the year has at most six
digits, and nanoseconds from a second upwards name a leap second, the last of its minute. -/
def InRange (seconds : Int) (nanoseconds : Nat) : Prop :=
  -8334601228800 ≤ seconds ∧ seconds ≤ 8210266876799 ∧
    (nanoseconds < 1000000000 ∨ nanoseconds < 2000000000 ∧ seconds % 60 = 59)

instance (seconds : Int) (nanoseconds : Nat) : Decidable (InRange seconds nanoseconds) := by
  unfold InRange
  infer_instance

structure Timestamp where
  seconds : Int
  nanoseconds : Nat
  inRange : InRange seconds nanoseconds
  deriving DecidableEq, Repr

def weekdayNames : List String := ["Sun", "Mon", "Tue", "Wed", "Thu", "Fri", "Sat"]

def monthNames : List String :=
  ["Jan", "Feb", "Mar", "Apr", "May", "Jun", "Jul", "Aug", "Sep", "Oct", "Nov", "Dec"]

/-- Days since Sunday; 1 January 1970 was a Thursday. -/
def weekday (dayNumber : Int) : Nat :=
  ((dayNumber + 4) % 7).toNat

namespace Timestamp

def ofUnix? (seconds : Int) (nanoseconds : Nat) : Option Timestamp :=
  if inRange : InRange seconds nanoseconds then some ⟨seconds, nanoseconds, inRange⟩ else none

def epoch : Timestamp :=
  ⟨0, 0, by decide⟩

instance : Inhabited Timestamp := ⟨epoch⟩

def date (timestamp : Timestamp) : Date :=
  Date.ofDayNumber (timestamp.seconds / 86400)

def secondOfDay (timestamp : Timestamp) : Nat :=
  (timestamp.seconds % 86400).toNat

def hour (timestamp : Timestamp) : Nat :=
  timestamp.secondOfDay / 3600

def minute (timestamp : Timestamp) : Nat :=
  timestamp.secondOfDay / 60 % 60

def isLeapSecond (timestamp : Timestamp) : Bool :=
  1000000000 ≤ timestamp.nanoseconds

def second (timestamp : Timestamp) : Nat :=
  timestamp.secondOfDay % 60 + if timestamp.isLeapSecond then 1 else 0

def fraction (timestamp : Timestamp) : Nat :=
  timestamp.nanoseconds % 1000000000

def fractionText (nanoseconds : Nat) : String :=
  if nanoseconds = 0 then ""
  else if nanoseconds % 1000000 = 0 then "." ++ Decimal.padded 3 (nanoseconds / 1000000)
  else if nanoseconds % 1000 = 0 then "." ++ Decimal.padded 6 (nanoseconds / 1000)
  else "." ++ Decimal.padded 9 nanoseconds

def timeText (timestamp : Timestamp) : String :=
  Decimal.padded 2 timestamp.hour ++ ":" ++ Decimal.padded 2 timestamp.minute ++ ":" ++
    Decimal.padded 2 timestamp.second

def text (timestamp : Timestamp) : String :=
  timestamp.date.text ++ "T" ++ timestamp.timeText ++ fractionText timestamp.fraction ++ "Z"

def microsecondText (timestamp : Timestamp) : String :=
  timestamp.date.text ++ "T" ++ timestamp.timeText ++ "." ++
    Decimal.padded 6 (timestamp.fraction / 1000) ++ "Z"

def headerText (timestamp : Timestamp) : String :=
  let date := timestamp.date
  weekdayNames.getD (weekday (timestamp.seconds / 86400)) "" ++ ", " ++
    Decimal.padded 2 date.day ++ " " ++ monthNames.getD (date.month - 1) "" ++ " " ++
    yearText date.year ++ " " ++ timestamp.timeText ++ " GMT"

end Timestamp

end UptimeGreeter.Calendar
