import UptimeGreeter.Calendar.Timestamp
import UptimeGreeter.Proofs.Calendar.DayCount
import UptimeGreeter.Proofs.Decimal.Numeral
import UptimeGreeter.Text.Split

/-!
Points of time as dates and times of day: how they are written, which seconds and nanoseconds they
tell, and that what is written reads back as what is told.
-/

namespace UptimeGreeter.Calendar

open Decimal (Numeral natural?)

inductive WritesYear : Int → List Char → Prop
  | plain {year : Nat} {digits : List Char} :
      year ≤ 9999 → Numeral 4 digits year → WritesYear year digits
  | before {year width : Nat} {digits : List Char} :
      0 < year → Numeral width digits year → Decimal.Fewest 4 width year →
        WritesYear (-year) ('-' :: digits)
  | after {year width : Nat} {digits : List Char} :
      9999 < year → Numeral width digits year → Decimal.Fewest 4 width year →
        WritesYear year ('+' :: digits)

inductive WritesDate : Date → List Char → Prop
  | parts {year : Int} {month day : Nat} {yearText monthText dayText : List Char} :
      WritesYear year yearText → Numeral 2 monthText month → Numeral 2 dayText day →
        WritesDate ⟨year, month, day⟩ (yearText ++ '-' :: (monthText ++ '-' :: dayText))

inductive WritesClock : Nat → Nat → Nat → List Char → Prop
  | parts {hour minute second : Nat} {hourText minuteText secondText : List Char} :
      Numeral 2 hourText hour → Numeral 2 minuteText minute → Numeral 2 secondText second →
        WritesClock hour minute second (hourText ++ ':' :: (minuteText ++ ':' :: secondText))

structure CivilTime where
  date : Date
  hour : Nat
  minute : Nat
  second : Nat
  fraction : List Char

def withPoint : List Char → List Char
  | [] => []
  | digits => '.' :: digits

inductive CivilTime.Written : CivilTime → List Char → Prop
  | parts {date : Date} {hour minute second : Nat} {fraction dateText clockText : List Char} :
      WritesDate date dateText → WritesClock hour minute second clockText →
        (∀ char ∈ fraction, char.isDigit) →
          Written ⟨date, hour, minute, second, fraction⟩
            (dateText ++ 'T' :: (clockText ++ (withPoint fraction ++ ['Z'])))

structure ShowsFraction (digits : List Char) (nanoseconds : Nat) : Prop where
  width : digits.length ∈ [0, 3, 6, 9]
  value : Nat.ofDigitChars 10 digits 0 * 10 ^ (9 - digits.length) = nanoseconds
  fewest : ∀ width ∈ [0, 3, 6, 9], width < digits.length → ¬10 ^ (9 - width) ∣ nanoseconds

/-- The seconds since 1970 and the nanoseconds that a civil time stands for. The day is found by
counting; the sixtieth second is a leap second, which belongs to the second before it. -/
structure CivilTime.Tells (time : CivilTime) (seconds : Int) (nanoseconds : Nat) : Prop where
  proper : time.date.Proper
  day : Date.Counted time.date (seconds / 86400)
  hour : time.hour ≤ 23
  minute : time.minute ≤ 59
  second : time.second ≤ 60
  leapSecond : time.second = 60 ↔ 1000000000 ≤ nanoseconds
  ofDay : (time.hour * 3600 + time.minute * 60 + min time.second 59 : Nat) = seconds % 86400
  fraction : ShowsFraction time.fraction (nanoseconds % 1000000000)

def splitSign : List Char → Int × List Char
  | '-' :: rest => (-1, rest)
  | '+' :: rest => (1, rest)
  | text => (1, text)

def Date.read? (text : List Char) : Option Date := do
  let (sign, rest) := splitSign text
  let (year, rest) ← Split.once? '-' rest
  let (month, day) ← Split.once? '-' rest
  return ⟨sign * (← natural? year), ← natural? month, ← natural? day⟩

def readClock? (text : List Char) : Option (Nat × Nat × Nat) := do
  let (hour, rest) ← Split.once? ':' text
  let (minute, second) ← Split.once? ':' rest
  return (← natural? hour, ← natural? minute, ← natural? second)

namespace CivilTime

def read? (text : List Char) : Option CivilTime := do
  let (date, rest) ← Split.once? 'T' text
  let (rest, []) ← Split.once? 'Z' rest | none
  let (clock, fraction) := (Split.once? '.' rest).getD (rest, [])
  let (hour, minute, second) ← readClock? clock
  return ⟨← Date.read? date, hour, minute, second, fraction⟩

def moment? (time : CivilTime) : Option Timestamp :=
  Timestamp.ofUnix?
    (time.date.dayNumber * 86400 +
      (time.hour * 3600 + time.minute * 60 + min time.second 59 : Nat))
    ((if time.second = 60 then 1000000000 else 0) +
      Nat.ofDigitChars 10 time.fraction 0 * 10 ^ (9 - time.fraction.length))

end CivilTime

def Timestamp.read? (text : List Char) : Option Timestamp :=
  (CivilTime.read? text).bind CivilTime.moment?

theorem splitSign_of_isDigit {first : Char} (digit : first.isDigit) (rest : List Char) :
    splitSign (first :: rest) = (1, first :: rest) := by
  unfold splitSign
  split
  · rename_i same
    rw [(List.cons.inj same).1] at digit
    exact absurd digit (by decide)
  · rename_i same
    rw [(List.cons.inj same).1] at digit
    exact absurd digit (by decide)
  · rfl

theorem WritesYear.exists_digits {year : Int} {text : List Char} (written : WritesYear year text) :
    ∃ (factor : Int) (number width : Nat) (digits : List Char), year = factor * number ∧
      0 < width ∧ Numeral width digits number ∧
        ∀ rest, splitSign (text ++ rest) = (factor, digits ++ rest) := by
  cases written with
  | plain _ numeral =>
      refine ⟨1, _, 4, text, (Int.one_mul _).symm, by decide, numeral, ?_⟩
      intro rest
      cases text with
      | nil => exact absurd numeral.length (by decide)
      | cons first digits =>
          exact splitSign_of_isDigit (numeral.digits first List.mem_cons_self) (digits ++ rest)
  | before _ numeral fewest =>
      have positive := Nat.lt_of_lt_of_le (Nat.succ_pos 3) fewest.1
      exact ⟨-1, _, _, _, by omega, positive, numeral, fun rest => rfl⟩
  | after _ numeral fewest =>
      have positive := Nat.lt_of_lt_of_le (Nat.succ_pos 3) fewest.1
      exact ⟨1, _, _, _, (Int.one_mul _).symm, positive, numeral, fun rest => rfl⟩

theorem read?_of_writesDate {date : Date} {text : List Char} (written : WritesDate date text) :
    Date.read? text = some date := by
  obtain ⟨year, month, day⟩ := written
  obtain ⟨factor, number, width, digits, rfl, positive, numeral, found⟩ := year.exists_digits
  simp only [Date.read?, found, numeral.once?_append '-' rfl, month.once?_append '-' rfl,
    Decimal.natural?_of_numeral numeral positive, Decimal.natural?_of_numeral month (by decide),
    Decimal.natural?_of_numeral day (by decide), Option.bind_eq_bind, Option.bind_some]
  rfl

theorem readClock?_of_writesClock {hour minute second : Nat} {text : List Char}
    (written : WritesClock hour minute second text) :
    readClock? text = some (hour, minute, second) := by
  obtain ⟨hour, minute, second⟩ := written
  simp only [readClock?, hour.once?_append ':' rfl, minute.once?_append ':' rfl,
    Decimal.natural?_of_numeral hour (by decide), Decimal.natural?_of_numeral minute (by decide),
    Decimal.natural?_of_numeral second (by decide), Option.bind_eq_bind, Option.bind_some]
  rfl

theorem withPoint_of_ne_nil {digits : List Char} (nonempty : digits ≠ []) :
    withPoint digits = '.' :: digits := by
  cases digits with
  | nil => exact absurd rfl nonempty
  | cons char rest => rfl

section Marks

variable {mark : Char} (noDigit : mark.isDigit = false)

include noDigit

theorem WritesDate.not_mem {date : Date} {text : List Char} (written : WritesDate date text)
    (other : mark ≠ '-' ∧ mark ≠ '+') : mark ∉ text := by
  obtain ⟨year, month, day⟩ := written
  rw [List.mem_append, List.mem_cons, List.mem_append, List.mem_cons]
  rintro (inside | same | inside | same | inside)
  · cases year with
    | plain _ numeral => exact numeral.not_mem noDigit inside
    | before _ numeral _ =>
        rcases List.mem_cons.mp inside with same | inside
        · exact other.1 same
        · exact numeral.not_mem noDigit inside
    | after _ numeral _ =>
        rcases List.mem_cons.mp inside with same | inside
        · exact other.2 same
        · exact numeral.not_mem noDigit inside
  · exact other.1 same
  · exact month.not_mem noDigit inside
  · exact other.1 same
  · exact day.not_mem noDigit inside

theorem WritesClock.not_mem {hour minute second : Nat} {text : List Char}
    (written : WritesClock hour minute second text) (other : mark ≠ ':') : mark ∉ text := by
  obtain ⟨hour, minute, second⟩ := written
  rw [List.mem_append, List.mem_cons, List.mem_append, List.mem_cons]
  rintro (inside | same | inside | same | inside)
  · exact hour.not_mem noDigit inside
  · exact other same
  · exact minute.not_mem noDigit inside
  · exact other same
  · exact second.not_mem noDigit inside

theorem not_mem_withPoint {fraction : List Char} (digits : ∀ char ∈ fraction, char.isDigit)
    (other : mark ≠ '.') : mark ∉ withPoint fraction := by
  have absent : mark ∉ fraction := not_mem_of_forall digits noDigit
  by_cases empty : fraction = []
  · rw [empty]
    exact List.not_mem_nil
  · rw [withPoint_of_ne_nil empty, List.mem_cons]
    rintro (same | inside)
    · exact other same
    · exact absent inside

theorem CivilTime.Written.not_mem {time : CivilTime} {text : List Char}
    (written : time.Written text) (other : mark ∉ ['-', '+', 'T', ':', '.', 'Z']) :
    mark ∉ text := by
  simp only [List.mem_cons, List.not_mem_nil, or_false, not_or] at other
  obtain ⟨minus, plus, time, colon, point, zone⟩ := other
  obtain ⟨date, clock, digits⟩ := written
  rw [List.mem_append, List.mem_cons, List.mem_append, List.mem_append, List.mem_singleton]
  rintro (inside | same | inside | inside | same)
  · exact date.not_mem noDigit ⟨minus, plus⟩ inside
  · exact time same
  · exact clock.not_mem noDigit colon inside
  · exact not_mem_withPoint noDigit digits point inside
  · exact zone same

end Marks

theorem once?_withPoint {clock : List Char} (absent : '.' ∉ clock) (fraction : List Char) :
    (Split.once? '.' (clock ++ withPoint fraction)).getD (clock ++ withPoint fraction, []) =
      (clock, fraction) := by
  by_cases empty : fraction = []
  · rw [empty, withPoint, List.append_nil, Split.once?_eq_none _ _ absent]
    rfl
  · rw [withPoint_of_ne_nil empty, Split.once?_append _ _ _ absent]
    rfl

theorem CivilTime.read?_of_written {time : CivilTime} {text : List Char}
    (written : time.Written text) : read? text = some time := by
  obtain ⟨date, clock, digits⟩ := written
  rename_i fraction dateText clockText
  have mark : 'T' ∉ dateText := date.not_mem rfl (by decide)
  have point : '.' ∉ clockText := clock.not_mem rfl (by decide)
  have zone : 'Z' ∉ clockText ++ withPoint fraction := by
    rw [List.mem_append]
    rintro (inside | inside)
    · exact clock.not_mem rfl (by decide) inside
    · exact not_mem_withPoint rfl digits (by decide) inside
  rw [← List.append_assoc clockText]
  simp only [read?, Split.once?_append _ _ _ mark, Split.once?_append _ _ _ zone,
    once?_withPoint point, readClock?_of_writesClock clock, read?_of_writesDate date,
    Option.bind_eq_bind, Option.bind_some]
  rfl

theorem CivilTime.Tells.moment?_eq {time : CivilTime} {seconds : Int} {nanoseconds : Nat}
    (tells : time.Tells seconds nanoseconds) (inRange : InRange seconds nanoseconds) :
    time.moment? = some ⟨seconds, nanoseconds, inRange⟩ := by
  have number : time.date.dayNumber = seconds / 86400 := by
    rw [(Date.counted_iff _ _).mp tells.day, Date.dayNumber_ofDayNumber]
  have whole : time.date.dayNumber * 86400 +
      (time.hour * 3600 + time.minute * 60 + min time.second 59 : Nat) = seconds := by
    rw [number, tells.ofDay]
    omega
  have limit : nanoseconds < 2000000000 := by
    obtain ⟨_, _, bound⟩ := inRange
    omega
  have parts : (if time.second = 60 then 1000000000 else 0) + nanoseconds % 1000000000 =
      nanoseconds := by
    have leap := tells.leapSecond
    split <;> omega
  rw [moment?, whole, tells.fraction.value, parts, Timestamp.ofUnix?, dif_pos inRange]

theorem Timestamp.read?_of_written {time : CivilTime} {text : List Char} {timestamp : Timestamp}
    (written : time.Written text)
    (tells : time.Tells timestamp.seconds timestamp.nanoseconds) :
    read? text = some timestamp := by
  rw [read?, CivilTime.read?_of_written written, Option.bind_some,
    tells.moment?_eq timestamp.inRange]

end UptimeGreeter.Calendar
