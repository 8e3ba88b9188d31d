import Mathlib.Tactic.IntervalCases
import UptimeGreeter.Calendar.Date

/-!
The date of a day number is the one that counting days from 1 January 1970 comes to, forwards or
backwards, by the lengths of the months alone.
-/

namespace UptimeGreeter.Calendar

namespace Date

def next (date : Date) : Date :=
  if date.day < daysInMonth date.year date.month then { date with day := date.day + 1 }
  else if date.month < 12 then ⟨date.year, date.month + 1, 1⟩
  else ⟨date.year + 1, 1, 1⟩

/-- A date and its number, found by going one day on or one day back at a time. -/
inductive Counted : Date → Int → Prop
  | epoch : Counted ⟨1970, 1, 1⟩ 0
  | next {date : Date} {number : Int} : Counted date number → Counted date.next (number + 1)
  | previous {date : Date} {number : Int} :
      date.Proper → Counted date.next (number + 1) → Counted date number

end Date

theorem isLeapYear_iff (year : Int) :
    isLeapYear year = true ↔ year % 4 = 0 ∧ (year % 100 ≠ 0 ∨ year % 400 = 0) := by
  simp [isLeapYear]

def leapDays (year : Int) : Int :=
  year / 4 - year / 100 + year / 400

theorem leapDays_sub_one (year : Int) :
    leapDays year = leapDays (year - 1) + if isLeapYear year then 1 else 0 := by
  unfold leapDays
  by_cases leap : isLeapYear year = true
  · rw [if_pos leap]
    rw [isLeapYear_iff] at leap
    omega
  · rw [if_neg leap]
    rw [isLeapYear_iff] at leap
    omega

namespace SpanPosition

def day (position : SpanPosition) : Nat :=
  position.century * 36524 + position.leapCycle * 1461 + position.yearOfCycle * 365 +
    position.dayOfYear

structure Proper (position : SpanPosition) : Prop where
  century : position.century ≤ 3
  leapCycle : position.leapCycle ≤ 24
  yearOfCycle : position.yearOfCycle ≤ 3
  dayOfYear : position.dayOfYear ≤ 365
  leapDay : position.dayOfYear = 365 →
    position.yearOfCycle = 3 ∧ (position.leapCycle = 24 → position.century = 3)

theorem day_ofDay (day : Nat) : (ofDay day).day = day := by
  simp only [ofDay, SpanPosition.day]
  omega

theorem proper_ofDay {day : Nat} (bound : day < 146097) : (ofDay day).Proper := by
  constructor
  all_goals simp only [ofDay]
  all_goals omega

theorem Proper.day_lt {position : SpanPosition} (proper : position.Proper) :
    position.day < 146097 := by
  obtain ⟨century, leapCycle, yearOfCycle, dayOfYear, leapDay⟩ := proper
  simp only [SpanPosition.day]
  omega

theorem Proper.ofDay_day {position : SpanPosition} (proper : position.Proper) :
    ofDay position.day = position := by
  obtain ⟨century, leapCycle, yearOfCycle, dayOfYear⟩ := position
  obtain ⟨centuryBound, leapBound, yearBound, dayBound, leapDay⟩ := proper
  dsimp only at centuryBound leapBound yearBound dayBound leapDay
  -- From the outside in: each part is the quotient of what the parts around it leave.
  obtain ⟨ofCycle, cycleSum⟩ : ∃ days, days = yearOfCycle * 365 + dayOfYear := ⟨_, rfl⟩
  obtain ⟨ofCentury, centurySum⟩ : ∃ days, days = leapCycle * 1461 + ofCycle := ⟨_, rfl⟩
  have cycle : ofCycle < 1461 := by omega
  have inCentury : ofCentury < 36524 ∨ century = 3 ∧ ofCentury ≤ 36524 := by omega
  have whole : SpanPosition.day ⟨century, leapCycle, yearOfCycle, dayOfYear⟩ =
      century * 36524 + ofCentury := by
    simp only [SpanPosition.day]
    omega
  have first : min ((century * 36524 + ofCentury) / 36524) 3 = century := by omega
  have left : century * 36524 + ofCentury - century * 36524 = ofCentury :=
    Nat.add_sub_cancel_left _ _
  have second : ofCentury / 1461 = leapCycle := by omega
  have within : ofCentury % 1461 = ofCycle := by omega
  have third : min (ofCycle / 365) 3 = yearOfCycle := by omega
  have fourth : ofCycle - yearOfCycle * 365 = dayOfYear := by omega
  rw [whole, ofDay]
  simp only [first, left, second, within, third, fourth]

end SpanPosition

theorem monthAndDay_spec {dayOfYear : Nat} (bound : dayOfYear ≤ 365) :
    (monthAndDay dayOfYear).1 ≤ 11 ∧
      dayOfYear = (153 * (monthAndDay dayOfYear).1 + 2) / 5 + (monthAndDay dayOfYear).2 ∧
      dayOfYear < (153 * ((monthAndDay dayOfYear).1 + 1) + 2) / 5 := by
  simp only [monthAndDay]
  omega

theorem monthAndDay_eq {month day : Nat}
    (within : (153 * month + 2) / 5 + day < (153 * (month + 1) + 2) / 5) :
    monthAndDay ((153 * month + 2) / 5 + day) = (month, day) := by
  have found : (5 * ((153 * month + 2) / 5 + day) + 2) / 153 = month := by omega
  simp only [monthAndDay, found, Prod.mk.injEq, true_and]
  omega

/-- A date in years that begin on 1 March: whole months since then, and days since the first. -/
structure MarchDate where
  year : Int
  month : Nat
  day : Nat

namespace MarchDate

def date (march : MarchDate) : Date :=
  if march.month < 10 then ⟨march.year, march.month + 3, march.day + 1⟩
  else ⟨march.year + 1, march.month - 9, march.day + 1⟩

def dayOfYear (march : MarchDate) : Nat :=
  (153 * march.month + 2) / 5 + march.day

structure Proper (march : MarchDate) : Prop where
  inMonth : march.dayOfYear < (153 * (march.month + 1) + 2) / 5
  month : march.month ≤ 11
  dayOfYear : march.dayOfYear ≤ 365
  leapDay : march.dayOfYear = 365 → isLeapYear (march.year + 1) = true

def ofDate (date : Date) : MarchDate :=
  if date.month ≤ 2 then ⟨date.year - 1, date.month + 9, date.day - 1⟩
  else ⟨date.year, date.month - 3, date.day - 1⟩

theorem daysInMonth_date {march : MarchDate} (bound : march.month ≤ 11) :
    (153 * march.month + 2) / 5 + daysInMonth march.date.year march.date.month =
      min ((153 * (march.month + 1) + 2) / 5)
        (if isLeapYear (march.year + 1) then 366 else 365) := by
  obtain ⟨year, month, day⟩ := march
  dsimp only at bound ⊢
  cases leap : isLeapYear (year + 1) with
  | true => interval_cases month <;> simp [date, daysInMonth, leap]
  | false => interval_cases month <;> simp [date, daysInMonth, leap]

theorem proper_date_iff {march : MarchDate} (bound : march.month ≤ 11) :
    march.date.Proper ↔ march.Proper := by
  have length := daysInMonth_date bound
  have days : march.dayOfYear = (153 * march.month + 2) / 5 + march.day := rfl
  have day : march.date.day = march.day + 1 := by
    unfold date
    split <;> rfl
  have month : 1 ≤ march.date.month ∧ march.date.month ≤ 12 := by
    unfold date
    split <;> dsimp only <;> omega
  have proper : march.date.Proper ↔
      march.day + 1 ≤ daysInMonth march.date.year march.date.month := by
    unfold Date.Proper
    rw [day]
    omega
  rw [proper]
  cases leap : isLeapYear (march.year + 1) with
  | true =>
      rw [leap, if_pos rfl] at length
      constructor
      · intro inside
        exact ⟨by omega, bound, by omega, fun _ => leap⟩
      · rintro ⟨inMonth, _, ofYear, _⟩
        omega
  | false =>
      rw [leap, if_neg (by decide)] at length
      constructor
      · intro inside
        exact ⟨by omega, bound, by omega, fun last => by omega⟩
      · rintro ⟨inMonth, _, ofYear, leapDay⟩
        have common : march.dayOfYear ≠ 365 := by
          intro last
          rw [leapDay last] at leap
          cases leap
        omega

theorem date_ofDate {date : Date} (proper : date.Proper) : (ofDate date).date = date := by
  obtain ⟨year, month, day⟩ := date
  obtain ⟨lower, upper, first, last⟩ := proper
  dsimp only at lower upper first last
  have back : day - 1 + 1 = day := by omega
  by_cases early : month ≤ 2
  · have after : ¬month + 9 < 10 := by omega
    simp only [ofDate, if_pos early, MarchDate.date, if_neg after, back, Int.sub_add_cancel,
      Nat.add_sub_cancel]
  · have after : month - 3 < 10 := by omega
    have whole : month - 3 + 3 = month := by omega
    simp only [ofDate, if_neg early, MarchDate.date, if_pos after, back, whole]

theorem proper_ofDate {date : Date} (proper : date.Proper) : (ofDate date).Proper := by
  have bound : (ofDate date).month ≤ 11 := by
    obtain ⟨lower, upper, _, _⟩ := proper
    unfold ofDate
    split <;> dsimp only <;> omega
  rw [← proper_date_iff bound, date_ofDate proper]
  exact proper

def dayNumber (march : MarchDate) : Int :=
  march.year * 365 + leapDays march.year + march.dayOfYear - epochOffset

theorem dayNumber_date {march : MarchDate} (bound : march.month ≤ 11) :
    march.date.dayNumber = march.dayNumber := by
  obtain ⟨year, month, day⟩ := march
  dsimp only at bound
  by_cases early : month < 10
  · have shown : MarchDate.date ⟨year, month, day⟩ = ⟨year, month + 3, day + 1⟩ := if_pos early
    rw [shown]
    simp only [Date.dayNumber, dayNumber, leapDays, dayOfYear]
    rw [if_neg (by omega), if_neg (by omega)]
    omega
  · have shown : MarchDate.date ⟨year, month, day⟩ = ⟨year + 1, month - 9, day + 1⟩ :=
      if_neg early
    rw [shown]
    simp only [Date.dayNumber, dayNumber, leapDays, dayOfYear, Int.add_sub_cancel]
    rw [if_pos (by omega), if_pos (by omega)]
    omega

def ofPosition (span : Int) (position : SpanPosition) : MarchDate :=
  ⟨span * 400 + position.year, (monthAndDay position.dayOfYear).1,
    (monthAndDay position.dayOfYear).2⟩

theorem date_ofPosition (number : Int) :
    Date.ofDayNumber number =
      (ofPosition ((number + epochOffset) / 146097)
        (.ofDay ((number + epochOffset) % 146097).toNat)).date :=
  rfl

end MarchDate

theorem isLeapYear_span (span : Int) {position : SpanPosition} (proper : position.Proper) :
    isLeapYear (span * 400 + position.year + 1) = true ↔
      position.yearOfCycle = 3 ∧ (position.leapCycle = 24 → position.century = 3) := by
  obtain ⟨century, leapCycle, yearOfCycle, _, _⟩ := proper
  rw [isLeapYear_iff, SpanPosition.year]
  omega

theorem leapDays_span (span : Int) {position : SpanPosition} (proper : position.Proper) :
    (span * 400 + position.year) * 365 + leapDays (span * 400 + position.year) =
      span * 146097 + (position.day - position.dayOfYear : Int) := by
  obtain ⟨century, leapCycle, yearOfCycle, _, _⟩ := proper
  simp only [leapDays, SpanPosition.year, SpanPosition.day]
  omega

namespace MarchDate

variable (span : Int) {position : SpanPosition}

theorem dayOfYear_ofPosition (proper : position.Proper) :
    (ofPosition span position).dayOfYear = position.dayOfYear :=
  (monthAndDay_spec proper.dayOfYear).2.1.symm

theorem month_ofPosition (proper : position.Proper) : (ofPosition span position).month ≤ 11 :=
  (monthAndDay_spec proper.dayOfYear).1

theorem proper_ofPosition (proper : position.Proper) : (ofPosition span position).Proper := by
  have same := dayOfYear_ofPosition span proper
  refine ⟨?_, month_ofPosition span proper, ?_, ?_⟩
  · rw [same]
    exact (monthAndDay_spec proper.dayOfYear).2.2
  · rw [same]
    exact proper.dayOfYear
  · rw [same]
    intro last
    exact (isLeapYear_span span proper).mpr (proper.leapDay last)

theorem dayNumber_ofPosition (proper : position.Proper) :
    (ofPosition span position).dayNumber = span * 146097 + position.day - epochOffset := by
  have years := leapDays_span span proper
  rw [dayNumber, dayOfYear_ofPosition span proper, ofPosition, years]
  omega

end MarchDate

theorem MarchDate.exists_position {march : MarchDate} (proper : march.Proper) :
    ∃ span position, SpanPosition.Proper position ∧ march = ofPosition span position := by
  obtain ⟨year, month, day⟩ := march
  obtain ⟨inMonth, bound, ofYear, leapDay⟩ := proper
  dsimp only [dayOfYear] at inMonth bound ofYear leapDay
  obtain ⟨inSpan, place⟩ : ∃ inSpan : Nat, (inSpan : Int) = year % 400 :=
    ⟨(year % 400).toNat, Int.toNat_of_nonneg (by omega)⟩
  let position : SpanPosition :=
    ⟨inSpan / 100, inSpan % 100 / 4, inSpan % 4, (153 * month + 2) / 5 + day⟩
  refine ⟨year / 400, position, ⟨?_, ?_, ?_, ofYear, ?_⟩, ?_⟩
  · dsimp only [position]
    omega
  · dsimp only [position]
    omega
  · dsimp only [position]
    omega
  · intro last
    have leap := (isLeapYear_iff _).mp (leapDay last)
    dsimp only [position]
    omega
  · have years : year / 400 * 400 + position.year = year := by
      simp only [SpanPosition.year, position]
      omega
    rw [ofPosition, years, monthAndDay_eq inMonth]

namespace Date

theorem ofDayNumber_cases (number : Int) :
    ∃ span position, SpanPosition.Proper position ∧
      number = span * 146097 + position.day - epochOffset ∧
      ofDayNumber number = (MarchDate.ofPosition span position).date := by
  obtain ⟨inSpan, place⟩ : ∃ inSpan : Nat, (inSpan : Int) = (number + epochOffset) % 146097 :=
    ⟨((number + epochOffset) % 146097).toNat, Int.toNat_of_nonneg (by omega)⟩
  refine ⟨(number + epochOffset) / 146097, .ofDay inSpan, SpanPosition.proper_ofDay (by omega), ?_,
    ?_⟩
  · rw [SpanPosition.day_ofDay]
    omega
  · rw [MarchDate.date_ofPosition, ← place, Int.toNat_natCast]

theorem proper_ofDayNumber (number : Int) : (ofDayNumber number).Proper := by
  obtain ⟨span, position, proper, _, shown⟩ := ofDayNumber_cases number
  rw [shown, MarchDate.proper_date_iff (MarchDate.month_ofPosition span proper)]
  exact MarchDate.proper_ofPosition span proper

theorem dayNumber_ofDayNumber (number : Int) : (ofDayNumber number).dayNumber = number := by
  obtain ⟨span, position, proper, whole, shown⟩ := ofDayNumber_cases number
  rw [shown, MarchDate.dayNumber_date (MarchDate.month_ofPosition span proper),
    MarchDate.dayNumber_ofPosition span proper, whole]

theorem ofDayNumber_dayNumber {date : Date} (proper : date.Proper) :
    ofDayNumber date.dayNumber = date := by
  have marchProper := MarchDate.proper_ofDate proper
  obtain ⟨span, position, inSpan, same⟩ := MarchDate.exists_position marchProper
  have number : date.dayNumber = span * 146097 + position.day - epochOffset := by
    rw [← MarchDate.dayNumber_ofPosition span inSpan, ← same,
      ← MarchDate.dayNumber_date marchProper.month, MarchDate.date_ofDate proper]
  have bound := inSpan.day_lt
  have quotient : (date.dayNumber + epochOffset) / 146097 = span := by omega
  have rest : (date.dayNumber + epochOffset) % 146097 = position.day := by omega
  rw [MarchDate.date_ofPosition, quotient, rest, Int.toNat_natCast, inSpan.ofDay_day, ← same,
    MarchDate.date_ofDate proper]

theorem one_le_daysInMonth (year : Int) (month : Nat) : 1 ≤ daysInMonth year month := by
  unfold daysInMonth
  split_ifs <;> decide

theorem proper_next {date : Date} (proper : date.Proper) : date.next.Proper := by
  obtain ⟨lower, upper, first, last⟩ := proper
  unfold next
  split
  · rename_i inside
    exact ⟨lower, upper, by dsimp only; omega, inside⟩
  · split
    · exact ⟨by dsimp only; omega, by dsimp only; omega, Nat.le_refl _, one_le_daysInMonth _ _⟩
    · exact ⟨Nat.le_refl _, by dsimp only; decide, Nat.le_refl _, one_le_daysInMonth _ _⟩

theorem dayNumber_next {date : Date} (proper : date.Proper) :
    date.next.dayNumber = date.dayNumber + 1 := by
  obtain ⟨year, month, day⟩ := date
  obtain ⟨lower, upper, first, last⟩ := proper
  dsimp only at lower upper first last
  by_cases inside : day < daysInMonth year month
  · have shown : next ⟨year, month, day⟩ = ⟨year, month, day + 1⟩ := if_pos inside
    rw [shown]
    simp only [dayNumber]
    omega
  · obtain rfl : day = daysInMonth year month := by omega
    by_cases early : month < 12
    · have shown : next ⟨year, month, daysInMonth year month⟩ = ⟨year, month + 1, 1⟩ := by
        rw [next, if_neg inside, if_pos early]
      have leap := leapDays_sub_one year
      simp only [leapDays] at leap
      rw [shown]
      cases leapYear : isLeapYear year with
      | true =>
          rw [leapYear, if_pos rfl] at leap
          interval_cases month <;> simp [dayNumber, daysInMonth, leapYear] <;> omega
      | false =>
          rw [leapYear, if_neg (by decide)] at leap
          interval_cases month <;> simp [dayNumber, daysInMonth, leapYear] <;> omega
    · obtain rfl : month = 12 := by omega
      have shown : next ⟨year, 12, daysInMonth year 12⟩ = ⟨year + 1, 1, 1⟩ := by
        rw [next, if_neg inside, if_neg early]
      rw [shown]
      simp [dayNumber, daysInMonth]
      omega

theorem next_ofDayNumber (number : Int) : (ofDayNumber number).next = ofDayNumber (number + 1) := by
  have proper := proper_ofDayNumber number
  have counted := dayNumber_next proper
  rw [dayNumber_ofDayNumber] at counted
  rw [← ofDayNumber_dayNumber (proper_next proper), counted]

theorem Counted.eq_ofDayNumber {date : Date} {number : Int} (counted : Counted date number) :
    date = ofDayNumber number := by
  induction counted with
  | epoch => rfl
  | next _ ih => rw [ih, next_ofDayNumber]
  | previous proper _ ih =>
      have number := dayNumber_next proper
      rw [ih, dayNumber_ofDayNumber] at number
      rw [← ofDayNumber_dayNumber proper]
      congr 1
      omega

theorem counted_ofDayNumber (number : Int) : Counted (ofDayNumber number) number := by
  induction number using Int.induction_on with
  | zero => exact .epoch
  | succ count ih =>
      rw [← next_ofDayNumber]
      exact ih.next
  | pred count ih =>
      refine .previous (proper_ofDayNumber _) ?_
      rw [next_ofDayNumber, Int.sub_add_cancel]
      exact ih

/-- Counting the days one by one comes to the date that is computed, and to no other. -/
theorem counted_iff (date : Date) (number : Int) :
    Counted date number ↔ date = ofDayNumber number := by
  constructor
  · exact Counted.eq_ofDayNumber
  · rintro rfl
    exact counted_ofDayNumber number

example : Date.ofDayNumber 11016 = ⟨2000, 2, 29⟩ ∧ Date.ofDayNumber (-719529) = ⟨-1, 12, 31⟩ := by
  decide

end Date

end UptimeGreeter.Calendar
