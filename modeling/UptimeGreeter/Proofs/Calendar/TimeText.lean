import UptimeGreeter.Proofs.Calendar.CivilTime

/-!
The text of a timestamp is a civil time that tells it, whatever the sign of its year, the length of
its fraction, or the leap second it may be in.
-/

namespace UptimeGreeter.Calendar

open Decimal (Numeral padded)

theorem writesYear_yearText (year : Int) : WritesYear year (yearText year).toList := by
  have numeral := Decimal.numeral_padded 4 year.natAbs
  have fewest : Decimal.Fewest 4 _ year.natAbs := Decimal.fewest_padded (by decide) _
  unfold yearText
  split
  · have same : year = -(year.natAbs : Int) := by omega
    rw [String.toList_append]
    nth_rewrite 1 [same]
    exact .before (by omega) numeral fewest
  · have same : (year.natAbs : Int) = year := by omega
    split
    · have small := Decimal.numeral_padded_of_lt (by decide) (by omega : year.natAbs < 10 ^ 4)
      nth_rewrite 1 [← same]
      exact .plain (by omega) small
    · rw [String.toList_append]
      nth_rewrite 1 [← same]
      exact .after (by omega) numeral fewest

theorem daysInMonth_le (year : Int) (month : Nat) : daysInMonth year month ≤ 31 := by
  unfold daysInMonth
  split_ifs <;> decide

theorem writesDate_text {date : Date} (proper : date.Proper) :
    WritesDate date date.text.toList := by
  obtain ⟨_, month, _, day⟩ := proper
  have longest := daysInMonth_le date.year date.month
  have monthNumeral := Decimal.numeral_padded_of_lt (by decide) (by omega : date.month < 10 ^ 2)
  have dayNumeral := Decimal.numeral_padded_of_lt (by decide) (by omega : date.day < 10 ^ 2)
  have hyphen : "-".toList = ['-'] := rfl
  have shape : date.text.toList = (yearText date.year).toList ++
      '-' :: ((padded 2 date.month).toList ++ '-' :: (padded 2 date.day).toList) := by
    simp only [Date.text, String.toList_append, hyphen, List.append_assoc, List.cons_append,
      List.nil_append]
  rw [shape]
  exact .parts (writesYear_yearText date.year) monthNumeral dayNumeral

namespace ShowsFraction

theorem none : ShowsFraction [] 0 where
  width := by decide
  value := rfl
  fewest := fun width _ shorter => absurd shorter (Nat.not_lt_zero width)

theorem of_numeral {places number nanoseconds : Nat} {digits : List Char}
    (numeral : Numeral (places + 3) digits number) (listed : places ∈ [0, 3, 6])
    (value : number * 10 ^ (9 - (places + 3)) = nanoseconds)
    (needed : ¬10 ^ (9 - places) ∣ nanoseconds) : ShowsFraction digits nanoseconds := by
  have places : places = 0 ∨ places = 3 ∨ places = 6 := by simpa using listed
  constructor
  · rw [numeral.length]
    rcases places with rfl | rfl | rfl <;> decide
  · rw [numeral.value, numeral.length, value]
  · intro width listed shorter divides
    have widths : width = 0 ∨ width = 3 ∨ width = 6 ∨ width = 9 := by simpa using listed
    rw [numeral.length] at shorter
    exact needed (Nat.dvd_trans (Nat.pow_dvd_pow 10 (by omega)) divides)

end ShowsFraction

theorem withPoint_padded (width number : Nat) (positive : 0 < width) :
    ("." ++ padded width number).toList = withPoint (padded width number).toList := by
  have numeral := Decimal.numeral_padded width number
  have nonempty : (padded width number).toList ≠ [] := by
    rw [← List.length_pos_iff, numeral.length]
    omega
  rw [withPoint_of_ne_nil nonempty, String.toList_append]
  rfl

theorem exists_fraction {nanoseconds : Nat} (bound : nanoseconds < 1000000000) :
    ∃ digits, (Timestamp.fractionText nanoseconds).toList = withPoint digits ∧
      (∀ char ∈ digits, char.isDigit) ∧ ShowsFraction digits nanoseconds := by
  unfold Timestamp.fractionText
  split
  · rename_i zero
    rw [zero]
    exact ⟨[], rfl, by simp, .none⟩
  · split
    · have numeral := Decimal.numeral_padded_of_lt (by decide)
        (by omega : nanoseconds / 1000000 < 10 ^ 3)
      exact ⟨_, withPoint_padded 3 _ (by decide), numeral.digits,
        .of_numeral numeral (by decide) (by omega) (by omega)⟩
    · split
      · have numeral := Decimal.numeral_padded_of_lt (by decide)
          (by omega : nanoseconds / 1000 < 10 ^ 6)
        exact ⟨_, withPoint_padded 6 _ (by decide), numeral.digits,
          .of_numeral numeral (by decide) (by omega) (by omega)⟩
      · have numeral := Decimal.numeral_padded_of_lt (by decide) (by omega : nanoseconds < 10 ^ 9)
        exact ⟨_, withPoint_padded 9 _ (by decide), numeral.digits,
          .of_numeral numeral (by decide) (by omega) (by omega)⟩

namespace Timestamp

variable (timestamp : Timestamp)

theorem secondOfDay_lt : timestamp.secondOfDay < 86400 := by
  unfold secondOfDay
  omega

theorem second_le : timestamp.second ≤ 60 := by
  unfold second
  split <;> omega

theorem hour_le : timestamp.hour ≤ 23 := by
  have bound := timestamp.secondOfDay_lt
  unfold hour
  omega

theorem minute_le : timestamp.minute ≤ 59 := by
  unfold minute
  omega

theorem secondOfDay_of_leap (leap : 1000000000 ≤ timestamp.nanoseconds) :
    timestamp.secondOfDay % 60 = 59 := by
  obtain ⟨seconds, nanoseconds, lower, upper, inSecond⟩ := timestamp
  unfold secondOfDay
  dsimp only at leap ⊢
  omega

theorem second_eq_iff : timestamp.second = 60 ↔ 1000000000 ≤ timestamp.nanoseconds := by
  have last := timestamp.secondOfDay_of_leap
  unfold second isLeapSecond
  simp only [decide_eq_true_eq]
  split <;> omega

theorem ofDay_eq : timestamp.hour * 3600 + timestamp.minute * 60 + min timestamp.second 59 =
    timestamp.secondOfDay := by
  have last := timestamp.secondOfDay_of_leap
  unfold hour minute second isLeapSecond
  simp only [decide_eq_true_eq]
  split <;> omega

theorem writesClock_timeText :
    WritesClock timestamp.hour timestamp.minute timestamp.second timestamp.timeText.toList := by
  have hour := timestamp.hour_le
  have minute := timestamp.minute_le
  have second := timestamp.second_le
  have hourNumeral := Decimal.numeral_padded_of_lt (by decide) (by omega : timestamp.hour < 10 ^ 2)
  have minuteNumeral :=
    Decimal.numeral_padded_of_lt (by decide) (by omega : timestamp.minute < 10 ^ 2)
  have secondNumeral :=
    Decimal.numeral_padded_of_lt (by decide) (by omega : timestamp.second < 10 ^ 2)
  have colon : ":".toList = [':'] := rfl
  have shape : timestamp.timeText.toList = (padded 2 timestamp.hour).toList ++
      ':' :: ((padded 2 timestamp.minute).toList ++ ':' :: (padded 2 timestamp.second).toList) := by
    simp only [timeText, String.toList_append, colon, List.append_assoc, List.cons_append,
      List.nil_append]
  rw [shape]
  exact .parts hourNumeral minuteNumeral secondNumeral

def civil (digits : List Char) : CivilTime :=
  ⟨timestamp.date, timestamp.hour, timestamp.minute, timestamp.second, digits⟩

theorem tells_civil {digits : List Char} (fraction : ShowsFraction digits timestamp.fraction) :
    (timestamp.civil digits).Tells timestamp.seconds timestamp.nanoseconds where
  proper := Date.proper_ofDayNumber _
  day := Date.counted_ofDayNumber _
  hour := timestamp.hour_le
  minute := timestamp.minute_le
  second := timestamp.second_le
  leapSecond := timestamp.second_eq_iff
  ofDay := by
    have whole := timestamp.ofDay_eq
    dsimp only [civil]
    rw [whole]
    exact Int.toNat_of_nonneg (by omega)
  fraction := fraction

/-- The text of a timestamp is that of a civil time, which tells it. -/
theorem exists_civil : ∃ time : CivilTime,
    time.Written timestamp.text.toList ∧ time.Tells timestamp.seconds timestamp.nanoseconds := by
  obtain ⟨digits, shown, all, fraction⟩ :=
    exists_fraction (Nat.mod_lt timestamp.nanoseconds (by decide))
  refine ⟨timestamp.civil digits, ?_, timestamp.tells_civil fraction⟩
  have mark : "T".toList = ['T'] := rfl
  have zone : "Z".toList = ['Z'] := rfl
  have shape : timestamp.text.toList = timestamp.date.text.toList ++
      'T' :: (timestamp.timeText.toList ++ (withPoint digits ++ ['Z'])) := by
    rw [← shown]
    simp only [text, String.toList_append, mark, zone, List.append_assoc, List.cons_append,
      List.nil_append]
    rfl
  rw [shape]
  exact .parts (writesDate_text (Date.proper_ofDayNumber _)) timestamp.writesClock_timeText all

theorem not_mem_text {mark : Char} (noDigit : mark.isDigit = false)
    (other : mark ∉ ['-', '+', 'T', ':', '.', 'Z']) : mark ∉ timestamp.text.toList := by
  obtain ⟨time, written, _⟩ := timestamp.exists_civil
  exact written.not_mem noDigit other

theorem isDigit_or_mark_of_mem_text {char : Char} (member : char ∈ timestamp.text.toList) :
    char.isDigit = true ∨ char ∈ ['-', '+', 'T', ':', '.', 'Z'] := by
  by_contra neither
  rw [not_or, Bool.not_eq_true] at neither
  exact timestamp.not_mem_text neither.1 neither.2 member

theorem read?_text : read? timestamp.text.toList = some timestamp := by
  obtain ⟨time, written, tells⟩ := timestamp.exists_civil
  exact read?_of_written written tells

end Timestamp

end UptimeGreeter.Calendar
