import UptimeGreeter.Proofs.Calendar.CivilTime

/-!
The date and time of RFC 3339, section 5.6. A civil time is written as one exactly if its year has
no sign.
-/

namespace UptimeGreeter.Calendar

open Decimal (Numeral)

namespace Rfc3339

inductive FullDate : List Char → Prop
  | parts {year month day : Nat} {yearText monthText dayText : List Char} :
      Numeral 4 yearText year → Numeral 2 monthText month → Numeral 2 dayText day →
        Date.Proper ⟨year, month, day⟩ →
          FullDate (yearText ++ '-' :: (monthText ++ '-' :: dayText))

inductive Clock : List Char → Prop
  | parts {hour minute second : Nat} {text : List Char} :
      WritesClock hour minute second text → hour ≤ 23 → minute ≤ 59 → second ≤ 60 → Clock text

inductive Fraction : List Char → Prop
  | absent : Fraction []
  | digits {digits : List Char} :
      digits ≠ [] → (∀ char ∈ digits, char.isDigit) → Fraction ('.' :: digits)

inductive Offset : List Char → Prop
  | zulu {mark : Char} : mark = 'Z' ∨ mark = 'z' → Offset [mark]
  | numeric {sign : Char} {hour minute : Nat} {hourText minuteText : List Char} :
      sign = '+' ∨ sign = '-' → Numeral 2 hourText hour → hour ≤ 23 →
        Numeral 2 minuteText minute → minute ≤ 59 →
          Offset (sign :: (hourText ++ ':' :: minuteText))

inductive DateTime : List Char → Prop
  | parts {date clock fraction offset : List Char} {mark : Char} :
      FullDate date → mark = 'T' ∨ mark = 't' → Clock clock → Fraction fraction → Offset offset →
        DateTime (date ++ mark :: (clock ++ (fraction ++ offset)))

theorem FullDate.exists_digit {text : List Char} (date : FullDate text) :
    ∃ first rest, text = first :: rest ∧ first.isDigit := by
  cases date with
  | @parts _ _ _ yearText _ _ year _ _ _ =>
      cases yearText with
      | nil => exact absurd year.length (by decide)
      | cons first digits => exact ⟨first, _, rfl, year.digits first List.mem_cons_self⟩

theorem DateTime.exists_digit {text : List Char} (dateTime : DateTime text) :
    ∃ first rest, text = first :: rest ∧ first.isDigit := by
  obtain ⟨date, _, _, _, _⟩ := dateTime
  obtain ⟨first, rest, rfl, digit⟩ := date.exists_digit
  exact ⟨first, _, rfl, digit⟩

theorem fraction_withPoint {digits : List Char} (all : ∀ char ∈ digits, char.isDigit) :
    Fraction (withPoint digits) := by
  cases digits with
  | nil => exact .absent
  | cons char rest => exact .digits (List.cons_ne_nil _ _) all

end Rfc3339

theorem CivilTime.Written.dateTime_iff {time : CivilTime} {text : List Char} {seconds : Int}
    {nanoseconds : Nat} (written : time.Written text) (tells : time.Tells seconds nanoseconds) :
    Rfc3339.DateTime text ↔ 0 ≤ time.date.year ∧ time.date.year ≤ 9999 := by
  obtain ⟨⟨year, month, day⟩, clock, digits⟩ := written
  constructor
  · intro dateTime
    obtain ⟨first, rest, whole, digit⟩ := dateTime.exists_digit
    cases year with
    | plain small _ => exact ⟨Int.natCast_nonneg _, Int.ofNat_le.mpr small⟩
    | before _ _ _ =>
        rw [← (List.cons.inj whole).1] at digit
        exact absurd digit (by decide)
    | after _ _ _ =>
        rw [← (List.cons.inj whole).1] at digit
        exact absurd digit (by decide)
  · rintro ⟨lower, upper⟩
    have clockTime := Rfc3339.Clock.parts clock tells.hour tells.minute tells.second
    have fraction := Rfc3339.fraction_withPoint digits
    cases year with
    | plain _ numeral =>
        have date := Rfc3339.FullDate.parts numeral month day tells.proper
        exact .parts date (.inl rfl) clockTime fraction (.zulu (.inl rfl))
    | before positive _ _ =>
        dsimp only at lower
        omega
    | after large _ _ =>
        dsimp only at upper
        omega

end UptimeGreeter.Calendar
