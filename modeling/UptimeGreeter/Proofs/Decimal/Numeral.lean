import Mathlib.Algebra.Group.Nat.Defs
import UptimeGreeter.Text.Numeral
import UptimeGreeter.Proofs.Decimal.Integer
import UptimeGreeter.Proofs.Text.Pieces

/-!
Numbers written with a fixed count of digits, and texts padded to such a count. What is padded reads
back as the number, and a number that fits takes exactly the digits it is given.
-/

namespace UptimeGreeter.Decimal

structure Numeral (width : Nat) (text : List Char) (number : Nat) : Prop where
  length : text.length = width
  digits : ∀ char ∈ text, char.isDigit
  value : Nat.ofDigitChars 10 text 0 = number

/-- A width of at least so many digits, and of no more than the number needs. -/
def Fewest (least width number : Nat) : Prop :=
  least ≤ width ∧ (least < width → 10 ^ (width - 1) ≤ number)

theorem natural?_eq_some_iff (text : List Char) (number : Nat) :
    natural? text = some number ↔ IsDigits text ∧ Nat.ofDigitChars 10 text 0 = number := by
  unfold natural? IsDigits
  cases text with
  | nil => simp
  | cons char rest =>
      by_cases bad : (char :: rest).any (!·.isDigit) = true
      · simp only [bad, Bool.or_true, if_true, reduceCtorEq, false_iff]
        rintro ⟨⟨_, digits⟩, _⟩
        obtain ⟨other, inside, noDigit⟩ := List.any_eq_true.mp bad
        simp [digits other inside] at noDigit
      · simp only [List.isEmpty_cons, Bool.false_or, bad, Bool.false_eq_true, if_false,
          Option.some.injEq]
        have digits : ∀ other ∈ char :: rest, other.isDigit := by simpa using bad
        exact ⟨fun value => ⟨⟨List.cons_ne_nil _ _, digits⟩, value⟩, And.right⟩

theorem natural?_of_numeral {width number : Nat} {text : List Char}
    (numeral : Numeral width text number) (positive : 0 < width) :
    natural? text = some number := by
  rw [natural?_eq_some_iff]
  refine ⟨⟨?_, numeral.digits⟩, numeral.value⟩
  rintro rfl
  have length := numeral.length
  rw [List.length_nil] at length
  omega

theorem Numeral.not_mem {width number : Nat} {text : List Char}
    (numeral : Numeral width text number) {mark : Char} (noDigit : mark.isDigit = false) :
    mark ∉ text :=
  not_mem_of_forall numeral.digits noDigit

theorem Numeral.once?_append {width number : Nat} {text : List Char}
    (numeral : Numeral width text number) (mark : Char) (noDigit : mark.isDigit = false)
    (rest : List Char) : Split.once? mark (text ++ mark :: rest) = some (text, rest) :=
  Split.once?_append mark text rest (numeral.not_mem noDigit)

theorem numeral_toDigits (number : Nat) :
    Numeral (Nat.toDigits 10 number).length (Nat.toDigits 10 number) number where
  length := rfl
  digits := fun _ inside => Nat.isDigit_of_mem_toDigits (by decide) (by decide) inside
  value := Nat.ofDigitChars_ten_toDigits

theorem isDigits_toDigits (number : Nat) : IsDigits (Nat.toDigits 10 number) :=
  ⟨List.ne_nil_of_length_pos Nat.length_toDigits_pos, (numeral_toDigits number).digits⟩

theorem natural?_toDigits (number : Nat) : natural? (Nat.toDigits 10 number) = some number := by
  rw [natural?_eq_some_iff]
  exact ⟨isDigits_toDigits number, (numeral_toDigits number).value⟩

theorem toList_toString (number : Nat) : (toString number).toList = Nat.toDigits 10 number := by
  rw [Nat.toString_eq_ofList_toDigits, String.toList_ofList]

theorem toList_padded (width number : Nat) :
    (padded width number).toList =
      List.replicate (width - (Nat.toDigits 10 number).length) '0' ++ Nat.toDigits 10 number := by
  rw [padded, String.toList_ofList, List.leftpad]

theorem numeral_padded (width number : Nat) :
    Numeral (max width (Nat.toDigits 10 number).length) (padded width number).toList number where
  length := by rw [padded, String.toList_ofList, List.length_leftpad]
  digits := by
    intro char inside
    rw [toList_padded, List.mem_append] at inside
    rcases inside with zero | digit
    · obtain rfl := List.eq_of_mem_replicate zero
      rfl
    · exact (numeral_toDigits number).digits char digit
  value := by
    rw [toList_padded, Nat.ofDigitChars_append, Nat.ofDigitChars_replicate_zero, Nat.mul_zero,
      (numeral_toDigits number).value]

theorem numeral_padded_of_lt {width number : Nat} (positive : 0 < width)
    (fits : number < 10 ^ width) : Numeral width (padded width number).toList number := by
  have short : (Nat.toDigits 10 number).length ≤ width :=
    (Nat.length_toDigits_le_iff (by decide) positive).mpr fits
  have numeral := numeral_padded width number
  rwa [Nat.max_eq_left short] at numeral

theorem fewest_padded {least : Nat} (positive : 0 < least) (number : Nat) :
    Fewest least (max least (Nat.toDigits 10 number).length) number := by
  refine ⟨Nat.le_max_left _ _, ?_⟩
  intro longer
  have large : ¬(Nat.toDigits 10 number).length ≤ (Nat.toDigits 10 number).length - 1 := by omega
  rw [Nat.length_toDigits_le_iff (by decide) (by omega), Nat.not_lt] at large
  rwa [Nat.max_eq_right (by omega)]

theorem natural?_padded (width number : Nat) :
    natural? (padded width number).toList = some number := by
  have positive : 0 < (Nat.toDigits 10 number).length := Nat.length_toDigits_pos
  exact natural?_of_numeral (numeral_padded width number) (by omega)

theorem not_mem_padded (width number : Nat) {mark : Char} (noDigit : mark.isDigit = false) :
    mark ∉ (padded width number).toList :=
  (numeral_padded width number).not_mem noDigit

end UptimeGreeter.Decimal
