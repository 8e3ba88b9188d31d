import Mathlib.Data.List.Shortlex
import UptimeGreeter.Proofs.Decimal.Numeral

/-!
Numerals of one width stand in the order of their numbers, so a number has one numeral of each
width. Of two numerals without needless digits, the longer one has the greater number.
-/

namespace UptimeGreeter.Decimal

def digitValue (char : Char) : Nat :=
  char.toNat - '0'.toNat

theorem digitValue_lt {char : Char} (digit : char.isDigit) : digitValue char < 10 := by
  have bounds := Char.isDigit_iff_toNat.mp digit
  have zero : '0'.toNat = 48 := rfl
  have nine : '9'.toNat = 57 := rfl
  simp only [digitValue]
  omega

theorem lt_of_digitValue_lt {char other : Char} (less : digitValue char < digitValue other) :
    char < other := by
  simp only [digitValue] at less
  rw [Char.lt_def, UInt32.lt_iff_toNat_lt]
  change char.toNat < other.toNat
  omega

theorem eq_of_digitValue_eq {char other : Char} (digit : char.isDigit) (otherDigit : other.isDigit)
    (same : digitValue char = digitValue other) : char = other := by
  have bounds := Char.isDigit_iff_toNat.mp digit
  have otherBounds := Char.isDigit_iff_toNat.mp otherDigit
  simp only [digitValue] at same
  apply Char.toNat_inj.mp
  omega

/-- What stands behind a digit never makes up for a greater one. -/
theorem leading_lt {place tail first second : Nat} (below : tail < place) (less : first < second) :
    place * first + tail < place * second := by
  have apart : place * (first + 1) ≤ place * second := Nat.mul_le_mul_left _ less
  rw [Nat.mul_add, Nat.mul_one] at apart
  omega

namespace Numeral

variable {width otherWidth number other : Nat} {text otherText : List Char}

theorem exists_cons (numeral : Numeral (width + 1) text number) :
    ∃ char rest tail, text = char :: rest ∧ char.isDigit ∧ Numeral width rest tail ∧
      number = 10 ^ width * digitValue char + tail := by
  obtain ⟨length, digits, value⟩ := numeral
  obtain ⟨char, rest, rfl⟩ := List.exists_cons_of_length_eq_add_one length
  have rest_length : rest.length = width := by simpa using length
  refine ⟨char, rest, Nat.ofDigitChars 10 rest 0, rfl, digits char List.mem_cons_self, ?_, ?_⟩
  · exact ⟨rest_length, fun other inside => digits other (List.mem_cons_of_mem _ inside), rfl⟩
  · rw [← value, Nat.ofDigitChars_cons, Nat.ofDigitChars_eq_ofDigitChars_zero, rest_length]
    simp [digitValue]

theorem lt_pow (numeral : Numeral width text number) : number < 10 ^ width := by
  induction width generalizing text number with
  | zero =>
      obtain rfl := List.length_eq_zero_iff.mp numeral.length
      have value := numeral.value
      simp only [Nat.ofDigitChars_nil] at value
      omega
  | succ width ih =>
      obtain ⟨char, rest, tail, rfl, digit, later, rfl⟩ := numeral.exists_cons
      exact leading_lt (ih later) (digitValue_lt digit)

theorem head?_eq_zero_iff (numeral : Numeral (width + 1) text number) :
    text.head? = some '0' ↔ number < 10 ^ width := by
  obtain ⟨char, rest, tail, rfl, digit, later, rfl⟩ := numeral.exists_cons
  have below := later.lt_pow
  rw [List.head?_cons, Option.some.injEq]
  constructor
  · rintro rfl
    simpa [digitValue] using below
  · intro small
    apply eq_of_digitValue_eq digit rfl
    have zero : digitValue '0' = 0 := rfl
    by_contra nonzero
    have room : 10 ^ width ≤ 10 ^ width * digitValue char :=
      Nat.le_mul_of_pos_right _ (by omega)
    omega

theorem lex_of_lt (numeral : Numeral width text number)
    (otherNumeral : Numeral width otherText other) (less : number < other) :
    List.Lex (· < ·) text otherText := by
  induction width generalizing text otherText number other with
  | zero =>
      have below := otherNumeral.lt_pow
      omega
  | succ width ih =>
      obtain ⟨char, rest, tail, rfl, digit, later, rfl⟩ := numeral.exists_cons
      obtain ⟨char', rest', tail', rfl, digit', later', rfl⟩ := otherNumeral.exists_cons
      rcases Nat.lt_trichotomy (digitValue char) (digitValue char') with first | same | greater
      · exact .rel (lt_of_digitValue_lt first)
      · obtain rfl := eq_of_digitValue_eq digit digit' same
        exact .cons (ih later later' (by omega))
      · have apart := leading_lt later'.lt_pow greater
        omega

theorem unique (numeral : Numeral width text number)
    (otherNumeral : Numeral width otherText number) : text = otherText := by
  induction width generalizing text otherText number with
  | zero =>
      rw [List.length_eq_zero_iff.mp numeral.length, List.length_eq_zero_iff.mp otherNumeral.length]
  | succ width ih =>
      obtain ⟨char, rest, tail, rfl, digit, later, rfl⟩ := numeral.exists_cons
      obtain ⟨char', rest', tail', rfl, digit', later', same⟩ := otherNumeral.exists_cons
      rcases Nat.lt_trichotomy (digitValue char) (digitValue char') with less | equal | greater
      · have apart := leading_lt later.lt_pow less
        omega
      · obtain rfl := eq_of_digitValue_eq digit digit' equal
        obtain rfl : tail = tail' := by omega
        rw [ih later later']
      · have apart := leading_lt later'.lt_pow greater
        omega

theorem fewest_iff (numeral : Numeral width text number) {least : Nat} (wide : least ≤ width) :
    Fewest least width number ↔ (least < width → text.head? ≠ some '0') := by
  cases width with
  | zero => simp [Fewest, wide]
  | succ width => simp [Fewest, wide, numeral.head?_eq_zero_iff]

end Numeral

theorem Fewest.width_le {least width otherWidth number other : Nat}
    (fewest : Fewest least width number) (wide : least ≤ otherWidth) (order : number ≤ other)
    (fits : other < 10 ^ otherWidth) : width ≤ otherWidth := by
  by_contra longer
  have needed := fewest.2 (by omega)
  have grown : 10 ^ otherWidth ≤ 10 ^ (width - 1) := Nat.pow_le_pow_right (by decide) (by omega)
  omega

theorem fewest_toDigits (number : Nat) : Fewest 1 (Nat.toDigits 10 number).length number := by
  have positive : 0 < (Nat.toDigits 10 number).length := Nat.length_toDigits_pos
  have fewest := fewest_padded Nat.one_pos number
  rwa [Nat.max_eq_right positive] at fewest

theorem Numeral.eq_toDigits {width number : Nat} {text : List Char}
    (numeral : Numeral width text number) (fewest : Fewest 1 width number) :
    text = Nat.toDigits 10 number := by
  have plain := numeral_toDigits number
  have notLonger := fewest.width_le Nat.length_toDigits_pos (Nat.le_refl _) plain.lt_pow
  have notShorter := (fewest_toDigits number).width_le fewest.1 (Nat.le_refl _) numeral.lt_pow
  rw [Nat.le_antisymm notLonger notShorter] at numeral
  exact numeral.unique plain

end UptimeGreeter.Decimal
