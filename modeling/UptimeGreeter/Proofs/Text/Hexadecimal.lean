import Mathlib.Algebra.Group.Nat.Defs
import Mathlib.Data.List.Induction
import UptimeGreeter.Text.Numeral

/-!
The hexadecimal digits of a number give it back, and a few digits give a small number.
-/

namespace UptimeGreeter.Hexadecimal

theorem toNat_lt_of_isDigit {char : Char} (digit : isDigit char) : char.toNat < 128 := by
  simp only [isDigit, Char.isDigit, Bool.or_eq_true, Bool.and_eq_true, decide_eq_true_eq] at digit
  have bound {last : Char} (le : char ≤ last) : char.toNat ≤ last.toNat := UInt32.le_iff_toNat_le.mp le
  have nine : '9'.toNat = 57 := rfl
  have small : 'f'.toNat = 102 := rfl
  have capital : 'F'.toNat = 70 := rfl
  rcases digit with (⟨_, last⟩ | ⟨_, last⟩) | ⟨_, last⟩
  all_goals have := bound last
  all_goals omega

theorem digitValue_lt {char : Char} (digit : isDigit char) : digitValue char < 16 := by
  have small : ∀ code < 128, isDigit (Char.ofNat code) → digitValue (Char.ofNat code) < 16 := by
    decide
  have bounded := small char.toNat (toNat_lt_of_isDigit digit)
  rw [Char.ofNat_toNat] at bounded
  exact bounded digit

theorem value_append_singleton (digits : List Char) (char : Char) :
    value (digits ++ [char]) = value digits * 16 + digitValue char := by
  simp [value]

theorem value_lt {digits : List Char} (all : ∀ char ∈ digits, isDigit char) :
    value digits < 16 ^ digits.length := by
  induction digits using List.reverseRecOn with
  | nil => simp [value]
  | append_singleton digits char ih =>
      simp only [List.forall_mem_append, List.forall_mem_singleton] at all
      have front := ih all.1
      have last := digitValue_lt all.2
      rw [value_append_singleton, List.length_append, List.length_singleton, Nat.pow_succ]
      omega

theorem isDigit_digitChar : ∀ digit < 16, isDigit digit.digitChar := by
  decide

theorem digitValue_digitChar : ∀ digit < 16, digitValue digit.digitChar = digit := by
  decide

theorem isDigit_of_mem_toDigits {number : Nat} {char : Char}
    (member : char ∈ Nat.toDigits 16 number) : isDigit char := by
  induction number using Nat.strongRecOn with
  | ind number ih =>
      rw [Nat.toDigits_eq_if (by decide)] at member
      split at member
      · rename_i small
        rw [List.mem_singleton.mp member]
        exact isDigit_digitChar number small
      · rcases List.mem_append.mp member with front | last
        · exact ih (number / 16) (by omega) front
        · rw [List.mem_singleton.mp last]
          exact isDigit_digitChar _ (Nat.mod_lt _ (by decide))

theorem value_toDigits (number : Nat) : value (Nat.toDigits 16 number) = number := by
  induction number using Nat.strongRecOn with
  | ind number ih =>
      rw [Nat.toDigits_eq_if (by decide)]
      split
      · rename_i small
        simp [value, digitValue_digitChar number small]
      · rw [value_append_singleton, ih (number / 16) (by omega),
          digitValue_digitChar _ (Nat.mod_lt _ (by decide))]
        omega

end UptimeGreeter.Hexadecimal
