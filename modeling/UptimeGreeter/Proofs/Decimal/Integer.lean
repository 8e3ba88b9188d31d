import UptimeGreeter.Text.Numeral

/-!
Reading an integer under limits gives the number that its digits write, and fails exactly on texts
that write none or one beyond the limits. Leading zeros make no difference.
-/

namespace UptimeGreeter.Decimal

def IsDigits (text : List Char) : Prop :=
  text ≠ [] ∧ ∀ char ∈ text, char.isDigit

inductive Writes : List Char → Int → Prop
  | bare {digits : List Char} : IsDigits digits → Writes digits (Nat.ofDigitChars 10 digits 0)
  | plus {digits : List Char} : IsDigits digits →
      Writes ('+' :: digits) (Nat.ofDigitChars 10 digits 0)
  | minus {digits : List Char} : IsDigits digits →
      Writes ('-' :: digits) (-Nat.ofDigitChars 10 digits 0)

theorem le_ofDigitChars (text : List Char) (magnitude : Nat) :
    magnitude ≤ Nat.ofDigitChars 10 text magnitude := by
  induction text generalizing magnitude with
  | nil => simp
  | cons char rest ih =>
      rw [Nat.ofDigitChars_cons]
      have tail := ih (10 * magnitude + (char.toNat - '0'.toNat))
      omega

theorem readMagnitude_eq_ok_iff (limit : Nat) (excess : IntegerFault) (magnitude : Nat)
    (text : List Char) (value : Nat) (bound : magnitude ≤ limit) :
    readMagnitude limit excess magnitude text = .ok value ↔
      (∀ char ∈ text, char.isDigit) ∧ Nat.ofDigitChars 10 text magnitude = value ∧
        value ≤ limit := by
  induction text generalizing magnitude with
  | nil =>
      simp only [readMagnitude, Except.ok.injEq, List.not_mem_nil, false_implies, implies_true,
        Nat.ofDigitChars_nil, true_and]
      constructor
      · rintro rfl
        exact ⟨rfl, bound⟩
      · exact And.left
  | cons char rest ih =>
      simp only [readMagnitude, List.forall_mem_cons, Nat.ofDigitChars_cons]
      rw [Nat.mul_comm magnitude 10]
      by_cases digit : char.isDigit
      · by_cases small : 10 * magnitude + (char.toNat - '0'.toNat) ≤ limit
        · simp only [digit, if_true, small, ih _ small, true_and]
        · simp only [digit, if_true, small, if_false, reduceCtorEq, true_and, false_iff]
          rintro ⟨_, rfl, below⟩
          exact small (Nat.le_trans (le_ofDigitChars rest _) below)
      · simp [digit]

theorem readDigits_eq_ok_iff (limit : Nat) (excess : IntegerFault) (text : List Char)
    (value : Nat) :
    readDigits limit excess text = .ok value ↔
      IsDigits text ∧ Nat.ofDigitChars 10 text 0 = value ∧ value ≤ limit := by
  cases text with
  | nil => simp [readDigits, IsDigits]
  | cons char rest =>
      simp only [readDigits, List.isEmpty_cons, Bool.false_eq_true, if_false, IsDigits,
        ne_eq, reduceCtorEq, not_false_eq_true, true_and]
      exact readMagnitude_eq_ok_iff limit excess 0 (char :: rest) value (Nat.zero_le _)

theorem signed_readDigits_eq_ok_iff (limit : Nat) (excess : IntegerFault) (text : List Char)
    (sign : Int → Int) (value : Int) :
    Except.map sign (readDigits limit excess text >>= fun magnitude => pure (magnitude : Int)) =
        .ok value ↔
      IsDigits text ∧ sign (Nat.ofDigitChars 10 text 0) = value ∧
        Nat.ofDigitChars 10 text 0 ≤ limit := by
  constructor
  · intro read
    cases found : readDigits limit excess text with
    | error fault =>
        rw [found] at read
        cases read
    | ok magnitude =>
        obtain ⟨digits, rfl, bound⟩ := (readDigits_eq_ok_iff _ _ _ _).mp found
        rw [found] at read
        exact ⟨digits, Except.ok.inj read, bound⟩
  · rintro ⟨digits, rfl, bound⟩
    rw [(readDigits_eq_ok_iff _ _ _ _).mpr ⟨digits, rfl, bound⟩]
    rfl

theorem readSigned_eq_ok_iff (width : Nat) (text : List Char) (value : Int) :
    readSigned width text = .ok value ↔
      Writes text value ∧ -Nat.pow 2 (width - 1) ≤ value ∧ value < Nat.pow 2 (width - 1) := by
  have positive : 0 < Nat.pow 2 (width - 1) := Nat.two_pow_pos _
  fun_cases readSigned width text with
  | case1 =>
      simp only [reduceCtorEq, false_iff]
      rintro ⟨writes, _⟩
      cases writes with
      | bare digits => exact digits.1 rfl
  | case2 digits =>
      rw [signed_readDigits_eq_ok_iff]
      constructor
      · rintro ⟨isDigits, rfl, bound⟩
        exact ⟨.minus isDigits, by omega, by omega⟩
      · rintro ⟨writes, lower, _⟩
        cases writes with
        | bare isDigits => exact absurd (isDigits.2 '-' List.mem_cons_self) (by decide)
        | minus isDigits => exact ⟨isDigits, rfl, by omega⟩
  | case3 digits =>
      rw [signed_readDigits_eq_ok_iff]
      constructor
      · rintro ⟨isDigits, rfl, bound⟩
        exact ⟨.plus isDigits, by omega, by omega⟩
      · rintro ⟨writes, _, upper⟩
        cases writes with
        | bare isDigits => exact absurd (isDigits.2 '+' List.mem_cons_self) (by decide)
        | plus isDigits => exact ⟨isDigits, rfl, by omega⟩
  | case4 digits notEmpty noMinus noPlus =>
      rw [signed_readDigits_eq_ok_iff]
      constructor
      · rintro ⟨isDigits, rfl, bound⟩
        exact ⟨.bare isDigits, by omega, by omega⟩
      · rintro ⟨writes, _, upper⟩
        cases writes with
        | bare isDigits => exact ⟨isDigits, rfl, by omega⟩
        | plus isDigits => exact absurd rfl (noPlus _)
        | minus isDigits => exact absurd rfl (noMinus _)

end UptimeGreeter.Decimal
