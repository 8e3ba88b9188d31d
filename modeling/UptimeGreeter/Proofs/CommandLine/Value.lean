import UptimeGreeter.CommandLine.Assignment
import UptimeGreeter.Proofs.Decimal.Integer
import UptimeGreeter.Proofs.Text.Utf8

/-!
Which bytes are values of a setting, and what they assign to it.
-/

namespace UptimeGreeter.CommandLine

theorem readPort_eq_ok_iff (text : String) (number : UInt16) :
    readPort text = .ok number ↔ Decimal.Writes text.toList number.toNat := by
  have numberBound : number.toNat < 65536 := number.toNat_lt
  constructor
  · intro read
    simp only [readPort] at read
    split at read
    · simp at read
    · rename_i value found
      split at read
      · rename_i inRange
        have writes := ((Decimal.readSigned_eq_ok_iff _ _ _).mp found).1
        obtain rfl := Except.ok.inj read
        have same : ((UInt16.ofNat value.toNat).toNat : Int) = value := by
          rw [UInt16.toNat_ofNat']
          omega
        rwa [same]
      · simp at read
  · intro writes
    have found : Decimal.readSigned 64 text.toList = .ok (number.toNat : Int) := by
      have width : Nat.pow 2 (64 - 1) = 9223372036854775808 := rfl
      rw [Decimal.readSigned_eq_ok_iff, width]
      exact ⟨writes, by omega, by omega⟩
    have inRange : (0 : Int) ≤ number.toNat ∧ (number.toNat : Int) < 65536 := by omega
    simp only [readPort, found]
    rw [if_pos inRange]
    simp

def Sound (setting : Setting) (value : Bytes) : Prop :=
  ∃ text, value = Utf8.encode text ∧
    (setting = .port → ∃ number : UInt16, Decimal.Writes text.toList number.toNat)

inductive Assigns : Setting → Bytes → Assignment → Prop
  | host (text : String) : Assigns .host (Utf8.encode text) (.host text)
  | port (text : String) (number : UInt16) : Decimal.Writes text.toList number.toNat →
      Assigns .port (Utf8.encode text) (.port number)
  | absentProfile (text : String) :
      Assigns .absentProfile (Utf8.encode text) (.absentProfile text)
  | logLevel (text : String) : Assigns .logLevel (Utf8.encode text) (.logLevel text)

theorem Assigns.setting_eq {setting : Setting} {value : Bytes} {assignment : Assignment}
    (assigns : Assigns setting value assignment) : assignment.setting = setting := by
  cases assigns <;> rfl

theorem ofText_eq_ok_iff (setting : Setting) (text : String) (assignment : Assignment) :
    Assignment.ofText setting text = .ok assignment ↔
      Assigns setting (Utf8.encode text) assignment := by
  constructor
  · intro read
    cases setting with
    | host =>
        obtain rfl := Except.ok.inj read
        exact .host text
    | port =>
        simp only [Assignment.ofText] at read
        split at read
        · rename_i number found
          obtain rfl := Except.ok.inj read
          exact .port text number ((readPort_eq_ok_iff _ _).mp found)
        · simp at read
    | absentProfile =>
        obtain rfl := Except.ok.inj read
        exact .absentProfile text
    | logLevel =>
        obtain rfl := Except.ok.inj read
        exact .logLevel text
  · intro assigns
    generalize written : Utf8.encode text = value at assigns
    cases assigns with
    | host other =>
        obtain rfl := Utf8.encode_injective written
        rfl
    | port other number writes =>
        obtain rfl := Utf8.encode_injective written
        simp [Assignment.ofText, (readPort_eq_ok_iff _ _).mpr writes]
    | absentProfile other =>
        obtain rfl := Utf8.encode_injective written
        rfl
    | logLevel other =>
        obtain rfl := Utf8.encode_injective written
        rfl

theorem ofBytes_eq_ok_iff (setting : Setting) (value : Bytes) (assignment : Assignment) :
    Assignment.ofBytes setting value = .ok assignment ↔ Assigns setting value assignment := by
  simp only [Assignment.ofBytes]
  cases decoded : Utf8.decode? value with
  | some text =>
      obtain rfl := (Utf8.decode?_eq_some_iff _ _).mp decoded
      exact ofText_eq_ok_iff setting text assignment
  | none =>
      simp only [reduceCtorEq, false_iff]
      intro assigns
      cases assigns <;> simp at decoded

theorem Assigns.unique {setting : Setting} {value : Bytes} {left right : Assignment}
    (first : Assigns setting value left) (second : Assigns setting value right) : left = right := by
  rw [← ofBytes_eq_ok_iff] at first second
  exact Except.ok.inj (first.symm.trans second)

theorem sound_iff (setting : Setting) (value : Bytes) :
    Sound setting value ↔ ∃ assignment, Assigns setting value assignment := by
  constructor
  · rintro ⟨text, rfl, port⟩
    cases setting with
    | host => exact ⟨_, .host text⟩
    | port =>
        obtain ⟨number, writes⟩ := port rfl
        exact ⟨_, .port text number writes⟩
    | absentProfile => exact ⟨_, .absentProfile text⟩
    | logLevel => exact ⟨_, .logLevel text⟩
  · rintro ⟨assignment, assigns⟩
    cases assigns with
    | host text => exact ⟨text, rfl, by simp⟩
    | port text number writes => exact ⟨text, rfl, fun _ => ⟨number, writes⟩⟩
    | absentProfile text => exact ⟨text, rfl, by simp⟩
    | logLevel text => exact ⟨text, rfl, by simp⟩

theorem not_sound_of_error {setting : Setting} {value : Bytes} {fault : ValueFault}
    (read : Assignment.ofBytes setting value = .error fault) : ¬Sound setting value := by
  rw [sound_iff]
  rintro ⟨assignment, assigns⟩
  rw [(ofBytes_eq_ok_iff _ _ _).mpr assigns] at read
  cases read

end UptimeGreeter.CommandLine
