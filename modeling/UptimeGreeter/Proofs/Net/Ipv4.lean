import UptimeGreeter.Net.Ipv4
import UptimeGreeter.Proofs.Decimal.NumeralOrder
import UptimeGreeter.Proofs.Text.Pieces

/-!
Dotted forms of IPv4 addresses. There is one for each address, the text it is written as, and no
other text is read as one.
-/

namespace UptimeGreeter.Net

structure WritesOctet (text : List Char) (octet : UInt8) : Prop where
  digits : Decimal.IsDigits text
  noZero : text.head? = some '0' → text.length = 1
  value : Nat.ofDigitChars 10 text 0 = octet.toNat

def WritesDotted (text : List Char) (address : Ipv4) : Prop :=
  ∃ first second third fourth, text = ['.'].intercalate [first, second, third, fourth] ∧
    WritesOctet first address.first ∧ WritesOctet second address.second ∧
    WritesOctet third address.third ∧ WritesOctet fourth address.fourth

theorem writesOctet_iff (text : List Char) (octet : UInt8) :
    WritesOctet text octet ↔ text = Nat.toDigits 10 octet.toNat := by
  constructor
  · intro writes
    have nonempty := List.length_pos_of_ne_nil writes.digits.1
    have numeral : Decimal.Numeral text.length text octet.toNat :=
      ⟨rfl, writes.digits.2, writes.value⟩
    apply numeral.eq_toDigits
    rw [numeral.fewest_iff nonempty]
    intro longer zero
    have single := writes.noZero zero
    omega
  · rintro rfl
    have positive : 0 < (Nat.toDigits 10 octet.toNat).length := Nat.length_toDigits_pos
    have numeral := Decimal.numeral_toDigits octet.toNat
    have fewest := Decimal.fewest_toDigits octet.toNat
    rw [numeral.fewest_iff positive] at fewest
    refine ⟨⟨List.ne_nil_of_length_pos positive, numeral.digits⟩, ?_, numeral.value⟩
    intro zero
    by_contra longer
    exact fewest (by omega) zero

theorem WritesOctet.length_le {text : List Char} {octet : UInt8} (writes : WritesOctet text octet) :
    text.length ≤ 3 := by
  have bound : octet.toNat < 256 := octet.toNat_lt
  rw [(writesOctet_iff _ _).mp writes, Nat.length_toDigits_le_iff (by decide) (by decide)]
  omega

theorem WritesOctet.not_mem {text : List Char} {octet : UInt8} (writes : WritesOctet text octet)
    {mark : Char} (noDigit : mark.isDigit = false) : mark ∉ text :=
  not_mem_of_forall writes.digits.2 noDigit

theorem WritesDotted.not_mem {text : List Char} {address : Ipv4}
    (writes : WritesDotted text address) {mark : Char} (noDigit : mark.isDigit = false)
    (noDot : mark ≠ '.') : mark ∉ text := by
  obtain ⟨first, second, third, fourth, rfl, one, two, three, four⟩ := writes
  simp [List.intercalate, one.not_mem noDigit, two.not_mem noDigit, three.not_mem noDigit,
    four.not_mem noDigit, noDot]

theorem WritesDotted.dot_mem {text : List Char} {address : Ipv4}
    (writes : WritesDotted text address) : '.' ∈ text := by
  obtain ⟨first, second, third, fourth, rfl, _⟩ := writes
  simp [List.intercalate]

namespace Ipv4

theorem octet?_eq_some_iff (text : List Char) (octet : UInt8) :
    octet? text = some octet ↔ WritesOctet text octet := by
  constructor
  · intro read
    rw [octet?] at read
    split at read
    · rename_i short
      split at read
      · rename_i value found
        obtain ⟨digits, rfl⟩ := (Decimal.natural?_eq_some_iff _ _).mp found
        split at read
        · rename_i small
          obtain rfl := Option.some.inj read
          refine ⟨digits, short.2, ?_⟩
          rw [UInt8.toNat_ofNat', Nat.mod_eq_of_lt small]
        · cases read
      · cases read
    · cases read
  · intro writes
    have bound : octet.toNat < 256 := octet.toNat_lt
    have found := (Decimal.natural?_eq_some_iff _ _).mpr ⟨writes.digits, writes.value⟩
    rw [octet?, if_pos ⟨writes.length_le, writes.noZero⟩, found]
    simp only [bound, if_true, UInt8.ofNat_toNat]

theorem toList_text (address : Ipv4) :
    address.text.toList = ['.'].intercalate
      [Nat.toDigits 10 address.first.toNat, Nat.toDigits 10 address.second.toNat,
        Nat.toDigits 10 address.third.toNat, Nat.toDigits 10 address.fourth.toNat] := by
  have octet (number : UInt8) : (toString number).toList = Nat.toDigits 10 number.toNat :=
    Decimal.toList_toString number.toNat
  have dot : (toString ".").toList = ['.'] := rfl
  simp [text, octet, dot, List.intercalate]

theorem writesDotted_iff (text : List Char) (address : Ipv4) :
    WritesDotted text address ↔ text = address.text.toList := by
  rw [toList_text]
  constructor
  · rintro ⟨first, second, third, fourth, rfl, one, two, three, four⟩
    rw [writesOctet_iff] at one two three four
    rw [one, two, three, four]
  · rintro rfl
    exact ⟨_, _, _, _, rfl, (writesOctet_iff _ _).mpr rfl, (writesOctet_iff _ _).mpr rfl,
      (writesOctet_iff _ _).mpr rfl, (writesOctet_iff _ _).mpr rfl⟩

theorem ofChars?_eq_some_iff (text : List Char) (address : Ipv4) :
    ofChars? text = some address ↔ WritesDotted text address := by
  constructor
  · intro read
    rw [ofChars?] at read
    split at read
    · rename_i first second third fourth cut
      simp only [Option.bind_eq_bind, Option.bind_eq_some_iff, Option.pure_def,
        Option.some.injEq] at read
      obtain ⟨one, readOne, two, readTwo, three, readThree, four, readFour, rfl⟩ := read
      rw [octet?_eq_some_iff] at readOne readTwo readThree readFour
      obtain ⟨_, joined, _⟩ := (Split.all_eq_iff _ _ _).mp cut
      exact ⟨first, second, third, fourth, joined.symm, readOne, readTwo, readThree, readFour⟩
    · cases read
  · rintro ⟨first, second, third, fourth, joined, one, two, three, four⟩
    have cut : Split.all '.' text = [first, second, third, fourth] := by
      rw [Split.all_eq_iff]
      refine ⟨List.cons_ne_nil _ _, joined.symm, ?_⟩
      simp only [List.forall_mem_cons, List.not_mem_nil, false_implies, implies_true, and_true]
      exact ⟨one.not_mem rfl, two.not_mem rfl, three.not_mem rfl, four.not_mem rfl⟩
    rw [ofChars?, cut]
    simp only [(octet?_eq_some_iff _ _).mpr one, (octet?_eq_some_iff _ _).mpr two,
      (octet?_eq_some_iff _ _).mpr three, (octet?_eq_some_iff _ _).mpr four]
    rfl

end Ipv4

end UptimeGreeter.Net
