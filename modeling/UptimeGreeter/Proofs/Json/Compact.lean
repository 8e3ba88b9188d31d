import UptimeGreeter.Proofs.Decimal.NumeralOrder
import UptimeGreeter.Proofs.Json.Unambiguous

/-!
Objects of natural numbers and of texts without escapes, written with no blanks. Such a text denotes
the object of those members in their order, and nothing else.
-/

namespace UptimeGreeter.Json

def Plain (text : String) : Prop :=
  ∀ char ∈ text.toList, 0x20 ≤ char.toNat ∧ char ≠ '"' ∧ char ≠ '\\'

instance (text : String) : Decidable (Plain text) :=
  List.decidableBAll _ text.toList

inductive Scalar where
  | natural (number : Nat)
  | text (text : String)

namespace Scalar

def json : Scalar → Json
  | .natural value => .number (Nat.toDigits 10 value)
  | .text content => .string content

def written : Scalar → String
  | .natural value => toString value
  | .text content => "\"" ++ content ++ "\""

def Plain : Scalar → Prop
  | .natural _ => True
  | .text content => Json.Plain content

end Scalar

def writtenMember (member : String × Scalar) : String :=
  "\"" ++ member.1 ++ "\":" ++ member.2.written

def compact (members : List (String × Scalar)) : String :=
  "\x7b" ++ ",".intercalate (members.map writtenMember) ++ "\x7d"

def ofScalars (members : List (String × Scalar)) : Json :=
  .object (members.map fun member => (member.1, member.2.json))

theorem readsString_append {content : List Char}
    (plain : ∀ char ∈ content, 0x20 ≤ char.toNat ∧ char ≠ '"' ∧ char ≠ '\\') (rest : List Char) :
    ReadsString (content ++ '"' :: rest) content rest := by
  induction content with
  | nil => exact .closed rfl
  | cons char content ih =>
      rw [List.forall_mem_cons] at plain
      obtain ⟨⟨visible, noQuote, noEscape⟩, later⟩ := plain
      exact .more (.plain rfl visible noQuote noEscape) (ih later)

theorem isInteger_toDigits (number : Nat) : IsInteger (Nat.toDigits 10 number) := by
  refine ⟨Decimal.isDigits_toDigits number, ?_⟩
  intro zero
  have fewest := Decimal.fewest_toDigits number
  have numeral := Decimal.numeral_toDigits number
  obtain ⟨width, length⟩ := Nat.exists_eq_add_one.mpr fewest.1
  rw [length] at numeral fewest
  have small := numeral.head?_eq_zero_iff.mp zero
  rcases Nat.eq_zero_or_pos width with rfl | more
  · obtain rfl : number = 0 := by simpa using small
    rfl
  · exact absurd (fewest.2 (Nat.succ_lt_succ more)) (Nat.not_le.mpr small)

theorem isNumber_toDigits (number : Nat) : IsNumber (Nat.toDigits 10 number) := by
  have parts := IsNumber.parts (by simp : [] ∈ [[], ['-']]) (isInteger_toDigits number) .absent
    .absent
  rwa [List.nil_append, List.append_nil, List.append_nil] at parts

theorem Scalar.reads {scalar : Scalar} (plain : scalar.Plain) {rest : List Char}
    (stops : ∀ char ∈ rest.head?, isNumeric char = false) :
    Reads (.value scalar.json) (scalar.written.toList ++ rest) rest := by
  cases scalar with
  | natural number =>
      rw [written, Decimal.toList_toString]
      exact .leaf (.number rfl (isNumber_toDigits number) stops)
  | text text =>
      have quotation : "\"".toList = ['"'] := rfl
      have reads := Reads.leaf (.string rfl (readsString_append plain rest))
      rw [String.ofList_toList] at reads
      simpa [json, written, quotation] using reads

theorem toList_writtenMember (member : String × Scalar) :
    (writtenMember member).toList =
      '"' :: (member.1.toList ++ '"' :: ':' :: member.2.written.toList) := by
  have opening : "\"".toList = ['"'] := rfl
  have closing : "\":".toList = ['"', ':'] := rfl
  simp only [writtenMember, String.toList_append, opening, closing, List.append_assoc,
    List.cons_append, List.nil_append]

theorem exists_readsName {member : String × Scalar} (name : Plain member.1)
    (value : member.2.Plain) (rest : List Char)
    (stops : ∀ char ∈ rest.head?, isNumeric char = false) :
    ∃ source, ReadsName ((writtenMember member).toList ++ rest) member.1 source ∧
      Reads (.value member.2.json) (skipBlanks source) rest := by
  have reads := Scalar.reads value stops
  have named := readsString_append name (':' :: (member.2.written.toList ++ rest))
  refine ⟨member.2.written.toList ++ rest, ?_, ?_⟩
  · rw [← String.ofList_toList (s := member.1)]
    refine .quoted ?_ named rfl
    rw [toList_writtenMember, List.cons_append, List.append_assoc]
    rfl
  · rwa [reads.skipBlanks_eq]

/-- The members of an object, with the brace behind them. The mark behind a value is there to end it,
for a number goes on as far as it can. -/
theorem reads_members {members : List (String × Scalar)}
    (plain : ∀ member ∈ members, Plain member.1 ∧ member.2.Plain) (rest : List Char) :
    Reads (.members (members.map fun member => (member.1, member.2.json)))
      ((",".intercalate (members.map writtenMember)).toList ++ '\x7d' :: rest) rest := by
  have comma : ",".toList = [','] := rfl
  induction members with
  | nil => exact .noMember rfl
  | cons member members ih =>
      rw [List.forall_mem_cons] at plain
      obtain ⟨⟨name, value⟩, later⟩ := plain
      cases members with
      | nil =>
          obtain ⟨source, named, valued⟩ :=
            exists_readsName name value ('\x7d' :: rest) (by simp [isNumeric])
          simpa using Reads.lastMember named valued rfl
      | cons next members =>
          obtain ⟨source, named, valued⟩ :=
            exists_readsName name value (',' :: ((",".intercalate
              ((next :: members).map writtenMember)).toList ++ '\x7d' :: rest)) (by simp [isNumeric])
          simpa [comma] using Reads.nextMember named valued rfl (ih later)

theorem toList_compact (members : List (String × Scalar)) :
    (compact members).toList =
      '\x7b' :: ((",".intercalate (members.map writtenMember)).toList ++ ['\x7d']) := by
  have opening : "\x7b".toList = ['\x7b'] := rfl
  have closing : "\x7d".toList = ['\x7d'] := rfl
  simp only [compact, String.toList_append, opening, closing, List.cons_append, List.nil_append]

theorem denotes_compact {members : List (String × Scalar)}
    (plain : ∀ member ∈ members, Plain member.1 ∧ member.2.Plain) :
    Denotes (compact members).toList (ofScalars members) := by
  rw [toList_compact]
  exact ⟨[], .object rfl (reads_members plain []), rfl⟩

end UptimeGreeter.Json
