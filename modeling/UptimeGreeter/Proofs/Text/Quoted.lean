import UptimeGreeter.Proofs.Text.Hexadecimal
import UptimeGreeter.Text.Quoted

/-!
Quoted text reads back, whatever stands behind its closing quote, and breaks no line.
-/

namespace UptimeGreeter

namespace Quoted

def named? : Char → Option Char
  | '"' => some '"'
  | '\\' => some '\\'
  | '0' => some '\x00'
  | 't' => some '\t'
  | 'n' => some '\n'
  | 'r' => some '\r'
  | _ => none

inductive Place where
  | plain
  | escape
  | code
  | digits (digits : List Char)

def found (char : Char) : List Char × List Char → List Char × List Char :=
  fun (text, after) => (char :: text, after)

def readFrom? : Place → List Char → Option (List Char × List Char)
  | _, [] => none
  | .plain, char :: rest =>
      if char = '"' then some ([], rest)
      else if char = '\\' then readFrom? .escape rest
      else (readFrom? .plain rest).map (found char)
  | .escape, char :: rest =>
      if char = 'u' then readFrom? .code rest
      else (named? char).bind fun named => (readFrom? .plain rest).map (found named)
  | .code, char :: rest => if char = '\x7b' then readFrom? (.digits []) rest else none
  | .digits digits, char :: rest =>
      if char = '\x7d' then
        (readFrom? .plain rest).map (found (Char.ofNat (Hexadecimal.value digits)))
      else if Hexadecimal.isDigit char then readFrom? (.digits (digits ++ [char])) rest
      else none

def read? : List Char → Option (List Char × List Char)
  | '"' :: rest => readFrom? .plain rest
  | _ => none

/-- Characters that end a line or steer a terminal: the controls, and the separators of lines and
paragraphs. -/
def BreaksLine (char : Char) : Prop :=
  char.toNat < 0x20 ∨ 0x7F ≤ char.toNat ∧ char.toNat < 0xA0 ∨
    char.toNat = 0x2028 ∨ char.toNat = 0x2029

instance (char : Char) : Decidable (BreaksLine char) := by
  unfold BreaksLine
  infer_instance

theorem isUnprintable_of_breaksLine {char : Char} (breaks : BreaksLine char) :
    Text.isUnprintable char = true := by
  have low : (0x0, 0x1F) ∈ Text.unprintableRanges := by decide
  have middle : (0x7F, 0xA0) ∈ Text.unprintableRanges := by decide
  have separators : (0x2028, 0x202F) ∈ Text.unprintableRanges := by decide +kernel
  rw [Text.isUnprintable, Text.Ranges.holds_iff]
  rcases breaks with below | between | line | paragraph
  · exact ⟨_, low, by omega, by omega⟩
  · exact ⟨_, middle, by omega, by omega⟩
  · exact ⟨_, separators, by omega, by omega⟩
  · exact ⟨_, separators, by omega, by omega⟩

theorem escape_cases (char : Char) :
    (escape char = [char] ∧ char ≠ '"' ∧ char ≠ '\\' ∧ ¬BreaksLine char) ∨
    (∃ letter, escape char = ['\\', letter] ∧ letter ≠ 'u' ∧ named? letter = some char) ∨
    escape char = '\\' :: 'u' :: '\x7b' :: (Nat.toDigits 16 char.toNat ++ ['\x7d']) := by
  unfold escape
  split
  · exact .inr (.inl ⟨'"', rfl, by decide, rfl⟩)
  · exact .inr (.inl ⟨'\\', rfl, by decide, rfl⟩)
  · exact .inr (.inl ⟨'0', rfl, by decide, rfl⟩)
  · exact .inr (.inl ⟨'t', rfl, by decide, rfl⟩)
  · exact .inr (.inl ⟨'n', rfl, by decide, rfl⟩)
  · exact .inr (.inl ⟨'r', rfl, by decide, rfl⟩)
  · rename_i noQuote noBackslash _ _ _ _
    by_cases hidden : (Text.isExtender char || Text.isUnprintable char) = true
    · rw [if_pos hidden]
      exact .inr (.inr rfl)
    · rw [if_neg hidden]
      refine .inl ⟨rfl, noQuote, noBackslash, ?_⟩
      intro breaks
      apply hidden
      simp [isUnprintable_of_breaksLine breaks]

theorem readFrom?_digits {digits : List Char} (all : ∀ char ∈ digits, Hexadecimal.isDigit char)
    (front rest : List Char) :
    readFrom? (.digits front) (digits ++ '\x7d' :: rest) =
      (readFrom? .plain rest).map (found (Char.ofNat (Hexadecimal.value (front ++ digits)))) := by
  induction digits generalizing front with
  | nil => simp [readFrom?]
  | cons char digits ih =>
      rw [List.forall_mem_cons] at all
      have inside : char ≠ '\x7d' := by
        rintro rfl
        exact absurd all.1 (by decide)
      simp [readFrom?, inside, all.1, ih all.2]

theorem readFrom?_escape (char : Char) (rest : List Char) :
    readFrom? .plain (escape char ++ rest) = (readFrom? .plain rest).map (found char) := by
  rcases escape_cases char with ⟨same, noQuote, noBackslash, _⟩ | ⟨letter, same, noCode, named⟩ | same
  · simp [same, readFrom?, noQuote, noBackslash]
  · simp [same, readFrom?, noCode, named]
  · have all : ∀ digit ∈ Nat.toDigits 16 char.toNat, Hexadecimal.isDigit digit := by
      intro digit
      exact Hexadecimal.isDigit_of_mem_toDigits
    have digits := readFrom?_digits all [] rest
    rw [List.nil_append, Hexadecimal.value_toDigits, Char.ofNat_toNat] at digits
    simp [same, readFrom?, digits]

theorem readFrom?_flatMap (text rest : List Char) :
    readFrom? .plain (text.flatMap escape ++ '"' :: rest) = some (text, rest) := by
  induction text with
  | nil => simp [readFrom?]
  | cons char text ih =>
      rw [List.flatMap_cons, List.append_assoc, readFrom?_escape, ih]
      rfl

theorem read?_encode (text rest : List Char) : read? (encode text ++ rest) = some (text, rest) := by
  have shape : encode text ++ rest = '"' :: (text.flatMap escape ++ '"' :: rest) := by
    simp [encode]
  rw [shape, read?, readFrom?_flatMap]

theorem not_breaksLine_of_named? {letter char : Char} (named : named? letter = some char) :
    ¬BreaksLine letter := by
  unfold named? at named
  split at named
  · decide
  · decide
  · decide
  · decide
  · decide
  · decide
  · cases named

theorem not_breaksLine_of_isDigit {char : Char} (digit : Hexadecimal.isDigit char) :
    ¬BreaksLine char := by
  have ascii : ∀ code < 128, Hexadecimal.isDigit (Char.ofNat code) → ¬BreaksLine (Char.ofNat code) := by
    decide
  have quiet := ascii char.toNat (Hexadecimal.toNat_lt_of_isDigit digit)
  rw [Char.ofNat_toNat] at quiet
  exact quiet digit

theorem not_breaksLine_of_mem_escape {char shown : Char} (member : shown ∈ escape char) :
    ¬BreaksLine shown := by
  rcases escape_cases char with ⟨same, _, _, visible⟩ | ⟨letter, same, _, named⟩ | same
  · rw [same, List.mem_singleton] at member
    rwa [member]
  · simp only [same, List.mem_cons, List.not_mem_nil, or_false] at member
    rcases member with rfl | rfl
    · decide
    · exact not_breaksLine_of_named? named
  · simp only [same, List.mem_cons, List.mem_append, List.not_mem_nil, or_false] at member
    rcases member with rfl | rfl | rfl | digit | rfl
    · decide
    · decide
    · decide
    · exact not_breaksLine_of_isDigit (Hexadecimal.isDigit_of_mem_toDigits digit)
    · decide

theorem not_breaksLine_of_mem_encode {text : List Char} {shown : Char}
    (member : shown ∈ encode text) : ¬BreaksLine shown := by
  simp only [encode, List.mem_cons, List.mem_append, List.mem_flatMap, List.not_mem_nil,
    or_false] at member
  rcases member with rfl | ⟨char, _, inside⟩ | rfl
  · decide
  · exact not_breaksLine_of_mem_escape inside
  · decide

end Quoted

theorem toList_quote (text : String) : (quote text).toList = Quoted.encode text.toList := by
  rw [quote, String.toList_ofList]

def Unbroken (text : String) : Prop :=
  ∀ char ∈ text.toList, ¬Quoted.BreaksLine char

instance (text : String) : Decidable (Unbroken text) :=
  List.decidableBAll _ text.toList

@[simp] theorem unbroken_append (front back : String) :
    Unbroken (front ++ back) ↔ Unbroken front ∧ Unbroken back := by
  simp only [Unbroken, String.toList_append, List.forall_mem_append]

@[simp] theorem unbroken_quote (text : String) : Unbroken (quote text) := by
  intro char member
  rw [toList_quote] at member
  exact Quoted.not_breaksLine_of_mem_encode member

end UptimeGreeter
