import Mathlib.Algebra.Group.Nat.Defs
import UptimeGreeter.Proofs.Text.Utf8

/-!
Bytes that are no text, read as one all the same: characters stay what they are and in their order,
and each maximal ill-formed part is replaced by one character.
-/

namespace UptimeGreeter.Utf8

def Begins (bytes : Bytes) : Prop :=
  ∃ char, bytes <+: String.utf8EncodeChar char

/-- A part in front of other bytes where no character is written: as many bytes as begin one, or a
single byte that begins none. -/
structure IllFormedPart (part rest : Bytes) : Prop where
  noChar : ∀ char, ¬String.utf8EncodeChar char <+: part ++ rest
  nonempty : part ≠ []
  begins : Begins part ∨ part.length = 1
  longest : ∀ other, other <+: part ++ rest → Begins other → other.length ≤ part.length

inductive Echoes : Bytes → List Char → Prop
  | nil : Echoes [] []
  | kept {rest : Bytes} {text : List Char} (char : Char) :
      Echoes rest text → Echoes (String.utf8EncodeChar char ++ rest) (char :: text)
  | replaced {part rest : Bytes} {text : List Char} :
      IllFormedPart part rest → Echoes rest text → Echoes (part ++ rest) ('\uFFFD' :: text)

theorem upperBits_eq_div (code count : Nat) : upperBits code count = code / 64 ^ count := by
  induction count with
  | zero => simp [upperBits]
  | succ count ih => rw [upperBits_succ, ih, Nat.div_div_eq_div_mul, Nat.pow_succ]

theorem Partway.exists_fits {partway : Partway}
    (bounds : 0x80 ≤ partway.low ∧ partway.low ≤ partway.high ∧ partway.high ≤ 0xBF) :
    ∃ code, partway.Fits code := by
  obtain ⟨lower, nonempty, upper⟩ := bounds
  have next : upperBits ((partway.bits * 64 + (partway.low - 0x80)) * 64 ^ partway.more)
      partway.more = partway.bits * 64 + (partway.low - 0x80) := by
    rw [upperBits_eq_div, Nat.mul_div_cancel _ (Nat.pow_pos (by decide))]
  refine ⟨(partway.bits * 64 + (partway.low - 0x80)) * 64 ^ partway.more, ?_, ?_, ?_⟩
  · rw [upperBits_succ, next]
    omega
  · rw [next]
    omega
  · rw [next]
    omega

/-- The bytes that go on with an unfinished character, as many as there are in front of others. -/
structure Partway.Takes (partway : Partway) (bytes taken : Bytes) : Prop where
  goesOn : ∃ code, partway.Fits code ∧ taken <+: laterBytes code (partway.more + 1)
  longest : ∀ other code, partway.Fits code → other <+: bytes →
    other <+: laterBytes code (partway.more + 1) → other.length ≤ taken.length

theorem Partway.takes_nil {partway : Partway} {bytes : Bytes}
    (bounds : 0x80 ≤ partway.low ∧ partway.low ≤ partway.high ∧ partway.high ≤ 0xBF)
    (outside : ∀ byte ∈ bytes.head?, ¬(partway.low ≤ byte.toNat ∧ byte.toNat ≤ partway.high)) :
    partway.Takes bytes [] := by
  obtain ⟨start, startFits⟩ := exists_fits bounds
  refine ⟨⟨start, startFits, List.nil_prefix⟩, ?_⟩
  intro other code fits front within
  cases other with
  | nil => exact Nat.le_refl _
  | cons byte other =>
      obtain ⟨later, rfl⟩ := front
      rw [laterBytes, List.cons_prefix_cons] at within
      have same := toNat_laterByte (upperBits code partway.more)
      rw [← within.1] at same
      have lower := fits.low
      have upper := fits.high
      exact absurd ⟨by omega, by omega⟩ (outside byte rfl)

theorem Partway.takes_cons {bits low high more : Nat} {byte : UInt8} {rest taken : Bytes}
    (bounds : 0x80 ≤ low ∧ high ≤ 0xBF) (inside : low ≤ byte.toNat ∧ byte.toNat ≤ high)
    (takes : (Partway.mk (bits * 64 + (byte.toNat - 0x80)) 0x80 0xBF more).Takes rest taken) :
    (Partway.mk bits low high (more + 1)).Takes (byte :: rest) (byte :: taken) := by
  constructor
  · obtain ⟨code, fits, goesOn⟩ := takes.goesOn
    obtain ⟨fitsBefore, written⟩ := fits.of_next bounds inside
    refine ⟨code, fitsBefore, ?_⟩
    rw [written]
    exact (List.prefix_cons_inj byte).mpr goesOn
  · intro other code fits front within
    cases other with
    | nil => exact Nat.zero_le _
    | cons first other =>
        obtain ⟨rfl, later⟩ := List.cons_prefix_cons.mp front
        rw [laterBytes, List.cons_prefix_cons] at within
        have same := toNat_laterByte (upperBits code (more + 1))
        rw [← within.1] at same
        have fitsAfter := fits.next
        rw [← Nat.sub_eq_of_eq_add same] at fitsAfter
        have shorter := takes.longest other code fitsAfter later within.2
        rw [List.length_cons, List.length_cons]
        omega

theorem exists_takes_of_piecesFrom {partway : Partway} {bytes : Bytes}
    {remaining : List (Option Char)}
    (bounds : 0x80 ≤ partway.low ∧ partway.low ≤ partway.high ∧ partway.high ≤ 0xBF)
    (read : piecesFrom (some partway) bytes = none :: remaining) :
    ∃ taken rest, bytes = taken ++ rest ∧ pieces rest = remaining ∧ partway.Takes bytes taken := by
  induction bytes generalizing partway with
  | nil =>
      obtain rfl := (List.cons.inj read).2
      exact ⟨[], [], rfl, rfl, Partway.takes_nil bounds (by simp)⟩
  | cons byte rest ih =>
      by_cases inside : partway.low ≤ byte.toNat ∧ byte.toNat ≤ partway.high
      · obtain ⟨bits, low, high, more⟩ := partway
        rw [piecesFrom, step_within inside.1 inside.2] at read
        cases more with
        | zero => cases read
        | succ more =>
            obtain ⟨taken, later, rfl, finished, takes⟩ := ih (by simp) read
            exact ⟨byte :: taken, later, rfl, finished,
              Partway.takes_cons ⟨bounds.1, bounds.2.2⟩ inside takes⟩
      · have fresh : pieces (byte :: rest) = remaining := by
          rw [piecesFrom, step, if_neg inside] at read
          exact (List.cons.inj read).2
        refine ⟨[], byte :: rest, rfl, fresh, Partway.takes_nil bounds ?_⟩
        intro other first
        obtain rfl := Option.some.inj first
        exact inside

theorem Lead.low_le_high {byte : Nat} {partway : Partway} (lead : Lead byte partway) :
    partway.low ≤ partway.high := by
  cases lead with
  | two => simp
  | three bits =>
      simp only
      split <;> split <;> omega
  | four bits =>
      simp only
      split <;> split <;> omega

theorem first_of_utf8EncodeChar {char : Char} {byte : UInt8} {more : Bytes}
    (written : String.utf8EncodeChar char = byte :: more) :
    byte.toNat < 0x80 ∨ ∃ partway, Lead byte.toNat partway ∧ partway.Fits char.toNat ∧
      more = laterBytes char.toNat (partway.more + 1) := by
  rcases utf8EncodeChar_cases char with ⟨small, encoded⟩ | ⟨first, partway, lead, fits⟩
  · left
    obtain ⟨rfl, _⟩ := List.cons.inj (encoded.symm.trans written)
    rw [UInt8.toNat_ofNat']
    omega
  · right
    have encoded := utf8EncodeChar_of_lead lead fits
    rw [Char.ofNat_toNat, written] at encoded
    obtain ⟨rfl, rfl⟩ := List.cons.inj encoded
    exact ⟨partway, by rwa [lead.toNat_ofNat], fits, rfl⟩

theorem illFormedPart_lead {byte : UInt8} {partway : Partway} (lead : Lead byte.toNat partway)
    {taken rest : Bytes} (takes : partway.Takes (taken ++ rest) taken)
    (noChar : ∀ char, ¬String.utf8EncodeChar char <+: byte :: taken ++ rest) :
    IllFormedPart (byte :: taken) rest := by
  refine ⟨noChar, List.cons_ne_nil _ _, .inl ?_, ?_⟩
  · obtain ⟨code, fits, goesOn⟩ := takes.goesOn
    refine ⟨Char.ofNat code, ?_⟩
    rw [utf8EncodeChar_of_lead lead fits, UInt8.ofNat_toNat]
    exact (List.prefix_cons_inj byte).mpr goesOn
  · rintro other front ⟨char, begins⟩
    cases other with
    | nil => exact Nat.zero_le _
    | cons first other =>
        obtain ⟨rfl, later⟩ := List.cons_prefix_cons.mp front
        obtain ⟨more, written⟩ := begins
        rcases first_of_utf8EncodeChar written.symm with small | ⟨found, otherLead, fits, same⟩
        · have ascii := firstByte_ascii small
          rw [firstByte_of_lead lead] at ascii
          cases ascii
        · have leads := firstByte_of_lead otherLead
          rw [firstByte_of_lead lead] at leads
          obtain rfl := Option.some.inj (Step.mk.inj leads).2
          have shorter := takes.longest other char.toNat fits later ⟨more, same⟩
          rw [List.length_cons, List.length_cons]
          omega

theorem illFormedPart_single {byte : UInt8} (illFormed : firstByte byte.toNat = ⟨[none], none⟩)
    (rest : Bytes) (noChar : ∀ char, ¬String.utf8EncodeChar char <+: byte :: rest) :
    IllFormedPart [byte] rest := by
  refine ⟨noChar, List.cons_ne_nil _ _, .inr rfl, ?_⟩
  rintro other front ⟨char, begins⟩
  cases other with
  | nil => exact Nat.zero_le _
  | cons first other =>
      obtain ⟨rfl, _⟩ := List.cons_prefix_cons.mp front
      obtain ⟨more, written⟩ := begins
      rcases first_of_utf8EncodeChar written.symm with small | ⟨partway, lead, _⟩
      · rw [firstByte_ascii small] at illFormed
        cases illFormed
      · rw [firstByte_of_lead lead] at illFormed
        cases illFormed

theorem exists_illFormedPart {bytes : Bytes} {remaining : List (Option Char)}
    (read : pieces bytes = none :: remaining) :
    ∃ part rest, bytes = part ++ rest ∧ pieces rest = remaining ∧ IllFormedPart part rest := by
  have noChar : ∀ char, ¬String.utf8EncodeChar char <+: bytes := by
    rintro char ⟨rest, rfl⟩
    rw [pieces_utf8EncodeChar_append] at read
    cases read
  cases bytes with
  | nil => cases read
  | cons byte later =>
      rcases firstByte_cases byte.toNat with ⟨small, _⟩ | ⟨partway, lead, _⟩ | illFormed
      · rw [pieces_ascii small] at read
        cases read
      · rw [pieces_lead lead] at read
        obtain ⟨taken, rest, rfl, finished, takes⟩ := exists_takes_of_piecesFrom
          ⟨lead.bounds.1, lead.low_le_high, lead.bounds.2⟩ read
        exact ⟨byte :: taken, rest, rfl, finished, illFormedPart_lead lead takes noChar⟩
      · rw [pieces, piecesFrom, step, illFormed] at read
        exact ⟨[byte], later, rfl, (List.cons.inj read).2,
          illFormedPart_single illFormed later noChar⟩

theorem IllFormedPart.unique {part rest other otherRest : Bytes}
    (first : IllFormedPart part rest) (second : IllFormedPart other otherRest)
    (same : part ++ rest = other ++ otherRest) : part = other ∧ rest = otherRest := by
  have le {part rest other otherRest : Bytes} (first : IllFormedPart part rest)
      (second : IllFormedPart other otherRest) (same : part ++ rest = other ++ otherRest) :
      part.length ≤ other.length := by
    rcases first.begins with begins | single
    · exact second.longest part (same ▸ List.prefix_append part rest) begins
    · rw [single]
      exact List.length_pos_of_ne_nil second.nonempty
  exact List.append_inj same (Nat.le_antisymm (le first second same) (le second first same.symm))

theorem pieces_illFormedPart {part rest : Bytes} (illFormed : IllFormedPart part rest) :
    pieces (part ++ rest) = none :: pieces rest := by
  cases read : pieces (part ++ rest) with
  | nil =>
      cases part with
      | nil => exact absurd rfl illFormed.nonempty
      | cons byte part => exact absurd read (pieces_ne_nil byte (part ++ rest))
  | cons piece remaining =>
      cases piece with
      | some char =>
          obtain ⟨later, same, _⟩ := (pieces_eq_some_cons_iff _ _ _).mp read
          exact absurd ⟨later, same.symm⟩ (illFormed.noChar char)
      | none =>
          obtain ⟨other, otherRest, same, rfl, otherPart⟩ := exists_illFormedPart read
          rw [(illFormed.unique otherPart same).2]

theorem echoes_pieces (bytes : Bytes) : Echoes bytes ((pieces bytes).map (·.getD '\uFFFD')) := by
  generalize size : pieces bytes = read
  induction read generalizing bytes with
  | nil =>
      cases bytes with
      | nil => exact .nil
      | cons byte rest => exact absurd size (pieces_ne_nil byte rest)
  | cons piece remaining ih =>
      cases piece with
      | some char =>
          obtain ⟨rest, rfl, later⟩ := (pieces_eq_some_cons_iff _ _ _).mp size
          exact .kept char (ih rest later)
      | none =>
          obtain ⟨part, rest, rfl, later, illFormed⟩ := exists_illFormedPart size
          exact .replaced illFormed (ih rest later)

theorem echoes_iff (bytes : Bytes) (text : List Char) :
    Echoes bytes text ↔ (decodeLossy bytes).toList = text := by
  rw [decodeLossy, String.toList_ofList]
  constructor
  · intro echoes
    induction echoes with
    | nil => rfl
    | kept char _ ih => rw [pieces_utf8EncodeChar_append, List.map_cons, ih, Option.getD_some]
    | replaced illFormed _ ih => rw [pieces_illFormedPart illFormed, List.map_cons, ih, Option.getD_none]
  · rintro rfl
    exact echoes_pieces bytes

theorem decodeLossy_encode_append (front : String) (bytes : Bytes) :
    decodeLossy (encode front ++ bytes) = front ++ decodeLossy bytes := by
  have kept : (fun piece : Option Char => piece.getD '\uFFFD') ∘ some = id := rfl
  rw [← String.toList_inj, decodeLossy, encode, pieces_flatMap_append, decodeLossy,
    String.toList_append, String.toList_ofList, String.toList_ofList, List.map_append, List.map_map,
    kept, List.map_id]

theorem decodeLossy_encode (text : String) : decodeLossy (encode text) = text := by
  have read := decodeLossy_encode_append text []
  rwa [List.append_nil, show decodeLossy [] = "" from rfl, String.append_empty] at read

theorem decodeLossy_eq_empty_iff (bytes : Bytes) : decodeLossy bytes = "" ↔ bytes = [] := by
  constructor
  · intro empty
    cases bytes with
    | nil => rfl
    | cons byte rest =>
        have none := congrArg String.toList empty
        rw [decodeLossy, String.toList_ofList, String.toList_empty, List.map_eq_nil_iff] at none
        exact absurd none (pieces_ne_nil byte rest)
  · rintro rfl
    rfl

end UptimeGreeter.Utf8
