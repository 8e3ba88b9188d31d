import UptimeGreeter.Proofs.Text.Pieces
import UptimeGreeter.Text.Utf8

/-!
Reading bytes as text accepts exactly what encoding a text writes, and a text in front of other
bytes is read off before them.
-/

namespace UptimeGreeter.Utf8

/-- A code without its last groups of six bits. -/
def upperBits (code : Nat) : Nat → Nat
  | 0 => code
  | count + 1 => upperBits code count / 64

def laterBytes (code : Nat) : Nat → Bytes
  | 0 => []
  | count + 1 => UInt8.ofNat (upperBits code count % 64 + 0x80) :: laterBytes code count

structure Partway.Fits (partway : Partway) (code : Nat) : Prop where
  bits : upperBits code (partway.more + 1) = partway.bits
  low : partway.low ≤ upperBits code partway.more % 64 + 0x80
  high : upperBits code partway.more % 64 + 0x80 ≤ partway.high

/-- The first bytes of longer codes. The bounds keep out codes that fewer bytes hold, and codes
that are no characters. -/
inductive Lead : Nat → Partway → Prop
  | two (bits : Nat) : 2 ≤ bits → bits < 32 → Lead (bits + 0xC0) ⟨bits, 0x80, 0xBF, 0⟩
  | three (bits : Nat) : bits < 16 → Lead (bits + 0xE0)
      ⟨bits, if bits = 0 then 0xA0 else 0x80, if bits = 0xD then 0x9F else 0xBF, 1⟩
  | four (bits : Nat) : bits < 5 → Lead (bits + 0xF0)
      ⟨bits, if bits = 0 then 0x90 else 0x80, if bits = 4 then 0x8F else 0xBF, 2⟩

theorem firstByte_ascii {byte : Nat} (small : byte < 0x80) :
    firstByte byte = ⟨[some (Char.ofNat byte)], none⟩ := by
  simp [firstByte, small]

theorem firstByte_of_lead {byte : Nat} {partway : Partway} (lead : Lead byte partway) :
    firstByte byte = ⟨[], some partway⟩ := by
  have three : ∀ bits < 16, firstByte (bits + 0xE0) = ⟨[], some
      ⟨bits, if bits = 0 then 0xA0 else 0x80, if bits = 0xD then 0x9F else 0xBF, 1⟩⟩ := by
    decide
  have four : ∀ bits < 5, firstByte (bits + 0xF0) = ⟨[], some
      ⟨bits, if bits = 0 then 0x90 else 0x80, if bits = 4 then 0x8F else 0xBF, 2⟩⟩ := by
    decide
  cases lead with
  | two bits lower upper =>
      rw [firstByte, if_neg (by omega), if_neg (by omega), if_pos (by omega)]
      simp
  | three bits bound => exact three bits bound
  | four bits bound => exact four bits bound

theorem firstByte_cases (byte : Nat) :
    (byte < 0x80 ∧ firstByte byte = ⟨[some (Char.ofNat byte)], none⟩) ∨
      (∃ partway, Lead byte partway ∧ firstByte byte = ⟨[], some partway⟩) ∨
      firstByte byte = ⟨[none], none⟩ := by
  by_cases small : byte < 0x80
  · exact .inl ⟨small, firstByte_ascii small⟩
  by_cases two : 0xC2 ≤ byte ∧ byte < 0xE0
  · have lead := Lead.two (byte - 0xC0) (by omega) (by omega)
    rw [show byte - 0xC0 + 0xC0 = byte by omega] at lead
    exact .inr (.inl ⟨_, lead, firstByte_of_lead lead⟩)
  by_cases three : 0xE0 ≤ byte ∧ byte < 0xF0
  · have lead := Lead.three (byte - 0xE0) (by omega)
    rw [show byte - 0xE0 + 0xE0 = byte by omega] at lead
    exact .inr (.inl ⟨_, lead, firstByte_of_lead lead⟩)
  by_cases four : 0xF0 ≤ byte ∧ byte < 0xF5
  · have lead := Lead.four (byte - 0xF0) (by omega)
    rw [show byte - 0xF0 + 0xF0 = byte by omega] at lead
    exact .inr (.inl ⟨_, lead, firstByte_of_lead lead⟩)
  · refine .inr (.inr ?_)
    by_cases stray : byte < 0xC2
    · simp [firstByte, small, stray]
    · rw [firstByte]
      simp only [small, stray, if_false]
      rw [if_neg (by omega), if_neg (by omega), if_neg (by omega), if_neg (by omega),
        if_neg (by omega), if_neg (by omega), if_neg (by omega)]

theorem toNat_laterByte (bits : Nat) :
    (UInt8.ofNat (bits % 64 + 0x80)).toNat = bits % 64 + 0x80 := by
  rw [UInt8.toNat_ofNat']
  omega

theorem upperBits_succ (code count : Nat) :
    upperBits code (count + 1) = upperBits code count / 64 :=
  rfl

theorem step_within {partway : Partway} {byte : Nat} (low : partway.low ≤ byte)
    (high : byte ≤ partway.high) : step (some partway) byte = laterByte partway byte := by
  simp [step, low, high]

theorem step_outside {partway : Partway} {byte : Nat}
    (outside : ¬(partway.low ≤ byte ∧ byte ≤ partway.high)) :
    (step (some partway) byte).pieces = none :: (firstByte byte).pieces := by
  simp [step, outside]

theorem laterBytes_succ {byte : UInt8} {code count : Nat} (low : 0x80 ≤ byte.toNat)
    (bits : upperBits code count % 64 = byte.toNat - 0x80) :
    laterBytes code (count + 1) = byte :: laterBytes code count := by
  have same : UInt8.ofNat (upperBits code count % 64 + 0x80) = byte := by
    rw [← UInt8.toNat_inj, UInt8.toNat_ofNat']
    omega
  rw [laterBytes, same]

theorem Partway.Fits.next {bits low high more code : Nat}
    (fits : (Partway.mk bits low high (more + 1)).Fits code) :
    (Partway.mk (bits * 64 + upperBits code (more + 1) % 64) 0x80 0xBF more).Fits code := by
  have codeBits := fits.bits
  have divided := upperBits_succ code (more + 1)
  simp only at codeBits
  constructor <;> simp only <;> omega

theorem Partway.Fits.of_next {bits low high more code : Nat} {byte : UInt8}
    (bounds : 0x80 ≤ low ∧ high ≤ 0xBF) (inside : low ≤ byte.toNat ∧ byte.toNat ≤ high)
    (fits : (Partway.mk (bits * 64 + (byte.toNat - 0x80)) 0x80 0xBF more).Fits code) :
    (Partway.mk bits low high (more + 1)).Fits code ∧
      laterBytes code (more + 2) = byte :: laterBytes code (more + 1) := by
  have codeBits := fits.bits
  have divided := upperBits_succ code (more + 1)
  simp only at codeBits
  have next : upperBits code (more + 1) % 64 = byte.toNat - 0x80 := by omega
  refine ⟨?_, laterBytes_succ (by omega) next⟩
  constructor <;> simp only <;> omega

theorem piecesFrom_laterBytes (partway : Partway) (code : Nat) (rest : Bytes)
    (fits : partway.Fits code) :
    piecesFrom (some partway) (laterBytes code (partway.more + 1) ++ rest) =
      some (Char.ofNat code) :: piecesFrom none rest := by
  obtain ⟨bits, low, high, more⟩ := partway
  induction more generalizing bits low high with
  | zero =>
      have bitsEq := fits.bits
      simp only [upperBits] at bitsEq
      have whole : bits * 64 + code % 64 = code := by omega
      have inside := step_within fits.low fits.high
      simp only [upperBits] at inside
      rw [laterBytes, List.cons_append, piecesFrom, toNat_laterByte, upperBits, inside]
      simp [laterByte, laterBytes, whole]
  | succ more ih =>
      have inside := step_within fits.low fits.high
      simp only at inside
      rw [laterBytes, List.cons_append, piecesFrom, toNat_laterByte, inside]
      simpa [laterByte] using ih _ _ _ fits.next

theorem toNat_ofNat_of_isValidChar {code : Nat} (valid : code.isValidChar) :
    (Char.ofNat code).toNat = code := by
  rw [Char.ofNat, dif_pos valid]
  rfl

theorem utf8EncodeChar_one {char : Char} (upper : char.toNat < 0x80) :
    String.utf8EncodeChar char = [UInt8.ofNat char.toNat] := by
  rw [String.utf8EncodeChar, Char.toNat_val, if_pos (by omega)]

theorem utf8EncodeChar_two {char : Char} (lower : 0x80 ≤ char.toNat) (upper : char.toNat < 0x800) :
    String.utf8EncodeChar char =
      UInt8.ofNat (upperBits char.toNat 1 + 0xC0) :: laterBytes char.toNat 1 := by
  rw [String.utf8EncodeChar, Char.toNat_val, if_neg (by omega), if_pos (by omega),
    Nat.mod_eq_of_lt (by omega)]
  simp [laterBytes, upperBits]

theorem utf8EncodeChar_three {char : Char} (lower : 0x800 ≤ char.toNat)
    (upper : char.toNat < 0x10000) :
    String.utf8EncodeChar char =
      UInt8.ofNat (upperBits char.toNat 2 + 0xE0) :: laterBytes char.toNat 2 := by
  rw [String.utf8EncodeChar, Char.toNat_val, if_neg (by omega), if_neg (by omega),
    if_pos (by omega), Nat.mod_eq_of_lt (by omega)]
  simp [laterBytes, upperBits, Nat.div_div_eq_div_mul]

theorem utf8EncodeChar_four {char : Char} (lower : 0x10000 ≤ char.toNat)
    (upper : char.toNat < 0x110000) :
    String.utf8EncodeChar char =
      UInt8.ofNat (upperBits char.toNat 3 + 0xF0) :: laterBytes char.toNat 3 := by
  rw [String.utf8EncodeChar, Char.toNat_val, if_neg (by omega), if_neg (by omega),
    if_neg (by omega), Nat.mod_eq_of_lt (by omega)]
  simp [laterBytes, upperBits, Nat.div_div_eq_div_mul]

theorem utf8EncodeChar_of_lead {byte code : Nat} {partway : Partway} (lead : Lead byte partway)
    (fits : partway.Fits code) :
    String.utf8EncodeChar (Char.ofNat code) =
      UInt8.ofNat byte :: laterBytes code (partway.more + 1) := by
  have bits := fits.bits
  have low := fits.low
  have high := fits.high
  cases lead with
  | two lead lower upper =>
      simp only [upperBits] at bits low high
      have same : (Char.ofNat code).toNat = code :=
        toNat_ofNat_of_isValidChar (by simp only [Nat.isValidChar]; omega)
      have leading : upperBits code 1 = lead := fits.bits
      rw [utf8EncodeChar_two (by omega) (by omega), same, leading]
  | three lead bound =>
      simp only [upperBits] at bits low high
      have same : (Char.ofNat code).toNat = code := by
        apply toNat_ofNat_of_isValidChar
        simp only [Nat.isValidChar]
        split at low <;> split at high <;> omega
      have lower : 0x800 ≤ code := by split at low <;> omega
      have leading : upperBits code 2 = lead := fits.bits
      rw [utf8EncodeChar_three (by omega) (by omega), same, leading]
  | four lead bound =>
      simp only [upperBits] at bits low high
      have lower : 0x10000 ≤ code := by split at low <;> omega
      have upper : code < 0x110000 := by split at high <;> omega
      have same : (Char.ofNat code).toNat = code :=
        toNat_ofNat_of_isValidChar (by simp only [Nat.isValidChar]; omega)
      have leading : upperBits code 3 = lead := fits.bits
      rw [utf8EncodeChar_four (by omega) (by omega), same, leading]

theorem utf8EncodeChar_cases (char : Char) :
    (char.toNat < 0x80 ∧ String.utf8EncodeChar char = [UInt8.ofNat char.toNat]) ∨
      ∃ byte partway, Lead byte partway ∧ partway.Fits char.toNat := by
  have valid : char.toNat < 0xD800 ∨ 0xDFFF < char.toNat ∧ char.toNat < 0x110000 := char.valid
  by_cases one : char.toNat < 0x80
  · exact .inl ⟨one, utf8EncodeChar_one one⟩
  by_cases two : char.toNat < 0x800
  · refine .inr ⟨_, _, .two (char.toNat / 64) (by omega) (by omega), ?_⟩
    constructor <;> simp only [upperBits] <;> omega
  by_cases three : char.toNat < 0x10000
  · refine .inr ⟨_, _, .three (char.toNat / 4096) (by omega), ?_, ?_, ?_⟩
    all_goals simp only [upperBits]
    · omega
    all_goals split <;> omega
  · refine .inr ⟨_, _, .four (char.toNat / 262144) (by omega), ?_, ?_, ?_⟩
    all_goals simp only [upperBits]
    · omega
    all_goals split <;> omega

theorem Lead.toNat_ofNat {byte : Nat} {partway : Partway} (lead : Lead byte partway) :
    (UInt8.ofNat byte).toNat = byte := by
  rw [UInt8.toNat_ofNat']
  cases lead <;> omega

theorem Lead.bounds {byte : Nat} {partway : Partway} (lead : Lead byte partway) :
    0x80 ≤ partway.low ∧ partway.high ≤ 0xBF := by
  cases lead with
  | two => simp
  | three bits =>
      simp only
      constructor <;> split <;> omega
  | four bits =>
      simp only
      constructor <;> split <;> omega

theorem pieces_ascii {byte : UInt8} (small : byte.toNat < 0x80) (rest : Bytes) :
    pieces (byte :: rest) = some (Char.ofNat byte.toNat) :: pieces rest := by
  simp [pieces, piecesFrom, step, firstByte_ascii small]

theorem pieces_lead {byte : UInt8} {partway : Partway} (lead : Lead byte.toNat partway)
    (rest : Bytes) : pieces (byte :: rest) = piecesFrom (some partway) rest := by
  simp [pieces, piecesFrom, step, firstByte_of_lead lead]

theorem pieces_utf8EncodeChar_append (char : Char) (rest : Bytes) :
    pieces (String.utf8EncodeChar char ++ rest) = some char :: pieces rest := by
  rcases utf8EncodeChar_cases char with ⟨small, encoded⟩ | ⟨byte, partway, lead, fits⟩
  · have same : (UInt8.ofNat char.toNat).toNat = char.toNat := by
      rw [UInt8.toNat_ofNat']
      omega
    rw [encoded, List.singleton_append, pieces_ascii (by omega), same, Char.ofNat_toNat]
  · have encoded := utf8EncodeChar_of_lead lead fits
    rw [Char.ofNat_toNat] at encoded
    rw [encoded, List.cons_append, pieces_lead (by rwa [lead.toNat_ofNat]),
      piecesFrom_laterBytes partway _ rest fits, Char.ofNat_toNat, pieces]

theorem pieces_flatMap_append (chars : List Char) (rest : Bytes) :
    pieces (chars.flatMap String.utf8EncodeChar ++ rest) = chars.map some ++ pieces rest := by
  induction chars with
  | nil => rfl
  | cons char chars ih => simp [pieces_utf8EncodeChar_append, ih]

theorem piecesFrom_some_ne_nil (partway : Partway) (bytes : Bytes) :
    piecesFrom (some partway) bytes ≠ [] := by
  induction bytes generalizing partway with
  | nil => simp [piecesFrom]
  | cons byte rest ih =>
      by_cases inside : partway.low ≤ byte.toNat ∧ byte.toNat ≤ partway.high
      · rw [piecesFrom, step_within inside.1 inside.2, laterByte]
        cases partway.more with
        | zero => simp
        | succ more => simpa using ih _
      · rw [piecesFrom, step_outside inside]
        simp

theorem pieces_ne_nil (byte : UInt8) (rest : Bytes) : pieces (byte :: rest) ≠ [] := by
  rcases firstByte_cases byte.toNat with ⟨small, _⟩ | ⟨partway, lead, _⟩ | illFormed
  · simp [pieces_ascii small]
  · simpa [pieces_lead lead] using piecesFrom_some_ne_nil partway rest
  · simp [pieces, piecesFrom, step, illFormed]

theorem inside_of_piecesFrom {partway : Partway} {char : Char} {bytes : Bytes}
    {remaining : List (Option Char)}
    (read : piecesFrom (some partway) bytes = some char :: remaining) :
    ∃ byte rest, bytes = byte :: rest ∧
      (partway.low ≤ byte.toNat ∧ byte.toNat ≤ partway.high) ∧
      (laterByte partway byte.toNat).pieces ++
        piecesFrom (laterByte partway byte.toNat).partway rest = some char :: remaining := by
  cases bytes with
  | nil => simp [piecesFrom] at read
  | cons byte rest =>
      by_cases inside : partway.low ≤ byte.toNat ∧ byte.toNat ≤ partway.high
      · rw [piecesFrom, step_within inside.1 inside.2] at read
        exact ⟨byte, rest, rfl, inside, read⟩
      · simp [piecesFrom, step_outside inside] at read

theorem eq_laterBytes_append {partway : Partway} {char : Char} {bytes : Bytes}
    {remaining : List (Option Char)} (bounds : 0x80 ≤ partway.low ∧ partway.high ≤ 0xBF)
    (read : piecesFrom (some partway) bytes = some char :: remaining) :
    ∃ code rest, partway.Fits code ∧ char = Char.ofNat code ∧
      bytes = laterBytes code (partway.more + 1) ++ rest ∧ pieces rest = remaining := by
  obtain ⟨bits, low, high, more⟩ := partway
  induction more generalizing bits low high bytes with
  | zero =>
      obtain ⟨byte, rest, rfl, inside, completed⟩ := inside_of_piecesFrom read
      simp only at bounds inside
      simp only [laterByte, List.cons_append, List.nil_append, List.cons.injEq,
        Option.some.injEq] at completed
      have last : upperBits (bits * 64 + (byte.toNat - 0x80)) 0 % 64 = byte.toNat - 0x80 := by
        simp only [upperBits]
        omega
      refine ⟨bits * 64 + (byte.toNat - 0x80), rest, ?_, completed.1.symm, ?_, completed.2⟩
      · constructor <;> simp only [upperBits] <;> omega
      · rw [laterBytes_succ (by omega) last]
        rfl
  | succ more ih =>
      obtain ⟨byte, rest, rfl, inside, continued⟩ := inside_of_piecesFrom read
      simp only at bounds inside
      obtain ⟨code, later, fits, same, rfl, finished⟩ := ih _ _ _ (by simp) continued
      obtain ⟨fitsBefore, written⟩ := Partway.Fits.of_next bounds inside fits
      refine ⟨code, later, fitsBefore, same, ?_, finished⟩
      rw [written, List.cons_append]

theorem pieces_eq_some_cons_iff (bytes : Bytes) (char : Char) (remaining : List (Option Char)) :
    pieces bytes = some char :: remaining ↔
      ∃ rest, bytes = String.utf8EncodeChar char ++ rest ∧ pieces rest = remaining := by
  constructor
  · intro read
    cases bytes with
    | nil => simp [pieces, piecesFrom] at read
    | cons byte rest =>
        rcases firstByte_cases byte.toNat with ⟨small, _⟩ | ⟨partway, lead, _⟩ | illFormed
        · simp only [pieces_ascii small, List.cons.injEq, Option.some.injEq] at read
          have same : char.toNat = byte.toNat := by
            rw [← read.1]
            exact toNat_ofNat_of_isValidChar (by simp only [Nat.isValidChar]; omega)
          refine ⟨rest, ?_, read.2⟩
          rw [utf8EncodeChar_one (by omega), same]
          simp
        · rw [pieces_lead lead] at read
          obtain ⟨code, later, fits, rfl, rfl, finished⟩ := eq_laterBytes_append lead.bounds read
          refine ⟨later, ?_, finished⟩
          rw [utf8EncodeChar_of_lead lead fits]
          simp
        · simp [pieces, piecesFrom, step, illFormed] at read
  · rintro ⟨rest, rfl, rfl⟩
    exact pieces_utf8EncodeChar_append char rest

theorem pieces_eq_map_some_iff (bytes : Bytes) (chars : List Char) :
    pieces bytes = chars.map some ↔ bytes = chars.flatMap String.utf8EncodeChar := by
  induction chars generalizing bytes with
  | nil =>
      cases bytes with
      | nil => simp [pieces, piecesFrom]
      | cons byte rest => simp [pieces_ne_nil]
  | cons char chars ih =>
      rw [List.map_cons, pieces_eq_some_cons_iff, List.flatMap_cons]
      constructor
      · rintro ⟨rest, rfl, read⟩
        rw [(ih rest).mp read]
      · rintro rfl
        exact ⟨_, rfl, (ih _).mpr rfl⟩

theorem decode?_eq_some_iff (bytes : Bytes) (text : String) :
    decode? bytes = some text ↔ bytes = encode text := by
  rw [encode, ← pieces_eq_map_some_iff, decode?, Option.map_eq_some_iff]
  constructor
  · rintro ⟨chars, read, rfl⟩
    rw [String.toList_ofList]
    exact mapM_id_eq_some_iff.mp read
  · intro read
    exact ⟨text.toList, mapM_id_eq_some_iff.mpr read, String.ofList_toList⟩

theorem length_encode (text : String) : (encode text).length = text.utf8ByteSize := by
  rw [String.utf8ByteSize, ← String.utf8Encode_toList, List.utf8Encode, List.size_toByteArray,
    encode]

@[simp] theorem decode?_encode (text : String) : decode? (encode text) = some text :=
  (decode?_eq_some_iff _ _).mpr rfl

theorem encode_injective : Function.Injective encode := by
  intro left right same
  have read := decode?_encode left
  rw [same, decode?_encode] at read
  exact (Option.some.inj read).symm

end UptimeGreeter.Utf8
