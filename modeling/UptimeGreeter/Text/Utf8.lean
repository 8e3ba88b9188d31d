/-!
UTF-8: reading bytes as text, strictly or with a replacement character for each maximal
ill-formed part, and cutting a text at a number of bytes.
-/

namespace UptimeGreeter

abbrev Bytes := List UInt8

namespace Utf8

/-- A character of which some bytes have been read: its bits so far, the bounds of its next byte,
and how many bytes come after that one. -/
structure Partway where
  bits : Nat
  low : Nat
  high : Nat
  more : Nat
  deriving DecidableEq, Repr

/-- The pieces that one byte completes, `none` standing for an ill-formed part, and the character
it leaves unfinished. -/
structure Step where
  pieces : List (Option Char)
  partway : Option Partway
  deriving DecidableEq, Repr

def firstByte (byte : Nat) : Step :=
  if byte < 0x80 then ⟨[some (Char.ofNat byte)], none⟩
  else if byte < 0xC2 then ⟨[none], none⟩
  else if byte < 0xE0 then ⟨[], some ⟨byte - 0xC0, 0x80, 0xBF, 0⟩⟩
  else if byte = 0xE0 then ⟨[], some ⟨0, 0xA0, 0xBF, 1⟩⟩
  else if byte = 0xED then ⟨[], some ⟨0xD, 0x80, 0x9F, 1⟩⟩
  else if byte < 0xF0 then ⟨[], some ⟨byte - 0xE0, 0x80, 0xBF, 1⟩⟩
  else if byte = 0xF0 then ⟨[], some ⟨0, 0x90, 0xBF, 2⟩⟩
  else if byte < 0xF4 then ⟨[], some ⟨byte - 0xF0, 0x80, 0xBF, 2⟩⟩
  else if byte = 0xF4 then ⟨[], some ⟨4, 0x80, 0x8F, 2⟩⟩
  else ⟨[none], none⟩

def laterByte (partway : Partway) (byte : Nat) : Step :=
  let bits := partway.bits * 64 + (byte - 0x80)
  match partway.more with
  | 0 => ⟨[some (Char.ofNat bits)], none⟩
  | more + 1 => ⟨[], some ⟨bits, 0x80, 0xBF, more⟩⟩

/-- A byte that cannot continue the unfinished character ends it as an ill-formed part and is read
afresh. -/
def step : Option Partway → Nat → Step
  | none, byte => firstByte byte
  | some partway, byte =>
      if partway.low ≤ byte ∧ byte ≤ partway.high then laterByte partway byte
      else
        let fresh := firstByte byte
        ⟨none :: fresh.pieces, fresh.partway⟩

def piecesFrom (partway : Option Partway) : Bytes → List (Option Char)
  | [] => if partway.isSome then [none] else []
  | byte :: rest =>
      let next := step partway byte.toNat
      next.pieces ++ piecesFrom next.partway rest

/-- The characters of a byte string in order, with `none` for each maximal ill-formed part. -/
def pieces (bytes : Bytes) : List (Option Char) :=
  piecesFrom none bytes

def decode? (bytes : Bytes) : Option String :=
  ((pieces bytes).mapM id).map String.ofList

def decodeLossy (bytes : Bytes) : String :=
  String.ofList ((pieces bytes).map (·.getD '\uFFFD'))

def encode (text : String) : Bytes :=
  text.toList.flatMap String.utf8EncodeChar

def width : List Char → Nat
  | [] => 0
  | char :: rest => char.utf8Size + width rest

/-- A text in two, the first part of so many bytes. There are no such parts if the bytes end inside
a character. -/
def split? : Nat → List Char → Option (List Char × List Char)
  | 0, text => some ([], text)
  | _ + 1, [] => none
  | count + 1, char :: rest =>
      if char.utf8Size ≤ count + 1 then
        (split? (count + 1 - char.utf8Size) rest).map fun (before, after) => (char :: before, after)
      else none

theorem width_append (front back : List Char) :
    width (front ++ back) = width front + width back := by
  induction front with
  | nil => exact (Nat.zero_add _).symm
  | cons char front ih => rw [List.cons_append, width, width, ih, Nat.add_assoc]

theorem split?_append (front back : List Char) :
    split? (width front) (front ++ back) = some (front, back) := by
  induction front with
  | nil =>
      unfold split?
      rfl
  | cons char front ih =>
      obtain ⟨count, total⟩ : ∃ count, char.utf8Size + width front = count + 1 :=
        Nat.exists_eq_add_one.mpr (Nat.add_pos_left char.utf8Size_pos _)
      have rest : count + 1 - char.utf8Size = width front := by
        rw [← total, Nat.add_sub_cancel_left]
      have fits : char.utf8Size ≤ count + 1 := by
        rw [← total]
        exact Nat.le_add_right ..
      rw [width, total, List.cons_append, split?, if_pos fits, rest, ih]
      rfl

end Utf8

end UptimeGreeter
