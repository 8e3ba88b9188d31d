import UptimeGreeter.Http.Response

/-!
The head of a request as bytes: a line with method, target and version, then the headers, up to an
empty line. A fault shows as soon as its first byte is there.
-/

namespace UptimeGreeter.Http.Wire

inductive Outcome (α : Type) where
  | read (value : α) (rest : Bytes)
  | unfinished
  | broken (status : Status)
  deriving DecidableEq, Repr

namespace Outcome

variable {α β : Type}

def andThen (outcome : Outcome α) (next : α → Bytes → Outcome β) : Outcome β :=
  match outcome with
  | .read value rest => next value rest
  | .unfinished => .unfinished
  | .broken status => .broken status

def map (change : α → β) (outcome : Outcome α) : Outcome β :=
  outcome.andThen fun value rest => .read (change value) rest

end Outcome

structure Head where
  method : Bytes
  target : Bytes
  version : Version
  headers : List Header
  deriving DecidableEq, Repr

def lineFeed : UInt8 := 0x0A
def carriageReturn : UInt8 := 0x0D
def space : UInt8 := 0x20
def colon : UInt8 := 0x3A

def isBlank (byte : UInt8) : Bool :=
  byte = space || byte = 0x09

def isTokenByte (byte : UInt8) : Bool :=
  isTokenChar (Char.ofNat byte.toNat)

def isTargetByte (byte : UInt8) : Bool :=
  space < byte && byte ≠ 0x7F

/-- Empty lines before a request are passed over, also one of which half has come. -/
def skipEmptyLines : Bytes → Bytes
  | [0x0D] => []
  | 0x0D :: 0x0A :: rest => skipEmptyLines rest
  | 0x0A :: rest => skipEmptyLines rest
  | bytes => bytes

def readLineEnd : Bytes → Outcome Unit
  | [] | [0x0D] => .unfinished
  | 0x0D :: 0x0A :: rest => .read () rest
  | 0x0A :: rest => .read () rest
  | _ => .broken .badRequest

def readUpTo (last : UInt8) (accepts : UInt8 → Bool) (bytes : Bytes) : Outcome Bytes :=
  let word := bytes.takeWhile accepts
  match bytes.dropWhile accepts with
  | [] => .unfinished
  | byte :: rest =>
      if byte = last ∧ word ≠ [] then .read word rest else .broken .badRequest

def readVersion (bytes : Bytes) : Outcome Version :=
  let start := bytes.take 8
  if start = Utf8.encode Version.http11.text then .read .http11 (bytes.drop 8)
  else if start = Utf8.encode Version.http10.text then .read .http10 (bytes.drop 8)
  else if start.isPrefixOf (Utf8.encode Version.http11.text) then .unfinished
  else .broken .badRequest

def readHeader (bytes : Bytes) : Outcome Header :=
  (readUpTo colon isTokenByte bytes).andThen fun name rest =>
    let rest := rest.dropWhile isBlank
    let value := rest.takeWhile isHeaderByte
    let trimmed := (value.reverse.dropWhile isBlank).reverse
    (readLineEnd (rest.drop value.length)).map fun _ =>
      ⟨Utf8.decodeLossy name, Utf8.decodeLossy trimmed⟩

def readHeaders : Nat → Bytes → Outcome (List Header)
  | allowance, bytes =>
      if bytes = [] ∨ bytes.head? = some lineFeed ∨ bytes.head? = some carriageReturn then
        (readLineEnd bytes).map fun _ => []
      else
        match allowance with
        | 0 => .broken .headersTooLarge
        | allowance + 1 =>
            (readHeader bytes).andThen fun header rest =>
              (readHeaders allowance rest).map (header :: ·)

def headerAllowance : Nat := 100

def readHead (bytes : Bytes) : Outcome Head :=
  (readUpTo space isTokenByte (skipEmptyLines bytes)).andThen fun method rest =>
    (readUpTo space isTargetByte rest).andThen fun target rest =>
      (readVersion rest).andThen fun version rest =>
        (readLineEnd rest).andThen fun _ rest =>
          (readHeaders headerAllowance rest).map fun headers => ⟨method, target, version, headers⟩

def Head.request (head : Head) : Except Status Request :=
  match Utf8.decode? head.target with
  | none => .error .badRequest
  | some target =>
      match Request.build (Utf8.decodeLossy head.method) target head.headers "" with
      | .ok request => .ok { request with version := head.version }
      | .error (.badUri .tooLong) => .error .uriTooLong
      | .error _ => .error .badRequest

end UptimeGreeter.Http.Wire
