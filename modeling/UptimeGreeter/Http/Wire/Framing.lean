import UptimeGreeter.Text.Numeral
import UptimeGreeter.Http.Wire.Head
import UptimeGreeter.Text.Classes

/-!
What the headers of a request say about its connection: where its body ends, and whether another
request may follow.
-/

namespace UptimeGreeter.Http

def Header.members (header : Header) : List (List Char) :=
  let chars := header.value.toList
  if chars.all (·.toNat < 0x80) then
    (Split.all ',' (chars.map Char.toLower)).map Text.trimBlanks
  else []

namespace Wire

inductive Framing where
  | length (count : Nat)
  | chunked
  deriving DecidableEq, Repr

structure BodyHeaders where
  chunked : Option Bool
  length : Option Nat
  deriving DecidableEq, Repr

namespace BodyHeaders

def lengthLimit : Nat := UInt64.size - 3

def addLength (body : BodyHeaders) (count : Nat) : Except Status BodyHeaders :=
  match body.length with
  | some earlier => if earlier = count then .ok body else .error .badRequest
  | none =>
      if lengthLimit < count then .error .headersTooLarge
      else .ok { body with length := some count }

/-- Once a coding is named, lengths are passed over. Lengths may be repeated but not differ, and
HTTP/1.0 knows no codings. -/
def add (version : Version) (body : BodyHeaders) (header : Header) : Except Status BodyHeaders :=
  if header.isNamed "transfer-encoding" then
    if version = .http10 then .error .badRequest
    else .ok { body with chunked := some (header.members.getLast? = some "chunked".toList) }
  else if header.isNamed "content-length" && body.chunked.isNone then
    match Decimal.natural? header.value.toList with
    | some count => if count < UInt64.size then body.addLength count else .error .badRequest
    | none => .error .badRequest
  else .ok body

end BodyHeaders

def framing (version : Version) (headers : List Header) : Except Status Framing :=
  match headers.foldlM (BodyHeaders.add version) ⟨none, none⟩ with
  | .error status => .error status
  | .ok body =>
      match body.chunked with
      | some true => .ok .chunked
      | some false => .error .badRequest
      | none => .ok (.length (body.length.getD 0))

/-- What follows a chunk of length zero that ends a body without trailers. -/
def afterLastChunk? (bytes : Bytes) : Option Bytes :=
  if bytes.head? = some 0x30 then
    let rest := (bytes.dropWhile (· = 0x30)).dropWhile isBlank
    let rest :=
      if rest.head? = some 0x3B then
        rest.dropWhile fun byte => byte ≠ carriageReturn && byte ≠ lineFeed
      else rest
    match rest with
    | 0x0D :: 0x0A :: 0x0D :: 0x0A :: after => some after
    | _ => none
  else none

def afterBody? : Framing → Bytes → Option Bytes
  | .length count, bytes => if count ≤ bytes.length then some (bytes.drop count) else none
  | .chunked, bytes => afterLastChunk? bytes

def isPersistent (version : Version) (headers : List Header) : Bool :=
  (headers.filter (·.isNamed "connection")).foldl
    (fun goesOn header =>
      if goesOn then !header.members.contains "close".toList
      else header.members.contains "keep-alive".toList)
    (version = .http11)

end Wire

end UptimeGreeter.Http
