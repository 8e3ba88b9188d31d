import UptimeGreeter.Http.Uri

/-!
Requests, and the conditions under which one can be built.
-/

namespace UptimeGreeter.Http

def isTokenChar (char : Char) : Bool :=
  char.isAlphanum || char ∈ "!#$%&'*+-.^_\x60|~".toList

def isToken (text : String) : Bool :=
  !text.isEmpty && text.toList.all isTokenChar

def isHeaderByte (byte : UInt8) : Bool :=
  (0x20 ≤ byte && byte ≠ 0x7F) || byte = 0x09

inductive RequestFault where
  | badMethod
  | badUri (fault : UriFault)
  | badHeaderName
  | badHeaderValue
  deriving DecidableEq, Repr

def RequestFault.message : RequestFault → String
  | .badMethod => "invalid HTTP method"
  | .badUri fault => fault.message
  | .badHeaderName => "invalid HTTP header name"
  | .badHeaderValue => "failed to parse header value"

structure Header where
  name : String
  value : String
  deriving DecidableEq, Repr

def Header.isNamed (header : Header) (name : String) : Bool :=
  header.name.toList.map Char.toLower = name.toList

inductive Version where
  | http10
  | http11
  deriving DecidableEq, Repr

def Version.text : Version → String
  | .http10 => "HTTP/1.0"
  | .http11 => "HTTP/1.1"

structure Request where
  method : String
  uri : Uri
  version : Version
  headers : List Header
  body : String
  deriving DecidableEq, Repr

def Header.fault? (header : Header) : Option RequestFault :=
  if !isToken header.name || 65535 < header.name.utf8ByteSize then some .badHeaderName
  else if (Utf8.encode header.value).all isHeaderByte then none
  else some .badHeaderValue

def Request.build (method target : String) (headers : List Header) (body : String) :
    Except RequestFault Request :=
  if isToken method then
    match Uri.ofText target with
    | .error fault => .error (.badUri fault)
    | .ok uri =>
        match headers.findSome? Header.fault? with
        | some fault => .error fault
        | none => .ok ⟨method, uri, .http11, headers, body⟩
  else .error .badMethod

end UptimeGreeter.Http
