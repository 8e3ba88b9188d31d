import UptimeGreeter.Text.Split
import UptimeGreeter.Text.Utf8

/-!
Request targets: a path with a query, an absolute address, a bare authority, or a lone asterisk.
-/

namespace UptimeGreeter.Http

inductive UriFault where
  | empty
  | tooLong
  | badCharacter
  | badAuthority
  | badFormat
  | schemeTooLong
  deriving DecidableEq, Repr

def UriFault.message : UriFault → String
  | .empty => "empty string"
  | .tooLong => "uri too long"
  | .badCharacter => "invalid uri character"
  | .badAuthority => "invalid authority"
  | .badFormat => "invalid format"
  | .schemeTooLong => "scheme too long"

/-- A target without its fragment. A bare authority has an empty path, an absolute address one that
is not empty. -/
structure Uri where
  scheme : Option String
  authority : Option String
  path : String
  query : Option String
  deriving DecidableEq, Repr

namespace Uri

def text (uri : Uri) : String :=
  ((uri.scheme.map (· ++ "://")).getD "") ++ uri.authority.getD "" ++ uri.path ++
    ((uri.query.map ("?" ++ ·)).getD "")

def isBeyondAscii (char : Char) : Bool :=
  0x80 ≤ char.toNat

def isPathChar (char : Char) : Bool :=
  isBeyondAscii char || char.isAlphanum || char ∈ "!\"$%&'()*+,-./:;=@[\\]^_\x7b|\x7d~".toList

def isQueryChar (char : Char) : Bool :=
  (isPathChar char && char ≠ '"') || char = '?' || char = '\x60'

def isSchemeChar (char : Char) : Bool :=
  char.isAlphanum || char ∈ ['+', '-', '.', '~']

def isAuthorityChar (char : Char) : Bool :=
  char.isAlphanum || char ∈ "!$&'()*+,-.;=_~".toList

def pathWithQuery (text : List Char) : Except UriFault (String × Option String) :=
  let text := text.takeWhile (· ≠ '#')
  match Split.once? '?' text with
  | none => if text.all isPathChar then .ok (String.ofList text, none) else .error .badCharacter
  | some (path, query) =>
      if path.all isPathChar && query.all isQueryChar then
        .ok (String.ofList path, some (String.ofList query))
      else .error .badCharacter

/-- What has been seen of an authority. An at sign or a closing bracket wipes out the colons and
percent signs before it, which belong to a user or to an IPv6 address. -/
structure AuthorityScan where
  colons : Nat
  bracketOpened : Bool
  bracketClosed : Bool
  percent : Bool
  afterAt : Bool

namespace AuthorityScan

def start : AuthorityScan := ⟨0, false, false, false, false⟩

def advance (scan : AuthorityScan) (char : Char) : Except UriFault AuthorityScan :=
  let scan := { scan with afterAt := false }
  match char with
  | ':' => if 8 ≤ scan.colons then .error .badAuthority else .ok { scan with colons := scan.colons + 1 }
  | '[' =>
      if scan.percent || scan.bracketOpened then .error .badAuthority
      else .ok { scan with bracketOpened := true }
  | ']' =>
      if scan.bracketOpened && !scan.bracketClosed then
        .ok { scan with bracketClosed := true, colons := 0, percent := false }
      else .error .badAuthority
  | '@' => .ok { scan with afterAt := true, colons := 0, percent := false }
  | '%' => .ok { scan with percent := true }
  | _ => if isAuthorityChar char then .ok scan else .error .badCharacter

def isComplete (scan : AuthorityScan) : Bool :=
  scan.bracketOpened == scan.bracketClosed && scan.colons ≤ 1 && !scan.afterAt && !scan.percent

end AuthorityScan

def endsAuthority (char : Char) : Bool :=
  char ∈ ['/', '?', '#']

def splitAuthority (text : List Char) : Except UriFault (List Char × List Char) :=
  let authority := text.takeWhile (!endsAuthority ·)
  match authority.foldlM AuthorityScan.advance AuthorityScan.start with
  | .error fault => .error fault
  | .ok scan =>
      if scan.isComplete then .ok (authority, text.dropWhile (!endsAuthority ·))
      else .error .badAuthority

def splitScheme? (text : List Char) : Option (List Char × List Char) :=
  match text.dropWhile isSchemeChar with
  | ':' :: '/' :: '/' :: rest =>
      if text.length ≤ 3 then none else some (text.takeWhile isSchemeChar, rest)
  | _ => none

def schemeText (scheme : List Char) : String :=
  let lower := scheme.map Char.toLower
  String.ofList (if lower = "http".toList ∨ lower = "https".toList then lower else scheme)

def ofAbsolute (scheme rest : List Char) : Except UriFault Uri :=
  if 64 < scheme.length then .error .schemeTooLong
  else if rest.isEmpty then .error .empty
  else
    match splitAuthority rest with
    | .error fault => .error fault
    | .ok (authority, rest) =>
        if authority.isEmpty then .error .badFormat
        else
          match pathWithQuery rest with
          | .error fault => .error fault
          | .ok (path, query) =>
              .ok ⟨some (schemeText scheme), some (String.ofList authority),
                if path.isEmpty then "/" else path, query⟩

def ofAuthority (text : List Char) : Except UriFault Uri :=
  match splitAuthority text with
  | .error fault => .error fault
  | .ok (authority, rest) =>
      if rest.isEmpty then .ok ⟨none, some (String.ofList authority), "", none⟩
      else if text.length = 1 then .error .badCharacter
      else .error .badFormat

def ofText (text : String) : Except UriFault Uri :=
  if 65534 < text.utf8ByteSize then .error .tooLong
  else
    match text.toList with
    | [] => .error .empty
    | ['*'] => .ok ⟨none, none, "*", none⟩
    | '/' :: rest =>
        match pathWithQuery ('/' :: rest) with
        | .error fault => .error fault
        | .ok (path, query) => .ok ⟨none, none, path, query⟩
    | chars =>
        match splitScheme? chars with
        | some (scheme, rest) => ofAbsolute scheme rest
        | none => ofAuthority chars

end Uri

end UptimeGreeter.Http
