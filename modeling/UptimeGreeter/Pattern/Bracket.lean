import UptimeGreeter.Pattern.Escape

/-!
Sets of characters in brackets: single characters, ranges, named classes, other sets, and the
signs that join two sets. How deeply the parts of a pattern are nested is counted while it is read.
-/

namespace UptimeGreeter.Pattern

/-- Parts that stand side by side: their number and how deep they go. -/
structure Row where
  size : Nat
  earlier : Nat
  last : Nat
  repeatable : Bool
  deriving DecidableEq, Repr

namespace Row

def empty : Row := ⟨0, 0, 0, false⟩

def push (row : Row) (depth : Nat) (repeatable : Bool) : Row :=
  ⟨row.size + 1, max row.earlier row.last, depth, repeatable⟩

def repeatLast? (row : Row) : Option Row :=
  if row.repeatable then some { row with last := row.last + 1 } else none

def depth (row : Row) : Nat :=
  match row.size with
  | 0 | 1 => row.last
  | _ => max row.earlier row.last + 1

end Row

structure Bracket where
  members : Row
  /-- The depth of what stands left of a joining sign. -/
  left : Option Nat
  deriving DecidableEq, Repr

namespace Bracket

def empty : Bracket := ⟨.empty, none⟩

def push (bracket : Bracket) (depth : Nat) : Bracket :=
  { bracket with members := bracket.members.push depth false }

def inside (bracket : Bracket) : Nat :=
  match bracket.left with
  | none => bracket.members.depth
  | some left => max left bracket.members.depth + 1

def join (bracket : Bracket) : Bracket :=
  ⟨.empty, some bracket.inside⟩

def depth (bracket : Bracket) : Nat :=
  bracket.inside + 1

def classNames : List String :=
  ["alnum", "alpha", "ascii", "blank", "cntrl", "digit", "graph", "lower", "print", "punct",
    "space", "upper", "word", "xdigit"]

def namedClass? : List Char → Option (Bool × List Char)
  | ':' :: text =>
      let (complement, text) :=
        match text with
        | '^' :: text => (true, text)
        | _ => (false, text)
      match text.dropWhile (· ≠ ':') with
      | ':' :: ']' :: rest =>
          if String.ofList (text.takeWhile (· ≠ ':')) ∈ classNames then some (complement, rest)
          else none
      | _ => none
  | _ => none

def leadingDashes (flags : Flags) (bracket : Bracket) (text : List Char) :
    Bracket × List Char :=
  match passed : flags.pass text with
  | '-' :: rest =>
      have shorter : rest.length < text.length := by
        have bound := flags.length_pass_le text
        rw [passed, List.length_cons] at bound
        omega
      leadingDashes flags (bracket.push 0) rest
  | other => (bracket, other)
termination_by text.length

def open? (flags : Flags) (text : List Char) : Option (Bracket × List Char) :=
  let (complement, text) :=
    match flags.pass text with
    | '^' :: rest => (true, rest)
    | text => (false, text)
  if complement && !flags.unicode then none
  else
    match leadingDashes flags .empty text with
    | (bracket, ']' :: rest) =>
        if bracket.members.size = 0 then some (bracket.push 0, rest) else some (bracket, ']' :: rest)
    | opened => some opened

def item? (flags : Flags) : List Char → Option (Escape × List Char)
  | [] => none
  | '\\' :: rest => Escape.read? flags rest
  | char :: rest => some (.single char, rest)

def isMember (flags : Flags) : Escape → Bool
  | .single char => flags.unicode || char.toNat < 0x80
  | .oneOf => true
  | .assertion => false

def endsAtDash (flags : Flags) (rest : List Char) : Bool :=
  let rest :=
    if flags.spaced then
      match rest.dropWhile Text.isBlank with
      | '#' :: rest => rest.dropWhile Text.isBlank
      | rest => rest
    else rest
  match rest with
  | ']' :: _ | '-' :: _ => true
  | _ => false

def member? (flags : Flags) (text : List Char) : Option (List Char) := do
  let (first, text) ← item? flags text
  match flags.pass text with
  | '-' :: rest =>
      if endsAtDash flags rest then
        if isMember flags first then some ('-' :: rest) else none
      else
        let (last, text) ← item? flags (flags.pass rest)
        match first, last with
        | .single low, .single high =>
            if low ≤ high && isMember flags first && isMember flags last then some text else none
        | _, _ => none
  | text => if isMember flags first then some text else none

def isJoin (char : Char) : Bool :=
  char ∈ ['&', '-', '~']

end Bracket

end UptimeGreeter.Pattern
