import UptimeGreeter.Pattern.Flags
import UptimeGreeter.Text.Numeral

/-!
What a backslash and the characters after it stand for.
-/

namespace UptimeGreeter.Pattern

inductive Escape where
  | single (char : Char)
  | oneOf
  | assertion
  deriving DecidableEq, Repr

namespace Escape

def isPlain (char : Char) : Bool :=
  char.toNat < 0x80 && !char.isAlphanum && char ∉ ['<', '>']

def control? : Char → Option Char
  | 'a' => some '\x07'
  | 'f' => some '\x0C'
  | 't' => some '\t'
  | 'n' => some '\n'
  | 'r' => some '\r'
  | 'v' => some '\x0B'
  | _ => none

def digits? (flags : Flags) : Nat → List Char → Option (List Char × List Char)
  | 0, text => some ([], text)
  | count + 1, text =>
      match flags.pass text with
      | digit :: rest =>
          if Hexadecimal.isDigit digit then
            (digits? flags count rest).map fun (digits, rest) => (digit :: digits, rest)
          else none
      | [] => none

def charOfNumber? (number : Nat) : Option Char :=
  if valid : number.isValidChar then some (Char.ofNatAux number valid) else none

def number? (flags : Flags) (count : Nat) (text : List Char) : Option (Escape × List Char) := do
  let (digits, rest) ← digits? flags count text
  let char ← charOfNumber? (Hexadecimal.value digits)
  return (.single char, rest)

def byte? (flags : Flags) (text : List Char) : Option (Escape × List Char) := do
  let (escape, rest) ← number? flags 2 text
  match escape with
  | .single char => if flags.unicode || char.toNat < 0x80 then return (escape, rest) else none
  | _ => none

def property? (flags : Flags) (text : List Char) : Option (Escape × List Char) :=
  match flags.pass text with
  | letter :: rest =>
      if flags.unicode && letter.toUpper ∈ ['C', 'L', 'M', 'N', 'P', 'S', 'Z'] then
        some (.oneOf, rest)
      else none
  | [] => none

/-- The escape that a text after a backslash begins with. The complement of a class goes beyond
ASCII, and word boundaries beyond ASCII are not supported. -/
def read? (flags : Flags) : List Char → Option (Escape × List Char)
  | [] => none
  | char :: rest =>
      match char with
      | 'x' => byte? flags rest
      | 'u' => number? flags 4 rest
      | 'U' => number? flags 8 rest
      | 'p' | 'P' => property? flags rest
      | 'd' | 's' | 'w' => some (.oneOf, rest)
      | 'D' | 'S' | 'W' => if flags.unicode then some (.oneOf, rest) else none
      | 'A' | 'z' => some (.assertion, rest)
      | 'b' | 'B' | '<' | '>' => if flags.unicode then none else some (.assertion, rest)
      | _ =>
          match control? char with
          | some meant => some (.single meant, rest)
          | none => if isPlain char then some (.single char, rest) else none

end Escape

end UptimeGreeter.Pattern
