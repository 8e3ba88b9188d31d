import UptimeGreeter.Text.Utf8

/-!
What a terminal would show of a text: control characters and the escape sequences that steer a
terminal are left out, line breaks and tabs stay.
-/

namespace UptimeGreeter.Terminal

inductive Place where
  | text
  | escape
  | longEscape
  | controlSequence
  | deviceStart
  | deviceParameter
  | deviceIntermediate
  | string
  | command
  deriving DecidableEq, Repr

def isBreak (char : Char) : Bool :=
  char ∈ ['\t', '\n', '\x0C', '\r']

def isControl (char : Char) : Bool :=
  char.toNat < 0x20 || char = '\x7F'

def isVisible (char : Char) : Bool :=
  isBreak char || !isControl char

def isBetween (first last char : Char) : Bool :=
  first ≤ char && char ≤ last

def isIntermediate (char : Char) : Bool :=
  isBetween ' ' '/' char

def afterEscape (char : Char) : Place :=
  match char with
  | '[' => .controlSequence
  | ']' => .command
  | 'P' => .deviceStart
  | 'X' | '^' | '_' => .string
  | _ =>
      if isIntermediate char then .longEscape
      else if isBetween '0' '~' char then .text
      else .escape

def afterDevice (place : Place) (char : Char) : Place :=
  if isBetween '@' '~' char then .string
  else if isIntermediate char then .deviceIntermediate
  else if isBetween '0' '?' char then
    match place with
    | .deviceStart => if char = ':' then .string else .deviceParameter
    | .deviceParameter => if char.isDigit || char = ';' then .deviceParameter else .string
    | _ => .string
  else place

/-- The byte that terminates a string also does so inside the encoding of a character. -/
def endsString (char : Char) : Bool :=
  0x9C ∈ String.utf8EncodeChar char

/-- The place of the next character. Two control characters cancel any sequence, and an escape
character begins the next. -/
def place (current : Place) (char : Char) : Place :=
  if char = '\x1B' then .escape
  else if char = '\x18' ∨ char = '\x1A' then .text
  else
    match current with
    | .text => .text
    | .escape => if isBreak char then .text else afterEscape char
    | .longEscape => if isBreak char || isBetween '0' '~' char then .text else .longEscape
    | .controlSequence =>
        if isBreak char || isBetween '@' '~' char then .text else .controlSequence
    | .deviceStart | .deviceParameter | .deviceIntermediate => afterDevice current char
    | .string => if endsString char then .text else .string
    | .command => if char = '\x07' then .text else .command

/-- A line break or a tab is shown also where it breaks a sequence off. -/
def isShown (current : Place) (char : Char) : Bool :=
  match current with
  | .text => isVisible char
  | .escape | .longEscape | .controlSequence => isBreak char
  | _ => false

def shownFrom (current : Place) : List Char → List Char
  | [] => []
  | char :: rest =>
      let after := shownFrom (place current char) rest
      if isShown current char then char :: after else after

def shown (text : String) : String :=
  String.ofList (shownFrom .text text.toList)

end UptimeGreeter.Terminal
