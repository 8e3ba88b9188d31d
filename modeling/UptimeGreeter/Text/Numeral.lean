/-!
Numbers in digits: decimal text padded to a width, decimal integers read under limits, and
hexadecimal digits of either case. Digits are taken from the left, so of a bad digit and a value
beyond the limit the one met first is reported.
-/

namespace UptimeGreeter

namespace Decimal

def padded (width number : Nat) : String :=
  String.ofList ((Nat.toDigits 10 number).leftpad width '0')

def natural? (text : List Char) : Option Nat :=
  if text.isEmpty || text.any (!·.isDigit) then none else some (Nat.ofDigitChars 10 text 0)

inductive IntegerFault where
  | empty
  | badDigit
  | tooLarge
  | tooSmall
  deriving DecidableEq, Repr

def IntegerFault.message : IntegerFault → String
  | .empty => "cannot parse integer from empty string"
  | .badDigit => "invalid digit found in string"
  | .tooLarge => "number too large to fit in target type"
  | .tooSmall => "number too small to fit in target type"

def readMagnitude (limit : Nat) (excess : IntegerFault) (magnitude : Nat) :
    List Char → Except IntegerFault Nat
  | [] => .ok magnitude
  | char :: rest =>
      if char.isDigit then
        let next := magnitude * 10 + (char.toNat - '0'.toNat)
        if next ≤ limit then readMagnitude limit excess next rest else .error excess
      else .error .badDigit

def readDigits (limit : Nat) (excess : IntegerFault) (text : List Char) :
    Except IntegerFault Nat :=
  if text.isEmpty then .error .badDigit else readMagnitude limit excess 0 text

def readUnsigned (limit : Nat) : List Char → Except IntegerFault Nat
  | [] => .error .empty
  | '+' :: digits => readDigits limit .tooLarge digits
  | digits => readDigits limit .tooLarge digits

def readSigned (width : Nat) : List Char → Except IntegerFault Int
  | [] => .error .empty
  | '-' :: digits =>
      (readDigits (Nat.pow 2 (width - 1)) .tooSmall digits).map fun magnitude => -magnitude
  | '+' :: digits =>
      (readDigits (Nat.pow 2 (width - 1) - 1) .tooLarge digits).map fun magnitude => magnitude
  | digits =>
      (readDigits (Nat.pow 2 (width - 1) - 1) .tooLarge digits).map fun magnitude => magnitude

end Decimal

namespace Hexadecimal

def isDigit (char : Char) : Bool :=
  char.isDigit || ('a' ≤ char && char ≤ 'f') || ('A' ≤ char && char ≤ 'F')

def digitValue (char : Char) : Nat :=
  if char.isDigit then char.toNat - '0'.toNat else char.toLower.toNat - 'a'.toNat + 10

def value (digits : List Char) : Nat :=
  digits.foldl (fun value char => value * 16 + digitValue char) 0

end Hexadecimal

end UptimeGreeter
