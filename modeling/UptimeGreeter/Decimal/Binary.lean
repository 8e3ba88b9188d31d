/-!
Binary floating-point numbers of 64 bits, and rounding a fraction to the nearest of them.
-/

namespace UptimeGreeter.Decimal

inductive Binary where
  /-- A significand below `2 ^ 53` times a power of two. Of several forms of one value it is the one
  with the least exponent from -1074 upwards. -/
  | finite (negative : Bool) (significand : Nat) (exponent : Int)
  | infinite (negative : Bool)
  | notANumber
  deriving DecidableEq, Repr

namespace Binary

def zero (negative : Bool) : Binary := .finite negative 0 (-1074)

def roundToEven (numerator denominator : Nat) : Nat :=
  let quotient := numerator / denominator
  let twice := 2 * (numerator % denominator)
  if denominator < twice ∨ (twice = denominator ∧ quotient % 2 = 1) then quotient + 1 else quotient

def ofFraction (negative : Bool) (numerator denominator : Nat) : Binary :=
  let scaled (exponent : Int) : Nat × Nat :=
    (numerator * Nat.pow 2 (-exponent).toNat, denominator * Nat.pow 2 exponent.toNat)
  let least : Int := (numerator.log2 : Int) - denominator.log2 - 53
  let (above, below) := scaled least
  let exponent := max (if Nat.pow 2 53 * below ≤ above then least + 1 else least) (-1074)
  let significand := roundToEven (scaled exponent).1 (scaled exponent).2
  let (significand, exponent) :=
    if significand = Nat.pow 2 53 then (Nat.pow 2 52, exponent + 1) else (significand, exponent)
  if 971 < exponent then .infinite negative
  else if significand = 0 then zero negative
  else .finite negative significand exponent

def ofDecimal (negative : Bool) (significand : Nat) (exponent : Int) : Binary :=
  let magnitude := (Nat.toDigits 10 significand).length + exponent
  if significand = 0 ∨ magnitude < -330 then zero negative
  else if 330 < magnitude then .infinite negative
  else ofFraction negative (significand * Nat.pow 10 exponent.toNat) (Nat.pow 10 (-exponent).toNat)

def mantissa? (text : List Char) : Option (List Char × List Char × List Char) :=
  let whole := text.takeWhile Char.isDigit
  let rest := text.dropWhile Char.isDigit
  let (fraction, rest) :=
    match rest with
    | '.' :: more => (more.takeWhile Char.isDigit, more.dropWhile Char.isDigit)
    | _ => ([], rest)
  if whole.isEmpty && fraction.isEmpty then none else some (whole, fraction, rest)

def exponent? : List Char → Option Int
  | [] => some 0
  | mark :: text =>
      if mark = 'e' ∨ mark = 'E' then
        let (negative, digits) :=
          match text with
          | '-' :: digits => (true, digits)
          | '+' :: digits => (false, digits)
          | digits => (false, digits)
        if digits.isEmpty || digits.any (!·.isDigit) then none
        else
          let magnitude : Int := Nat.ofDigitChars 10 digits 0
          some (if negative then -magnitude else magnitude)
      else none

def ofUnsigned? (negative : Bool) (text : List Char) : Option Binary :=
  let name := text.map Char.toLower
  if name = "inf".toList ∨ name = "infinity".toList then some (.infinite negative)
  else if name = "nan".toList then some .notANumber
  else do
    let (whole, fraction, rest) ← mantissa? text
    let exponent ← exponent? rest
    return ofDecimal negative (Nat.ofDigitChars 10 (whole ++ fraction) 0)
      (exponent - fraction.length)

def ofChars? : List Char → Option Binary
  | '-' :: text => ofUnsigned? true text
  | '+' :: text => ofUnsigned? false text
  | text => ofUnsigned? false text

def orderKey : Binary → Int
  | .finite negative significand exponent =>
      let magnitude : Int := significand + (exponent + 1074) * Int.pow 2 53
      if negative then -magnitude else magnitude
  | .infinite negative => if negative then -Int.pow 2 66 else Int.pow 2 66
  | .notANumber => Int.pow 2 67

end Binary

end UptimeGreeter.Decimal
