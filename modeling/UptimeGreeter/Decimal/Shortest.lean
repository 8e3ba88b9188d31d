import UptimeGreeter.Decimal.Binary

/-!
The decimal text of a binary number: the fewest digits that read back as the number, the nearest of
those, in positional form.
-/

namespace UptimeGreeter.Decimal.Shortest

/-- A grid of decimals that step by a power of ten, compared in integers with a binary number, its
neighbours, and the ends of the interval that rounds to it. -/
structure Grid where
  step : Nat
  low : Nat
  value : Nat
  high : Nat
  closed : Bool

def Grid.at (significand : Nat) (exponent position : Int) : Grid :=
  let scale := Nat.pow 2 (exponent - 2).toNat * Nat.pow 10 (-position).toNat
  let below := if significand = Nat.pow 2 52 ∧ -1074 < exponent then 1 else 2
  { step := Nat.pow 10 position.toNat * Nat.pow 2 (2 - exponent).toNat
    low := (4 * significand - below) * scale
    value := 4 * significand * scale
    high := (4 * significand + 2) * scale
    closed := significand % 2 = 0 }

def Grid.holds (grid : Grid) (point : Nat) : Bool :=
  let place := point * grid.step
  if grid.closed then grid.low ≤ place && place ≤ grid.high
  else grid.low < place && place < grid.high

def Grid.point? (grid : Grid) : Option Nat :=
  let lower := grid.value / grid.step
  match grid.holds lower, grid.holds (lower + 1) with
  | true, true =>
      some (if (2 * lower + 1) * grid.step ≤ 2 * grid.value then lower + 1 else lower)
  | true, false => some lower
  | false, true => some (lower + 1)
  | false, false => none

def search (significand : Nat) (exponent : Int) : Nat → Int → Nat × Int
  | 0, position => (0, position)
  | tries + 1, position =>
      match (Grid.at significand exponent position).point? with
      | some point => (point, position)
      | none => search significand exponent tries (position - 1)

/-- The shortest decimal digits of a positive number, and the power of ten of the last one.
Seventeen digits always suffice. -/
def digits (significand : Nat) (exponent : Int) : Nat × Int :=
  let magnitude := exponent + significand.log2 + 1
  search significand exponent 20 (magnitude * 30103 / 100000 + 1)

def positional (digits : Nat) (exponent : Int) : List Char :=
  let places := (-exponent).toNat
  let written := Nat.toDigits 10 digits ++ List.replicate exponent.toNat '0'
  if places = 0 then written
  else
    let padded := written.leftpad (places + 1) '0'
    padded.take (padded.length - places) ++ '.' :: padded.drop (padded.length - places)

def sign (negative : Bool) : List Char :=
  if negative then ['-'] else []

def text : Binary → List Char
  | .finite negative significand exponent =>
      if significand = 0 then sign negative ++ ['0']
      else
        let (digits, position) := digits significand exponent
        sign negative ++ positional digits position
  | .infinite negative => sign negative ++ "inf".toList
  | .notANumber => "NaN".toList

end UptimeGreeter.Decimal.Shortest
