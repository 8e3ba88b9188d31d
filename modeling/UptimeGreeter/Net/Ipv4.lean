import UptimeGreeter.Text.Numeral
import UptimeGreeter.Text.Split

/-!
IPv4 addresses in dotted decimal form.
-/

namespace UptimeGreeter.Net

structure Ipv4 where
  first : UInt8
  second : UInt8
  third : UInt8
  fourth : UInt8
  deriving DecidableEq, Repr

namespace Ipv4

def text (address : Ipv4) : String :=
  s!"{address.first}.{address.second}.{address.third}.{address.fourth}"

def octet? (text : List Char) : Option UInt8 :=
  if text.length ≤ 3 ∧ (text.head? = some '0' → text.length = 1) then
    match Decimal.natural? text with
    | some value => if value < 256 then some (UInt8.ofNat value) else none
    | none => none
  else none

def ofChars? (text : List Char) : Option Ipv4 :=
  match Split.all '.' text with
  | [first, second, third, fourth] => do
      return ⟨← octet? first, ← octet? second, ← octet? third, ← octet? fourth⟩
  | _ => none

end Ipv4

end UptimeGreeter.Net
