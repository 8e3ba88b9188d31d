import UptimeGreeter.Net.Ipv6

/-!
Addresses of either family, and endpoints: an address with a port.
-/

namespace UptimeGreeter.Net

inductive Address where
  | v4 (address : Ipv4)
  | v6 (address : Ipv6)
  deriving DecidableEq, Repr

namespace Address

def text : Address → String
  | .v4 address => address.text
  | .v6 address => address.text

def isV6 : Address → Bool
  | .v4 _ => false
  | .v6 _ => true

def ofText? (text : String) : Option Address :=
  match Ipv4.ofChars? text.toList with
  | some address => some (.v4 address)
  | none => (Ipv6.ofChars? text.toList).map .v6

end Address

/-- An address with a port. The zone of an IPv6 address is the number of the network it is local to,
or zero. -/
inductive Endpoint where
  | v4 (address : Ipv4) (port : UInt16)
  | v6 (address : Ipv6) (zone : UInt32) (port : UInt16)
  deriving DecidableEq, Repr

namespace Endpoint

def ofAddress (port : UInt16) : Address → Endpoint
  | .v4 address => .v4 address port
  | .v6 address => .v6 address 0 port

def isV6 : Endpoint → Bool
  | .v4 .. => false
  | .v6 .. => true

def zoneText (zone : UInt32) : String :=
  if zone = 0 then "" else s!"%{zone}"

def text : Endpoint → String
  | .v4 address port => s!"{address.text}:{port}"
  | .v6 address zone port => s!"[{address.text}{zoneText zone}]:{port}"

def port? (text : List Char) : Option UInt16 :=
  match Decimal.natural? text with
  | some value => if value < UInt16.size then some (UInt16.ofNat value) else none
  | none => none

def zone? (text : List Char) : Option UInt32 :=
  match Decimal.natural? text with
  | some value => if value < UInt32.size then some (UInt32.ofNat value) else none
  | none => none

def zonedAddress? (text : List Char) : Option (Ipv6 × UInt32) :=
  match Split.once? '%' text with
  | some (address, zone) => do return (← Ipv6.ofChars? address, ← zone? zone)
  | none => (Ipv6.ofChars? text).map (·, 0)

def ofText? (text : String) : Option Endpoint :=
  match text.toList with
  | '[' :: rest => do
      let (inside, after) ← Split.once? ']' rest
      match after with
      | ':' :: port => do
          let (address, zone) ← zonedAddress? inside
          return .v6 address zone (← port? port)
      | _ => none
  | chars => do
      let (address, port) ← Split.once? ':' chars
      return .v4 (← Ipv4.ofChars? address) (← port? port)

end Endpoint

end UptimeGreeter.Net
