import UptimeGreeter.CommandLine.Setting
import UptimeGreeter.Config
import UptimeGreeter.Text.Numeral

/-!
Settings together with their values, read from the bytes of an argument or a variable.
-/

namespace UptimeGreeter.CommandLine

inductive PortFault where
  | notInteger (fault : Decimal.IntegerFault)
  | outOfRange (value : Int)
  deriving DecidableEq, Repr

def PortFault.message : PortFault → String
  | .notInteger fault => fault.message
  | .outOfRange value => s!"{value} is not in 0..=65535"

/-- The text is read as an integer of 64 bits first, and then has to be a port number. -/
def readPort (text : String) : Except PortFault UInt16 :=
  match Decimal.readSigned 64 text.toList with
  | .error fault => .error (.notInteger fault)
  | .ok value =>
      if 0 ≤ value ∧ value < 65536 then .ok (UInt16.ofNat value.toNat) else .error (.outOfRange value)

inductive ValueFault where
  | notText
  | badPort (text : String) (fault : PortFault)
  deriving DecidableEq, Repr

inductive Assignment where
  | host (text : String)
  | port (number : UInt16)
  | absentProfile (text : String)
  | logLevel (text : String)
  deriving DecidableEq, Repr

namespace Assignment

def setting : Assignment → Setting
  | .host _ => .host
  | .port _ => .port
  | .absentProfile _ => .absentProfile
  | .logLevel _ => .logLevel

def ofText (setting : Setting) (text : String) : Except ValueFault Assignment :=
  match setting with
  | .host => .ok (.host text)
  | .port =>
      match readPort text with
      | .ok number => .ok (.port number)
      | .error fault => .error (.badPort text fault)
  | .absentProfile => .ok (.absentProfile text)
  | .logLevel => .ok (.logLevel text)

def ofBytes (setting : Setting) (value : Bytes) : Except ValueFault Assignment :=
  match Utf8.decode? value with
  | some text => ofText setting text
  | none => .error .notText

def apply (config : Config) : Assignment → Config
  | .host text => { config with host := text }
  | .port number => { config with port := number }
  | .absentProfile text => { config with absentProfile := text }
  | .logLevel text => { config with logLevel := some text }

end Assignment

end UptimeGreeter.CommandLine
