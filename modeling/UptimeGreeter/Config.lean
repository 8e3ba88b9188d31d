import UptimeGreeter.Net.Endpoint
import UptimeGreeter.Text.Quoted

/-!
The configuration of a server.
-/

namespace UptimeGreeter

structure Config where
  host : String
  port : UInt16
  absentProfile : String
  logLevel : Option String
  deriving DecidableEq, Repr

structure InvalidHost where
  host : String
  deriving DecidableEq, Repr

def InvalidHost.message (fault : InvalidHost) : String :=
  s!"invalid bind host '{fault.host}': expected an IP address"

namespace Config

def defaultAbsentProfile : String := "null"

def default : Config :=
  ⟨"0.0.0.0", 8080, defaultAbsentProfile, none⟩

instance : Inhabited Config := ⟨default⟩

/-- Where to listen. Host names are not looked up. -/
def endpoint (config : Config) : Except InvalidHost Net.Endpoint :=
  match Net.Address.ofText? config.host with
  | some address => .ok (.ofAddress config.port address)
  | none => .error ⟨config.host⟩

def optionText : Option String → String
  | none => "None"
  | some text => "Some(" ++ quote text ++ ")"

def describe (config : Config) : String :=
  "Config \x7b host: " ++ quote config.host ++ s!", port: {config.port}" ++
    ", absent_profile: " ++ quote config.absentProfile ++
    ", log_level: " ++ optionText config.logLevel ++ " \x7d"

end Config

end UptimeGreeter
