import UptimeGreeter.Environment

/-!
What the command line can name: the four settings, each with one value, and the two flags.
-/

namespace UptimeGreeter.CommandLine

inductive Setting where
  | host
  | port
  | absentProfile
  | logLevel
  deriving DecidableEq, Repr

namespace Setting

def all : List Setting := [.host, .port, .absentProfile, .logLevel]

def name : Setting → String
  | .host => "host"
  | .port => "port"
  | .absentProfile => "absent-profile"
  | .logLevel => "log-level"

def placeholder : Setting → String
  | .host => "HOST"
  | .port => "PORT"
  | .absentProfile => "ABSENT_PROFILE"
  | .logLevel => "LOG_LEVEL"

def usage (setting : Setting) : String :=
  s!"--{setting.name} <{setting.placeholder}>"

def summary : Setting → String
  | .host => "Address to bind"
  | .port => "Port to listen on"
  | .absentProfile => "Text shown in place of BUILD_PROFILE when it is unset"
  | .logLevel => "Tracing filter, overrides RUST_LOG"

def standIn? : Setting → Option Variable
  | .host => some .bindHost
  | .port => some .port
  | .absentProfile => some .absentProfile
  | .logLevel => none

def defaultText? : Setting → Option String
  | .host => some "0.0.0.0"
  | .port => some "8080"
  | .absentProfile => some "null"
  | .logLevel => none

end Setting

inductive Flag where
  | help
  | version
  deriving DecidableEq, Repr

namespace Flag

def name : Flag → String
  | .help => "help"
  | .version => "version"

def usage (flag : Flag) : String :=
  s!"--{flag.name}"

def ofLetter? : Char → Option Flag
  | 'h' => some .help
  | 'V' => some .version
  | _ => none

end Flag

inductive LongName where
  | setting (setting : Setting)
  | flag (flag : Flag)
  deriving DecidableEq, Repr

namespace LongName

def all : List LongName :=
  Setting.all.map .setting ++ [.flag .help, .flag .version]

def text : LongName → String
  | .setting chosen => chosen.name
  | .flag chosen => chosen.name

def usage : LongName → String
  | .setting chosen => chosen.usage
  | .flag chosen => chosen.usage

def ofText? (text : String) : Option LongName :=
  all.find? (·.text = text)

end LongName

end UptimeGreeter.CommandLine
