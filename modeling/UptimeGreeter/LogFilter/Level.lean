import UptimeGreeter.Text.Numeral

/-!
Levels of log records, and thresholds that let records through up to a level.
-/

namespace UptimeGreeter.LogFilter

inductive Level where
  | error
  | warn
  | info
  | debug
  | trace
  deriving DecidableEq, Repr

namespace Level

def all : List Level := [.error, .warn, .info, .debug, .trace]

def verbosity : Level → Nat
  | .error => 1
  | .warn => 2
  | .info => 3
  | .debug => 4
  | .trace => 5

def name : Level → String
  | .error => "error"
  | .warn => "warn"
  | .info => "info"
  | .debug => "debug"
  | .trace => "trace"

end Level

inductive Threshold where
  | off
  | upTo (level : Level)
  deriving DecidableEq, Repr

namespace Threshold

def verbosity : Threshold → Nat
  | .off => 0
  | .upTo level => level.verbosity

def allows (threshold : Threshold) (level : Level) : Bool :=
  level.verbosity ≤ threshold.verbosity

def join (first second : Threshold) : Threshold :=
  if first.verbosity < second.verbosity then second else first

def name : Threshold → String
  | .off => "off"
  | .upTo level => level.name

def all : List Threshold := .off :: Level.all.map .upTo

def ofText? (text : String) : Option Threshold :=
  match Decimal.readUnsigned (UInt64.size - 1) text.toList with
  | .ok number => all.find? (·.verbosity = number)
  | .error _ => all.find? (·.name.toList = text.toList.map Char.toLower)

end Threshold

end UptimeGreeter.LogFilter
