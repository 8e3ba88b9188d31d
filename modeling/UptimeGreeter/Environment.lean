import UptimeGreeter.Text.Utf8

/-!
The environment variables that the program reads. Their values are bytes, not always text.
-/

namespace UptimeGreeter

inductive Variable where
  | bindHost
  | port
  | absentProfile
  | buildProfile
  | logFilter
  | noColour
  deriving DecidableEq, Repr

namespace Variable

def all : List Variable :=
  [.bindHost, .port, .absentProfile, .buildProfile, .logFilter, .noColour]

def name : Variable → String
  | .bindHost => "BIND_HOST"
  | .port => "PORT"
  | .absentProfile => "ABSENT_PROFILE_TEXT"
  | .buildProfile => "BUILD_PROFILE"
  | .logFilter => "RUST_LOG"
  | .noColour => "NO_COLOR"

end Variable

abbrev Environment := Variable → Option Bytes

namespace Environment

def empty : Environment := fun _ => none

def set (environment : Environment) (name : Variable) (value : Option Bytes) : Environment :=
  fun other => if other = name then value else environment other

@[simp] theorem set_same (environment : Environment) (name : Variable) (value : Option Bytes) :
    environment.set name value name = value := by
  simp [set]

@[simp] theorem set_other (environment : Environment) {name other : Variable}
    (value : Option Bytes) (different : other ≠ name) :
    environment.set name value other = environment other := by
  simp [set, different]

@[simp] theorem set_self (environment : Environment) (name : Variable) :
    environment.set name (environment name) = environment := by
  funext other
  by_cases same : other = name
  · rw [same, set_same]
  · exact set_other _ _ same

@[simp] theorem set_set (environment : Environment) (name : Variable) (first second : Option Bytes) :
    (environment.set name first).set name second = environment.set name second := by
  funext other
  by_cases same : other = name
  · rw [same, set_same, set_same]
  · rw [set_other _ _ same, set_other _ _ same, set_other _ _ same]

end Environment

end UptimeGreeter
