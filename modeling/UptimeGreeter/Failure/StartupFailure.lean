import UptimeGreeter.Config
import UptimeGreeter.Failure.IoFailure
import UptimeGreeter.Text.Split

/-!
The ways in which a configured server fails to run, and the report of a failure and its causes, the
outermost first.
-/

namespace UptimeGreeter

namespace Report

def line (failure : String) (causes : List String) : String :=
  String.intercalate ": " (failure :: causes)

def indent (width : Nat) (text : List Char) : List Char :=
  List.replicate width ' ' ++ text

/-- A cause behind its label. Later lines, empty ones too, begin where the first one does. -/
def labelled (label : List Char) (cause : String) : List Char :=
  match Split.all '\n' cause.toList with
  | [] => label
  | first :: later =>
      ['\n'].intercalate ((label ++ first) :: later.map (indent label.length))

def numberLabel (number : Nat) : List Char :=
  (Nat.toDigits 10 number).leftpad 5 ' ' ++ [':', ' ']

def lines (causes : List String) : List (List Char) :=
  match causes with
  | [cause] => [labelled (List.replicate 4 ' ') cause]
  | _ => causes.mapIdx fun index cause => labelled (numberLabel index) cause

def text (failure : String) (causes : List String) : String :=
  if causes.isEmpty then failure
  else
    failure ++ "\n\nCaused by:\n" ++ String.intercalate "\n" ((lines causes).map String.ofList)

end Report

namespace InvalidHost

def describe (fault : InvalidHost) : String :=
  "InvalidAddress(" ++ quote fault.host ++ ")"

end InvalidHost

inductive StartupFailure where
  | host (fault : InvalidHost)
  | bind (endpoint : Net.Endpoint) (cause : IoFailure)
  | serve (cause : IoFailure)
  deriving DecidableEq, Repr

namespace StartupFailure

def message : StartupFailure → String
  | .host fault => fault.message
  | .bind endpoint _ => s!"failed to bind {endpoint.text}"
  | .serve _ => "server terminated with an I/O error"

/-- The messages of what lies behind a failure. A bad host lies behind nothing but itself. -/
def causes : StartupFailure → List String
  | .host _ => []
  | .bind _ cause => [cause.message]
  | .serve cause => [cause.message]

def describe : StartupFailure → String
  | .host fault => "Config(" ++ fault.describe ++ ")"
  | .bind endpoint cause =>
      "Bind \x7b addr: " ++ endpoint.text ++ ", source: " ++ cause.describe ++ " \x7d"
  | .serve cause => "Serve(" ++ cause.describe ++ ")"

def headline : String := "hello-spring server failed"

def report (failure : StartupFailure) : String :=
  Report.text headline (failure.message :: failure.causes)

def reportLine (failure : StartupFailure) : String :=
  Report.line headline (failure.message :: failure.causes)

end StartupFailure

end UptimeGreeter
