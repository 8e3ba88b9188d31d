import UptimeGreeter.CommandLine.Stop
import UptimeGreeter.CommandLine.Token

/-!
Reading a command line. Arguments are taken from the left. The setting read last stays pending,
since its value may be the next argument; it is settled when another option or the end is reached.
-/

namespace UptimeGreeter.CommandLine

/-- A setting whose value, if it is there yet, has not been looked at. -/
structure Pending where
  setting : Setting
  value : Option Bytes
  deriving DecidableEq, Repr

structure Progress where
  pending : Option Pending
  used : List Setting
  given : List Assignment
  deriving DecidableEq, Repr

namespace Progress

def start : Progress := ⟨none, [], []⟩

def settleWith (progress : Progress) (chosen : Setting) (value : Option Bytes) :
    Except Stop Progress :=
  match value with
  | none => .error (.missingValue chosen)
  | some bytes =>
      if chosen ∈ progress.used then .error (.repeated chosen)
      else
        match Assignment.ofBytes chosen bytes with
        | .error fault => .error (.badValue chosen fault)
        | .ok assignment => .ok ⟨none, progress.used ++ [chosen], progress.given ++ [assignment]⟩

def settle (progress : Progress) : Except Stop Progress :=
  match progress.pending with
  | none => .ok progress
  | some ⟨chosen, value⟩ => progress.settleWith chosen value

/-- The settings in use once the pending one is settled, whatever its value. A setting that is used
twice drops out. -/
def usedAfterSettling (progress : Progress) : List Setting :=
  match progress.pending with
  | some ⟨chosen, some _⟩ =>
      if chosen ∈ progress.used then progress.used.erase chosen else progress.used ++ [chosen]
  | _ => progress.used

end Progress

def stopOfFlag : Flag → Stop
  | .help => .help
  | .version => .version

def readArguments (progress : Progress) : List Bytes → Except Stop Progress
  | [] => progress.settle
  | argument :: rest =>
      match Token.ofBytes argument with
      | .setting chosen none =>
          match progress.settle with
          | .error stop => .error stop
          | .ok settled => readArguments { settled with pending := some ⟨chosen, none⟩ } rest
      | .setting chosen (some value) =>
          match progress.settle with
          | .error stop => .error stop
          | .ok settled =>
              match settled.settleWith chosen (some value) with
              | .error stop => .error stop
              | .ok next => readArguments next rest
      | .plain =>
          match progress.pending with
          | some ⟨chosen, none⟩ =>
              readArguments { progress with pending := some ⟨chosen, some argument⟩ } rest
          | _ => .error (.unexpectedArgument (Utf8.decodeLossy argument))
      | .escape =>
          match rest with
          | [] => progress.settle
          | stray :: _ => .error (.unexpectedArgument (Utf8.decodeLossy stray))
      | .flag chosen none =>
          match progress.settle with
          | .error stop => .error stop
          | .ok _ => .error (stopOfFlag chosen)
      | .flag chosen (some value) =>
          .error (.valueForFlag chosen (Utf8.decodeLossy value) (!progress.used.isEmpty))
      | .unknownLong name =>
          .error (.unknownLong name (nearestName? name) progress.usedAfterSettling)
      | .unknownShort text => .error (.unexpectedArgument text)

def readVariables (environment : Environment) (used : List Setting) :
    List Setting → Except Stop (List Assignment)
  | [] => .ok []
  | chosen :: rest =>
      let value := if chosen ∈ used then none else chosen.standIn? >>= environment
      match value with
      | none => readVariables environment used rest
      | some bytes =>
          match Assignment.ofBytes chosen bytes with
          | .error fault => .error (.badValue chosen fault)
          | .ok assignment =>
              match readVariables environment used rest with
              | .error stop => .error stop
              | .ok others => .ok (assignment :: others)

def readConfig (arguments : List Bytes) (environment : Environment) : Except Stop Config :=
  match readArguments .start arguments.tail with
  | .error stop => .error stop
  | .ok progress =>
      match readVariables environment progress.used Setting.all with
      | .error stop => .error stop
      | .ok assignments => .ok ((progress.given ++ assignments).foldl Assignment.apply .default)

def pathComponents (path : Bytes) : List Bytes :=
  (Split.all 0x2F path).filter fun component => component ≠ [] && component ≠ [0x2E]

def programName (arguments : List Bytes) : String :=
  let called := do
    let component ← (pathComponents (← arguments.head?)).getLast?
    if component = [0x2E, 0x2E] then none else Utf8.decode? component
  called.getD "hello-spring"

end UptimeGreeter.CommandLine
