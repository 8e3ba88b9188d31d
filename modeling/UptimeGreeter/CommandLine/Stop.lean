import UptimeGreeter.CommandLine.Assignment
import UptimeGreeter.Text.Similarity
import UptimeGreeter.Text.Terminal

/-!
The ways in which reading a command line ends without a configuration, and what is printed then.
-/

namespace UptimeGreeter.CommandLine

inductive Stop where
  | help
  | version
  /-- A long name that is none of ours, the nearest of ours, and the settings in use before it. -/
  | unknownLong (name : String) (nearest : Option LongName) (used : List Setting)
  | unexpectedArgument (text : String)
  | repeated (setting : Setting)
  | missingValue (setting : Setting)
  | badValue (setting : Setting) (fault : ValueFault)
  | valueForFlag (flag : Flag) (value : String) (afterSettings : Bool)
  deriving DecidableEq, Repr

/-- The long name most similar to a word, the last of equals, if it is similar enough. -/
def nearestName? (word : String) : Option LongName :=
  let better (best : Option (LongName × Float)) (name : LongName) : Option (LongName × Float) :=
    let score := Similarity.jaro word.toList name.text.toList
    match best with
    | some (_, highest) => if highest ≤ score then some (name, score) else best
    | none => if 0.7 < score then some (name, score) else none
  (LongName.all.foldl better none).map (·.1)

namespace Stop

def exitCode : Stop → Nat
  | .help | .version => 0
  | _ => 2

def usesStandardError (stop : Stop) : Bool :=
  stop.exitCode ≠ 0

def generalUsage (program : String) : String :=
  s!"Usage: {program} [OPTIONS]"

def usageOf (program : String) (names : List LongName) : String :=
  if names.isEmpty then generalUsage program
  else "Usage: " ++ String.intercalate " " (program :: names.map LongName.usage)

def indented (text : String) : String :=
  String.ofList (text.toList.flatMap fun char =>
    if char = '\n' then '\n' :: List.replicate 10 ' ' else [char])

def sourceText (environment : Environment) (setting : Setting) : String :=
  match setting.standIn? with
  | some variableName =>
      let value := ((environment variableName).map Utf8.decodeLossy).getD ""
      indented (" [env: " ++ variableName.name ++ "=" ++ value ++ "]")
  | none => ""

def fallbackText (setting : Setting) : String :=
  match setting.defaultText? with
  | some text => " [default: " ++ text ++ "]"
  | none => ""

def indentationAfter : Setting → String
  | .logLevel => "  "
  | _ => "      "

def helpOfSetting (environment : Environment) (setting : Setting) : String :=
  " <" ++ setting.placeholder ++ ">\n          " ++ setting.summary ++
    sourceText environment setting ++ fallbackText setting ++ "\n" ++ indentationAfter setting

/-- A value that leaves an escape sequence open takes what follows it along, up to a name. -/
def helpText (program : String) (environment : Environment) : String :=
  "Greets with process uptime and build profile\n\n" ++ generalUsage program ++
    "\n\nOptions:\n      " ++
    String.join (Setting.all.map fun setting =>
      "--" ++ setting.name ++ Terminal.shown (helpOfSetting environment setting)) ++
    "-h, --help\n          Print help\n  -V, --version\n          Print version\n"

def versionText : String := "hello-spring 0.1.0\n"

def paragraphs (program : String) : Stop → List String
  | .help | .version => []
  | .unknownLong name nearest used =>
      let wrong := s!"unexpected argument '--{Terminal.shown name}' found"
      match nearest with
      | none => [wrong, usageOf program (used.map .setting)]
      | some similar =>
          let names := used.map LongName.setting
          [wrong, s!"  tip: a similar argument exists: '--{similar.text}'",
            usageOf program (if similar ∈ names then names else names ++ [similar])]
  | .unexpectedArgument text => [s!"unexpected argument '{Terminal.shown text}' found", generalUsage program]
  | .repeated chosen =>
      [s!"the argument '{chosen.usage}' cannot be used multiple times", generalUsage program]
  | .missingValue chosen => [s!"a value is required for '{chosen.usage}' but none was supplied"]
  | .badValue _ .notText =>
      ["invalid UTF-8 was detected in one or more arguments", generalUsage program]
  | .badValue chosen (.badPort text fault) =>
      [s!"invalid value '{Terminal.shown text}' for '{chosen.usage}': {fault.message}"]
  | .valueForFlag chosen value afterSettings =>
      let settings := String.intercalate "|" (Setting.all.map Setting.usage)
      [s!"unexpected value '{Terminal.shown value}' for '{chosen.usage}' found; no more were expected",
        s!"Usage: {program} {chosen.usage}" ++
          if afterSettings then " <" ++ settings ++ ">" else ""]

def message (program : String) (environment : Environment) (stop : Stop) : String :=
  let program := Terminal.shown program
  match stop with
  | .help => helpText program environment
  | .version => versionText
  | _ =>
      "error: " ++ String.intercalate "\n\n"
        (stop.paragraphs program ++ ["For more information, try '--help'."]) ++ "\n"

end Stop

end UptimeGreeter.CommandLine
