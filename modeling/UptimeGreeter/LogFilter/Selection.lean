import UptimeGreeter.LogFilter.Filter
import UptimeGreeter.Environment

/-!
Which log filter a program runs with: the one it is given, else the one in the environment, else
records up to the level of information.
-/

namespace UptimeGreeter.LogFilter

structure Selection where
  filter : Filter
  warning : String
  deriving DecidableEq, Repr

namespace Selection

def fallback : Filter := .upTo .info

def warningFor (text : String) : String :=
  s!"Invalid log level '{text}', falling back to 'info'\n"

/-- The filter of a text, or the fallback with a warning. There is neither where the reader breaks
off, which nothing catches. -/
def ofText? (text warning : String) : Option Selection :=
  match Filter.ofText text with
  | .ok filter => some ⟨filter, ""⟩
  | .error .invalid => some ⟨fallback, warning⟩
  | .error .cutCharacter => none

def choose? (given : Option String) (environment : Environment) : Option Selection :=
  match given with
  | some text => ofText? text (warningFor text)
  | none =>
      match environment .logFilter >>= Utf8.decode? with
      | some text => ofText? text ""
      | none => some ⟨fallback, ""⟩

end Selection

end UptimeGreeter.LogFilter
