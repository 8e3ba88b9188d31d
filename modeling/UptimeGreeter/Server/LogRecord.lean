import UptimeGreeter.LogFilter.Filter

/-!
Log records: what they hold, which of them a filter lets through, and how they are written.
-/

namespace UptimeGreeter

open LogFilter

structure LogRecord where
  level : Level
  target : String
  message : String
  fields : List (String × String)
  /-- The names of fields that are left without a value, which a filter knows of all the same. -/
  unset : List String
  span : Option Span
  deriving DecidableEq, Repr

namespace LogRecord

def shape (record : LogRecord) : Shape :=
  ⟨record.target, record.level, "message" :: record.fields.map (·.1) ++ record.unset⟩

def through? (matcher : Matcher) (filter : Filter) (record : LogRecord) : Option LogRecord :=
  match record.span with
  | none => if filter.allows record.shape then some record else none
  | some span =>
      if filter.enablesSpan span then
        if filter.allowsIn matcher span record.shape then some record else none
      else if filter.allows record.shape then some { record with span := none }
      else none

def filtered (matcher : Matcher) (filter : Filter) (records : List LogRecord) : List LogRecord :=
  records.filterMap (through? matcher filter)

end LogRecord

inductive LogStyle where
  | plain
  | coloured
  deriving DecidableEq, Repr

namespace LogStyle

def wrap (style : LogStyle) (code : String) (text : String) : String :=
  match style with
  | .plain => text
  | .coloured => "\x1b[" ++ code ++ "m" ++ text ++ "\x1b[0m"

def dim (style : LogStyle) : String → String := style.wrap "2"
def bold (style : LogStyle) : String → String := style.wrap "1"
def italic (style : LogStyle) : String → String := style.wrap "3"

def levelCode : Level → String
  | .error => "31"
  | .warn => "33"
  | .info => "32"
  | .debug => "34"
  | .trace => "35"

def levelText (style : LogStyle) (level : Level) : String :=
  style.wrap (levelCode level)
    (String.ofList ((level.name.toList.map Char.toUpper).leftpad 5 ' '))

def fieldText (style : LogStyle) (field : String × String) : String :=
  style.italic field.1 ++ style.dim "=" ++ field.2

def spanText (style : LogStyle) (span : Span) : String :=
  style.bold span.name ++ style.bold "\x7b" ++
    String.intercalate " " (span.fields.map style.fieldText) ++ style.bold "\x7d" ++
    style.dim ":" ++ " "

def recordText (style : LogStyle) (record : LogRecord) : String :=
  style.levelText record.level ++ " " ++ ((record.span.map style.spanText).getD "") ++
    style.dim record.target ++ style.dim ":" ++ " " ++ record.message ++
    String.join (record.fields.map fun field => " " ++ style.fieldText field)

def line (style : LogStyle) (time : Option String) (record : LogRecord) : String :=
  ((time.map fun time => style.dim time ++ " ").getD "") ++ style.recordText record ++ "\n"

end LogStyle

end UptimeGreeter
