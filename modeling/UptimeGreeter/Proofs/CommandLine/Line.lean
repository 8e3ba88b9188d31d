import UptimeGreeter.CommandLine.Setting

/-!
Command lines as they are written: items that each give one setting a value, and perhaps two dashes
at the end.
-/

namespace UptimeGreeter.CommandLine

namespace Setting

def option : Setting → String
  | .host => "--host"
  | .port => "--port"
  | .absentProfile => "--absent-profile"
  | .logLevel => "--log-level"

end Setting

def CanFollow (value : Bytes) : Prop :=
  value = Utf8.encode "-" ∨ value.head? ≠ some 0x2D

inductive Spelling where
  | joined
  | apart
  deriving DecidableEq, Repr

structure Item where
  setting : Setting
  value : Bytes
  spelling : Spelling
  fits : spelling = .apart → CanFollow value

def Item.entry (item : Item) : Setting × Bytes :=
  (item.setting, item.value)

def Item.arguments (item : Item) : List Bytes :=
  match item.spelling with
  | .joined => [Utf8.encode (item.setting.option ++ "=") ++ item.value]
  | .apart => [Utf8.encode item.setting.option, item.value]

def standIn (environment : Environment) : Setting → Option Bytes
  | .host => environment .bindHost
  | .port => environment .port
  | .absentProfile => environment .absentProfile
  | .logLevel => none

structure Line where
  items : List Item
  once : (items.map Item.setting).Nodup
  /-- Whether two dashes end the line. -/
  closed : Bool

namespace Line

def arguments (line : Line) : List Bytes :=
  line.items.flatMap Item.arguments ++ if line.closed then [Utf8.encode "--"] else []

def settings (line : Line) : List Setting :=
  line.items.map Item.setting

def written (line : Line) (setting : Setting) : Option Bytes :=
  (line.items.map Item.entry).lookup setting

def source (line : Line) (environment : Environment) (setting : Setting) : Option Bytes :=
  (line.written setting).or (standIn environment setting)

end Line

end UptimeGreeter.CommandLine
