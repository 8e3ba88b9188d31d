import UptimeGreeter.CommandLine.Setting
import UptimeGreeter.Text.Split

/-!
One argument of the command line, sorted by its dashes.
-/

namespace UptimeGreeter.CommandLine

inductive Token where
  | setting (setting : Setting) (value : Option Bytes)
  /-- The flag `--name`, or `--name=value`, or a cluster of letters that begins with its letter. -/
  | flag (flag : Flag) (value : Option Bytes)
  | unknownLong (name : String)
  | unknownShort (text : String)
  | escape
  | plain
  deriving DecidableEq, Repr

namespace Token

def dash : UInt8 := 0x2D
def equalsSign : UInt8 := 0x3D

def ofLong (body : Bytes) : Token :=
  let (name, value) :=
    match Split.once? equalsSign body with
    | some (name, value) => (name, some value)
    | none => (body, none)
  match Utf8.decode? name >>= LongName.ofText? with
  | some (.setting chosen) => .setting chosen value
  | some (.flag chosen) => .flag chosen value
  | none => .unknownLong (Utf8.decodeLossy name)

def ofShort (body : Bytes) : Token :=
  match Utf8.pieces body with
  | some letter :: _ =>
      match Flag.ofLetter? letter with
      | some chosen => .flag chosen none
      | none => .unknownShort (String.ofList ['-', letter])
  | _ => .unknownShort ("-" ++ Utf8.decodeLossy body)

def ofBytes : Bytes → Token
  | [] => .plain
  | first :: rest =>
      if first = dash then
        match rest with
        | [] => .plain
        | second :: body =>
            if second = dash then if body = [] then .escape else ofLong body
            else ofShort rest
      else .plain

end Token

end UptimeGreeter.CommandLine
