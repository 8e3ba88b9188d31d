import UptimeGreeter.LogFilter.Level
import UptimeGreeter.LogFilter.FieldMatch
import UptimeGreeter.Text.Classes
import UptimeGreeter.Text.Utf8

/-!
Log directives: a target, a span with a field, and the level up to which they let records through.
A directive is written `target[span{field=value}]=level`, and most of it may be left out.
-/

namespace UptimeGreeter.LogFilter

structure Directive where
  target : Option String
  span : Option String
  field : Option FieldMatch
  threshold : Threshold
  deriving DecidableEq, Repr

namespace Directive

/-- Why a text gives no directive: it is none, or a part of it would begin or end inside a
character, which breaks the reader itself off. -/
inductive Fault where
  | invalid
  | cutCharacter
  deriving DecidableEq, Repr

inductive Place where
  | start
  | word
  | span (start : Nat)
  | field (start : Nat)
  | afterField
  | afterBracket
  | level (start : Nat)
  deriving DecidableEq, Repr

structure Draft where
  directive : Directive
  place : Place
  deriving DecidableEq, Repr

def mayStartWord (char : Char) : Bool :=
  char ∈ ['-', ':', '_'] || Text.isAlphanumeric char

def splitAt (text : List Char) (byte : Nat) : Except Fault (List Char × List Char) :=
  match Utf8.split? byte text with
  | some parts => .ok parts
  | none => .error .cutCharacter

def slice (text : List Char) (start stop : Nat) : Except Fault String := do
  let (_, behind) ← splitAt text start
  let (part, _) ← splitAt behind (stop - start)
  return .ofList part

def readField (text : String) : Except Fault FieldMatch :=
  if text.isEmpty then .error .invalid
  else
    match FieldMatch.ofText? text with
    | some field => .ok field
    | none => .error .invalid

def readThreshold (text : String) : Except Fault Threshold :=
  if text.isEmpty then .ok (.upTo .trace)
  else
    match Threshold.ofText? text with
    | some threshold => .ok threshold
    | none => .error .invalid

def ofWord (word : String) : Directive :=
  match Threshold.ofText? word with
  | some threshold => ⟨none, none, none, threshold⟩
  | none => ⟨some word, none, none, .upTo .trace⟩

namespace Draft

def blank : Draft :=
  ⟨⟨none, none, none, .upTo .trace⟩, .start⟩

def read (text : List Char) (draft : Draft) (byte : Nat) (char : Char) : Except Fault Draft :=
  match draft.place with
  | .start =>
      if char = '[' then .ok { draft with place := .span (byte + 1) }
      else if mayStartWord char then .ok { draft with place := .word }
      else .error .invalid
  | .word =>
      if char = '=' then do
        let target ← slice text 0 byte
        return ⟨{ draft.directive with target := some target }, .level (byte + 1)⟩
      else if char = '[' then do
        let target ← slice text 0 byte
        return ⟨{ draft.directive with target := some target }, .span (byte + 1)⟩
      else .ok draft
  | .span start =>
      if char = ']' then do
        let name ← slice text start byte
        return ⟨{ draft.directive with span := some name }, .afterBracket⟩
      else if char = '\x7b' then do
        let name ← slice text start byte
        let span := if name.isEmpty then none else some name
        return ⟨{ draft.directive with span }, .field (byte + 1)⟩
      else .ok draft
  | .field start =>
      if char = '\x7d' then do
        let condition ← slice text start byte
        let field ← readField condition
        return ⟨{ draft.directive with field := some field }, .afterField⟩
      else .ok draft
  | .afterField =>
      if char = ']' then .ok { draft with place := .afterBracket } else .error .invalid
  | .afterBracket =>
      if char = '=' then .ok { draft with place := .level (byte + 1) } else .error .invalid
  | .level _ => .ok draft

def readAll (text : List Char) (draft : Draft) (byte : Nat) : List Char → Except Fault Draft
  | [] => .ok draft
  | char :: rest => do
      let next ← draft.read text byte char
      next.readAll text (byte + char.utf8Size) rest

def finish (text : List Char) (draft : Draft) : Except Fault Directive :=
  match draft.place with
  | .word => .ok (ofWord (.ofList text))
  | .level start => do
      let (_, level) ← splitAt text start
      let threshold ← readThreshold (.ofList level)
      return { draft.directive with threshold }
  | .afterBracket => .ok draft.directive
  | .start | .span _ | .field _ | .afterField => .error .invalid

end Draft

/-- The parts of a directive are found in its text without the blanks around it, and are cut out of
the whole text at the same bytes. Blanks in front therefore shift every part. -/
def ofText (text : String) : Except Fault Directive := do
  let draft ← Draft.blank.readAll text.toList 0 (Text.trimBlanks text.toList)
  draft.finish text.toList

def bracketText (span : Option String) (field : Option String) : String :=
  match span, field with
  | none, none => ""
  | _, none => "[" ++ span.getD "" ++ "]"
  | _, some condition => "[" ++ span.getD "" ++ "\x7b" ++ condition ++ "\x7d]"

def textOf (target span field : Option String) (threshold : Threshold) : String :=
  let scope := target.getD "" ++ bracketText span field
  if target.isNone && span.isNone && field.isNone then threshold.name
  else scope ++ "=" ++ threshold.name

def text (directive : Directive) : String :=
  textOf directive.target directive.span (directive.field.map (·.text)) directive.threshold

def isDynamic (directive : Directive) : Bool :=
  directive.span.isSome || directive.field.isSome

def hasFieldValue (directive : Directive) : Bool :=
  (directive.field >>= (·.value)).isSome

def orderOption {α : Type} (order : α → α → Ordering) : Option α → Option α → Ordering
  | none, none => .eq
  | none, some _ => .lt
  | some _, none => .gt
  | some first, some second => order first second

def order (first second : Directive) : Ordering :=
  let targetLength (directive : Directive) := directive.target.map (·.utf8ByteSize)
  (orderOption compare (targetLength first) (targetLength second)).then
    ((compare first.span.isSome.toNat second.span.isSome.toNat).then
      ((compare first.field.isSome.toNat second.field.isSome.toNat).then
        ((orderOption compare first.target second.target).then
          ((orderOption compare first.span second.span).then
            (orderOption FieldMatch.order first.field second.field)))))

end Directive

end UptimeGreeter.LogFilter
