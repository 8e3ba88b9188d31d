import UptimeGreeter.Text.Numeral
import UptimeGreeter.Decimal.Shortest
import UptimeGreeter.Pattern.WellFormed
import UptimeGreeter.Text.Split

/-!
Conditions on the fields of a record: that a field is there, or that it has a value.
-/

namespace UptimeGreeter.LogFilter

/-- Whether a regular expression matches a text. -/
abbrev Matcher := String → String → Bool

inductive FieldValue where
  | boolean (value : Bool)
  | real (value : Decimal.Binary)
  | natural (value : Nat)
  | integer (value : Int)
  | pattern (text : String)
  deriving DecidableEq, Repr

namespace FieldValue

def ofText? (text : String) : Option FieldValue :=
  if text = "true" then some (.boolean true)
  else if text = "false" then some (.boolean false)
  else
    match Decimal.readUnsigned (UInt64.size - 1) text.toList with
    | .ok value => some (.natural value)
    | .error _ =>
        match Decimal.readSigned 64 text.toList with
        | .ok value => some (.integer value)
        | .error _ =>
            match Decimal.Binary.ofChars? text.toList with
            | some value => some (.real value)
            | none => if Pattern.wellFormed text then some (.pattern text) else none

def text : FieldValue → String
  | .boolean value => if value then "true" else "false"
  | .real value => String.ofList (Decimal.Shortest.text value)
  | .natural value => toString value
  | .integer value => toString value
  | .pattern text => text

/-- The order of the kinds of value: a number that is none comes after the other real numbers. -/
def rank : FieldValue → Nat
  | .boolean _ => 0
  | .real .notANumber => 2
  | .real _ => 1
  | .natural _ => 3
  | .integer _ => 4
  | .pattern _ => 5

def order : FieldValue → FieldValue → Ordering
  | .boolean first, .boolean second => compare first.toNat second.toNat
  | .real first, .real second => compare first.orderKey second.orderKey
  | .natural first, .natural second => compare first second
  | .integer first, .integer second => compare first second
  | .pattern first, .pattern second => compare first second
  | first, second => compare first.rank second.rank

/-- What is recorded as a text is compared with patterns and with no other value. -/
def admits (matcher : Matcher) (value : FieldValue) (recorded : String) : Bool :=
  match value with
  | .pattern expression => matcher expression recorded
  | _ => false

end FieldValue

structure FieldMatch where
  name : String
  value : Option FieldValue
  deriving DecidableEq, Repr

namespace FieldMatch

def ofText? (text : String) : Option FieldMatch :=
  match Split.all '=' text.toList with
  | name :: value :: _ =>
      (FieldValue.ofText? (String.ofList value)).map fun value => ⟨String.ofList name, some value⟩
  | [name] => some ⟨String.ofList name, none⟩
  | [] => none

def text (field : FieldMatch) : String :=
  match field.value with
  | some value => field.name ++ "=" ++ value.text
  | none => field.name

def order (first second : FieldMatch) : Ordering :=
  (compare first.value.isSome.toNat second.value.isSome.toNat).then
    ((compare first.name second.name).then
      (match first.value, second.value with
        | some one, some other => one.order other
        | _, _ => .eq))

def isAmong (field : FieldMatch) (fields : List (String × String)) : Bool :=
  fields.any fun (name, _) => name = field.name

def holds (matcher : Matcher) (field : FieldMatch) (fields : List (String × String)) : Bool :=
  field.value.all fun value =>
    fields.any fun (name, recorded) => name = field.name && value.admits matcher recorded

end FieldMatch

end UptimeGreeter.LogFilter
