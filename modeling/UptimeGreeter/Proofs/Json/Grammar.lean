import UptimeGreeter.Proofs.Decimal.Integer
import UptimeGreeter.Text.Numeral

/-!
The grammar of JSON, as a relation: which value is read at the front of a text, and what is left.
-/

namespace UptimeGreeter

/-- A number is kept as it is written, and an object with its members in their order. -/
inductive Json where
  | null
  | boolean (value : Bool)
  | number (literal : List Char)
  | string (text : String)
  | array (items : List Json)
  | object (members : List (String × Json))

namespace Json

open Decimal (IsDigits)

/-- What can be read: a value, or all that stands behind an opening bracket. -/
inductive Part where
  | value (json : Json)
  | items (items : List Json)
  | members (members : List (String × Json))

def isBlank (char : Char) : Bool :=
  char ∈ [' ', '\t', '\n', '\r']

def skipBlanks (text : List Char) : List Char :=
  text.dropWhile isBlank

def IsInteger (text : List Char) : Prop :=
  IsDigits text ∧ (text.head? = some '0' → text = ['0'])

inductive IsFraction : List Char → Prop
  | absent : IsFraction []
  | digits {digits : List Char} : IsDigits digits → IsFraction ('.' :: digits)

inductive IsExponent : List Char → Prop
  | absent : IsExponent []
  | digits {mark : Char} {sign digits : List Char} : mark ∈ ['e', 'E'] →
      sign ∈ [[], ['+'], ['-']] → IsDigits digits → IsExponent (mark :: (sign ++ digits))

inductive IsNumber : List Char → Prop
  | parts {sign integer fraction exponent : List Char} : sign ∈ [[], ['-']] → IsInteger integer →
      IsFraction fraction → IsExponent exponent →
        IsNumber (sign ++ (integer ++ (fraction ++ exponent)))

def isNumeric (char : Char) : Bool :=
  char.isDigit || char ∈ ['-', '+', '.', 'e', 'E']

def escapes : List (Char × Char) :=
  [('"', '"'), ('\\', '\\'), ('/', '/'), ('b', '\x08'), ('f', '\x0c'), ('n', '\n'), ('r', '\r'),
    ('t', '\t')]

def IsCode (digits : List Char) : Prop :=
  digits.length = 4 ∧ ∀ char ∈ digits, Hexadecimal.isDigit char

/-- The code units of a character in UTF-16: one, or a pair of surrogates. -/
inductive ReadsCode : List Char → Char → List Char → Prop
  | single {text digits rest : List Char} {char : Char} : text = digits ++ rest → IsCode digits →
      Hexadecimal.value digits = char.toNat → ReadsCode text char rest
  | pair {text high low rest : List Char} {char : Char} :
      text = high ++ '\\' :: 'u' :: (low ++ rest) → IsCode high → IsCode low →
        0xD800 ≤ Hexadecimal.value high → Hexadecimal.value high < 0xDC00 →
          0xDC00 ≤ Hexadecimal.value low → Hexadecimal.value low < 0xE000 →
            char.toNat = 0x10000 + (Hexadecimal.value high - 0xD800) * 0x400 +
              (Hexadecimal.value low - 0xDC00) → ReadsCode text char rest

inductive ReadsChar : List Char → Char → List Char → Prop
  | plain {text rest : List Char} {char : Char} : text = char :: rest → 0x20 ≤ char.toNat →
      char ≠ '"' → char ≠ '\\' → ReadsChar text char rest
  | named {text rest : List Char} {letter char : Char} : text = '\\' :: letter :: rest →
      escapes.lookup letter = some char → ReadsChar text char rest
  | code {text source rest : List Char} {char : Char} : text = '\\' :: 'u' :: source →
      ReadsCode source char rest → ReadsChar text char rest

inductive ReadsString : List Char → List Char → List Char → Prop
  | closed {text rest : List Char} : text = '"' :: rest → ReadsString text [] rest
  | more {text later content rest : List Char} {char : Char} : ReadsChar text char later →
      ReadsString later content rest → ReadsString text (char :: content) rest

inductive ReadsLeaf : List Char → Json → List Char → Prop
  | null {text rest : List Char} : text = "null".toList ++ rest → ReadsLeaf text .null rest
  | boolean {text rest : List Char} {value : Bool} : text = (toString value).toList ++ rest →
      ReadsLeaf text (.boolean value) rest
  | number {text literal rest : List Char} : text = literal ++ rest → IsNumber literal →
      (∀ char ∈ rest.head?, isNumeric char = false) → ReadsLeaf text (.number literal) rest
  | string {text source content rest : List Char} : text = '"' :: source →
      ReadsString source content rest → ReadsLeaf text (.string (String.ofList content)) rest

inductive ReadsName : List Char → String → List Char → Prop
  | quoted {text source name behind rest : List Char} : skipBlanks text = '"' :: source →
      ReadsString source name behind → skipBlanks behind = ':' :: rest →
        ReadsName text (String.ofList name) rest

inductive Reads : Part → List Char → List Char → Prop
  | leaf {text rest : List Char} {json : Json} : ReadsLeaf text json rest →
      Reads (.value json) text rest
  | array {text source rest : List Char} {items : List Json} : text = '[' :: source →
      Reads (.items items) source rest → Reads (.value (.array items)) text rest
  | object {text source rest : List Char} {members : List (String × Json)} :
      text = '\x7b' :: source → Reads (.members members) source rest →
        Reads (.value (.object members)) text rest
  | noItem {text rest : List Char} : skipBlanks text = ']' :: rest → Reads (.items []) text rest
  | lastItem {text after rest : List Char} {json : Json} :
      Reads (.value json) (skipBlanks text) after → skipBlanks after = ']' :: rest →
        Reads (.items [json]) text rest
  | nextItem {text after later rest : List Char} {json next : Json} {items : List Json} :
      Reads (.value json) (skipBlanks text) after → skipBlanks after = ',' :: later →
        Reads (.items (next :: items)) later rest → Reads (.items (json :: next :: items)) text rest
  | noMember {text rest : List Char} : skipBlanks text = '\x7d' :: rest →
      Reads (.members []) text rest
  | lastMember {text source after rest : List Char} {name : String} {json : Json} :
      ReadsName text name source → Reads (.value json) (skipBlanks source) after →
        skipBlanks after = '\x7d' :: rest → Reads (.members [(name, json)]) text rest
  | nextMember {text source after later rest : List Char} {name : String} {json : Json}
      {next : String × Json} {members : List (String × Json)} :
      ReadsName text name source → Reads (.value json) (skipBlanks source) after →
        skipBlanks after = ',' :: later → Reads (.members (next :: members)) later rest →
          Reads (.members ((name, json) :: next :: members)) text rest

def Denotes (text : List Char) (json : Json) : Prop :=
  ∃ rest, Reads (.value json) (skipBlanks text) rest ∧ skipBlanks rest = []

end Json

end UptimeGreeter
