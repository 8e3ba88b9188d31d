import UptimeGreeter.Pattern.Bracket
import UptimeGreeter.Text.Classes

/-!
Well-formedness of regular expressions. Counted repetitions are refused, as is all else that takes
a brace: what a log directive holds ends at the first closing one.
-/

namespace UptimeGreeter.Pattern

structure Group where
  flags : Flags
  branches : Row
  items : Row
  deriving DecidableEq, Repr

namespace Group

def empty (flags : Flags) : Group := ⟨flags, .empty, .empty⟩

def push (group : Group) (depth : Nat) (repeatable : Bool) : Group :=
  { group with items := group.items.push depth repeatable }

def branch (group : Group) : Group :=
  { group with branches := group.branches.push group.items.depth false, items := .empty }

def inside (group : Group) : Nat :=
  group.branch.branches.depth

end Group

structure Progress where
  group : Group
  outer : List Group
  brackets : List Bracket
  names : List (List Char)
  deriving DecidableEq, Repr

namespace Progress

def start : Progress := ⟨.empty .initial, [], [], []⟩

def flags (progress : Progress) : Flags := progress.group.flags

def push (progress : Progress) (depth : Nat) (repeatable : Bool) : Progress :=
  { progress with group := progress.group.push depth repeatable }

def openGroup (progress : Progress) (flags : Flags) : Progress :=
  { progress with group := .empty flags, outer := progress.group :: progress.outer }

def closeGroup? (progress : Progress) : Option Progress :=
  match progress.outer with
  | [] => none
  | parent :: outer =>
      some { progress with group := parent.push (progress.group.inside + 1) true, outer }

def setFlags (progress : Progress) (letters : List Char) : Progress :=
  let group := progress.group.push 0 false
  { progress with group := { group with flags := group.flags.update letters } }

def isName : List Char → Bool
  | [] => false
  | first :: rest =>
      (first = '_' || Text.isLetter first) &&
        rest.all fun char => char ∈ ['_', '.', '[', ']'] || Text.isAlphanumeric char

def openNamed? (progress : Progress) (text : List Char) : Option (Progress × List Char) :=
  let name := text.takeWhile (· ≠ '>')
  match text.dropWhile (· ≠ '>') with
  | '>' :: rest =>
      if isName name && name ∉ progress.names then
        let named := { progress with names := name :: progress.names }
        some (named.openGroup progress.flags, rest)
      else none
  | _ => none

def openFlags? (progress : Progress) (text : List Char) : Option (Progress × List Char) :=
  let letters := text.takeWhile fun char => char ≠ ':' && char ≠ ')'
  if Flags.areFlags letters then
    match text.drop letters.length with
    | ':' :: rest => some (progress.openGroup (progress.flags.update letters), rest)
    | ')' :: rest => if letters = [] then none else some (progress.setFlags letters, rest)
    | _ => none
  else none

def open? (progress : Progress) (text : List Char) : Option (Progress × List Char) :=
  match progress.flags.pass text with
  | '?' :: 'P' :: '<' :: rest | '?' :: '<' :: rest => openNamed? progress rest
  | '?' :: rest => openFlags? progress rest
  | text => some (progress.openGroup progress.flags, text)

def repeat? (progress : Progress) (rest : List Char) : Option (Progress × List Char) := do
  let items ← progress.group.items.repeatLast?
  let rest :=
    match rest with
    | '?' :: rest => rest
    | rest => rest
  return ({ progress with group := { progress.group with items } }, rest)

def openBracket? (progress : Progress) (text : List Char) : Option (Progress × List Char) := do
  let (bracket, rest) ← Bracket.open? progress.flags text
  return ({ progress with brackets := bracket :: progress.brackets }, rest)

def closeBracket (progress : Progress) (bracket : Bracket) : List Bracket → Progress
  | [] => { progress.push bracket.depth true with brackets := [] }
  | parent :: outer => { progress with brackets := parent.push bracket.depth :: outer }

def item? (progress : Progress) (char : Char) (rest : List Char) :
    Option (Progress × List Char) :=
  match char with
  | '(' => progress.open? rest
  | ')' => progress.closeGroup?.map (·, rest)
  | '|' => some ({ progress with group := progress.group.branch }, rest)
  | '[' => progress.openBracket? rest
  | '*' | '+' | '?' => progress.repeat? rest
  | '\x7b' => none
  | '\\' => (Escape.read? progress.flags rest).map fun (_, rest) => (progress.push 0 true, rest)
  | '.' => if progress.flags.unicode then some (progress.push 0 true, rest) else none
  | _ => some (progress.push 0 true, rest)

def member? (progress : Progress) (bracket : Bracket) (outer : List Bracket) (char : Char)
    (rest : List Char) : Option (Progress × List Char) :=
  if char = ']' then some (progress.closeBracket bracket outer, rest)
  else if char = '[' then
    match Bracket.namedClass? rest with
    | none => progress.openBracket? rest
    | some (complement, rest) =>
        if complement && !progress.flags.unicode then none
        else some ({ progress with brackets := bracket.push 0 :: outer }, rest)
  else if Bracket.isJoin char && rest.head? = some char then
    some ({ progress with brackets := bracket.join :: outer }, rest.drop 1)
  else
    (Bracket.member? progress.flags (char :: rest)).map fun rest =>
      ({ progress with brackets := bracket.push 0 :: outer }, rest)

def step? (progress : Progress) (char : Char) (rest : List Char) :
    Option (Progress × List Char) :=
  match progress.brackets with
  | [] => progress.item? char rest
  | bracket :: outer => progress.member? bracket outer char rest

def depthLimit : Nat := 250

def isComplete (progress : Progress) : Bool :=
  progress.outer.isEmpty && progress.brackets.isEmpty && progress.group.inside ≤ depthLimit

end Progress

/-- Reads piece after piece. A piece takes at least its first character. -/
def wellFormedFrom (progress : Progress) (text : List Char) : Bool :=
  match progress.flags.pass text with
  | [] => progress.isComplete
  | char :: rest =>
      match progress.step? char rest with
      | none => false
      | some (next, after) =>
          if _shorter : after.length < text.length then wellFormedFrom next after else false
termination_by text.length

def wellFormed (text : String) : Bool :=
  wellFormedFrom .start text.toList

end UptimeGreeter.Pattern
