import UptimeGreeter.Text.Classes

/-!
The flags that a regular expression sets for what follows them.
-/

namespace UptimeGreeter.Pattern

structure Flags where
  spaced : Bool
  /-- Classes and word boundaries are those of Unicode, else those of ASCII. -/
  unicode : Bool
  deriving DecidableEq, Repr

namespace Flags

def initial : Flags := ⟨false, true⟩

def afterSpace (inComment : Bool) : List Char → List Char
  | [] => []
  | char :: rest =>
      if inComment then afterSpace (char ≠ '\n') rest
      else if Text.isBlank char then afterSpace false rest
      else if char = '#' then afterSpace true rest
      else char :: rest

def pass (flags : Flags) (text : List Char) : List Char :=
  if flags.spaced then afterSpace false text else text

theorem length_afterSpace_le (inComment : Bool) (text : List Char) :
    (afterSpace inComment text).length ≤ text.length := by
  induction text generalizing inComment with
  | nil => simp [afterSpace]
  | cons char rest ih =>
      simp only [afterSpace, List.length_cons]
      repeat' split
      all_goals first
        | exact Nat.le_succ_of_le (ih _)
        | simp

theorem length_pass_le (flags : Flags) (text : List Char) :
    (flags.pass text).length ≤ text.length := by
  unfold pass
  split
  · exact length_afterSpace_le false text
  · exact Nat.le_refl _

def letters : List Char := ['i', 'm', 's', 'U', 'u', 'R', 'x', '-']

def areFlags (text : List Char) : Bool :=
  text.all (· ∈ letters) && decide text.Nodup && text.getLast? ≠ some '-'

def setting? (text : List Char) (letter : Char) : Option Bool :=
  if letter ∈ text.takeWhile (· ≠ '-') then some true
  else if letter ∈ text then some false
  else none

def update (flags : Flags) (text : List Char) : Flags :=
  ⟨(setting? text 'x').getD flags.spaced, (setting? text 'u').getD flags.unicode⟩

end Flags

end UptimeGreeter.Pattern
