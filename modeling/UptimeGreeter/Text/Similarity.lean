/-!
The Jaro similarity of two words: how many characters they share at nearby places, and how many of
those stand in another order.
-/

namespace UptimeGreeter.Similarity

def mark? (char : Char) (low high : Nat) : Nat → List (Char × Bool) → Option (List (Char × Bool))
  | _, [] => none
  | index, (other, marked) :: rest =>
      if low ≤ index ∧ index < high ∧ other = char ∧ marked = false then
        some ((other, true) :: rest)
      else (mark? char low high (index + 1) rest).map ((other, marked) :: ·)

/-- The characters of a word that find a partner, and the other word with the partners marked. -/
def pair (reach : Nat) : Nat → List Char → List (Char × Bool) → List Char × List (Char × Bool)
  | _, [], others => ([], others)
  | index, char :: rest, others =>
      match mark? char (index - reach) (index + reach + 1) 0 others with
      | some marked =>
          let (paired, final) := pair reach (index + 1) rest marked
          (char :: paired, final)
      | none => pair reach (index + 1) rest others

def jaro (word other : List Char) : Float :=
  if word.isEmpty && other.isEmpty then 1
  else if word.isEmpty || other.isEmpty then 0
  else
    let reach := max word.length other.length / 2 - 1
    let (paired, marks) := pair reach 0 word (other.map fun char => (char, false))
    let partners := (marks.filter (·.2)).map (·.1)
    let moved := ((paired.zip partners).filter fun (mine, theirs) => mine != theirs).length / 2
    if paired.isEmpty then 0
    else
      let shared := paired.length.toFloat
      (shared / word.length.toFloat + shared / other.length.toFloat
        + (paired.length - moved).toFloat / shared) / 3

end UptimeGreeter.Similarity
