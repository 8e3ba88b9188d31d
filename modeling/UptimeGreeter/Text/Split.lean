/-!
Cutting lists at a separator.
-/

namespace UptimeGreeter.Split

variable {α : Type} [DecidableEq α]

def once? (separator : α) : List α → Option (List α × List α)
  | [] => none
  | item :: rest =>
      if item = separator then some ([], rest)
      else (once? separator rest).map fun (before, after) => (item :: before, after)

/-- The pieces between separators: one more than there are separators. -/
def all (separator : α) : List α → List (List α)
  | [] => [[]]
  | item :: rest =>
      match all separator rest with
      | [] => [[]]
      | piece :: pieces =>
          if item = separator then [] :: piece :: pieces else (item :: piece) :: pieces

theorem once?_append (separator : α) (before after : List α) (absent : separator ∉ before) :
    once? separator (before ++ separator :: after) = some (before, after) := by
  induction before with
  | nil => simp [once?]
  | cons item before ih =>
      simp only [List.mem_cons, not_or] at absent
      simp [once?, ih absent.2, Ne.symm absent.1]

theorem once?_eq_none (separator : α) (items : List α) (absent : separator ∉ items) :
    once? separator items = none := by
  induction items with
  | nil => rfl
  | cons item rest ih =>
      simp only [List.mem_cons, not_or] at absent
      simp [once?, ih absent.2, Ne.symm absent.1]

theorem eq_append_of_once? {separator : α} {items before after : List α}
    (found : once? separator items = some (before, after)) :
    items = before ++ separator :: after := by
  induction items generalizing before with
  | nil => simp [once?] at found
  | cons item rest ih =>
      by_cases same : item = separator
      · simp only [once?, same, ↓reduceIte, Option.some.injEq, Prod.mk.injEq] at found
        obtain ⟨rfl, rfl⟩ := found
        simp [same]
      · simp only [once?, same, ↓reduceIte, Option.map_eq_some_iff, Prod.exists, Prod.mk.injEq]
          at found
        obtain ⟨front, back, inner, rfl, rfl⟩ := found
        simp [ih inner]

end UptimeGreeter.Split
