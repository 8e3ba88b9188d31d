import Mathlib.Data.List.Infix
import UptimeGreeter.Text.Split

/-!
Cutting a text at the first place where another stands, and what is found between two such cuts.
-/

namespace UptimeGreeter.Split

variable {α : Type}

/-- A front in which the separator neither stands nor begins, whatever may follow it. -/
def Clear (separator front : List α) : Prop :=
  ∀ back ∈ front.tails, back ≠ [] → ¬separator <+: back ∧ ¬back <+: separator

theorem clear_of_not_mem {mark : α} {more front : List α} (absent : mark ∉ front) :
    Clear (mark :: more) front := by
  intro back tail nonempty
  have suffix := (List.mem_tails _ _).mp tail
  constructor
  · rintro ⟨rest, rfl⟩
    exact absent (suffix.subset List.mem_cons_self)
  · rintro ⟨rest, whole⟩
    cases back with
    | nil => exact nonempty rfl
    | cons item back =>
        obtain ⟨rfl, _⟩ := List.cons.inj whole
        exact absent (suffix.subset List.mem_cons_self)

variable [DecidableEq α]

instance (separator front : List α) : Decidable (Clear separator front) := by
  unfold Clear
  infer_instance

def around? (separator : List α) : List α → Option (List α × List α)
  | [] => (separator.isPrefixOf? []).map fun after => ([], after)
  | item :: rest =>
      match separator.isPrefixOf? (item :: rest) with
      | some after => some ([], after)
      | none => (around? separator rest).map fun (before, after) => (item :: before, after)

def between? (opening closing text : List α) : Option (List α) :=
  (around? opening text).bind fun parts => (around? closing parts.2).map Prod.fst

theorem around?_clear_append {separator front : List α} (clear : Clear separator front)
    (text : List α) :
    around? separator (front ++ text) =
      (around? separator text).map fun (before, after) => (front ++ before, after) := by
  induction front with
  | nil => simp
  | cons item front ih =>
      have later : Clear separator front := by
        intro back tail nonempty
        exact clear back (by simp [tail]) nonempty
      have here : separator.isPrefixOf? (item :: (front ++ text)) = none := by
        cases found : separator.isPrefixOf? (item :: (front ++ text)) with
        | none => rfl
        | some after =>
            have whole := List.isPrefixOf?_eq_some_iff_append_eq.mp found
            obtain ⟨apart, within⟩ := clear (item :: front) (by simp) (List.cons_ne_nil _ _)
            have starts : separator <+: (item :: front) ++ text := ⟨after, whole⟩
            rcases List.prefix_or_prefix_of_prefix starts (List.prefix_append _ text) with
              inside | beyond
            · exact absurd inside apart
            · exact absurd beyond within
      rw [List.cons_append, around?, here, ih later, Option.map_map]
      rfl

theorem around?_self_append {separator : List α} (after : List α) :
    around? separator (separator ++ after) = some ([], after) := by
  have found : separator.isPrefixOf? (separator ++ after) = some after :=
    List.isPrefixOf?_eq_some_iff_append_eq.mpr rfl
  cases whole : separator ++ after with
  | nil => rw [around?, ← whole, found]; rfl
  | cons item rest => rw [around?, ← whole, found]

theorem around?_append {separator before : List α} (clear : Clear separator before)
    (after : List α) :
    around? separator (before ++ (separator ++ after)) = some (before, after) := by
  rw [around?_clear_append clear, around?_self_append]
  simp

theorem between?_clear_append {opening front : List α} (clear : Clear opening front)
    (closing text : List α) :
    between? opening closing (front ++ text) = between? opening closing text := by
  rw [between?, around?_clear_append clear, between?]
  cases around? opening text with
  | none => rfl
  | some parts => rfl

theorem between?_append (opening : List α) {closing inner : List α} (clear : Clear closing inner)
    (after : List α) :
    between? opening closing (opening ++ (inner ++ (closing ++ after))) = some inner := by
  rw [between?, around?_self_append, Option.bind_some, around?_append clear, Option.map_some]

end UptimeGreeter.Split
