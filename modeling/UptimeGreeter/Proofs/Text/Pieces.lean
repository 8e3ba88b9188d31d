import Mathlib.Data.List.Forall2
import UptimeGreeter.Text.Split

/-!
A list is cut into pieces in one way, and pieces are read all together or not at all.
-/

namespace UptimeGreeter

theorem not_mem_of_forall {α : Type} {test : α → Bool} {items : List α}
    (passed : ∀ item ∈ items, test item) {mark : α} (fails : test mark = false) : mark ∉ items := by
  intro inside
  rw [passed mark inside] at fails
  cases fails

namespace Split

variable {α : Type} [DecidableEq α]

theorem all_eq_splitOn (separator : α) (items : List α) :
    all separator items = items.splitOn separator := by
  induction items with
  | nil => rfl
  | cons item rest ih =>
      rw [List.splitOn_cons_eq_if_modifyHead, all, ih]
      cases found : rest.splitOn separator with
      | nil => exact absurd found (List.splitOn_ne_nil separator rest)
      | cons piece pieces => simp

theorem not_mem_of_mem_all {separator : α} {items piece : List α}
    (member : piece ∈ all separator items) : separator ∉ piece := by
  induction items generalizing piece with
  | nil =>
      obtain rfl := List.mem_singleton.mp member
      exact List.not_mem_nil
  | cons item rest ih =>
      rw [all] at member
      split at member
      · obtain rfl := List.mem_singleton.mp member
        exact List.not_mem_nil
      · rename_i first pieces found
        rw [found] at ih
        split at member
        · rcases List.mem_cons.mp member with rfl | later
          · exact List.not_mem_nil
          · exact ih later
        · rename_i different
          rcases List.mem_cons.mp member with rfl | later
          · rw [List.mem_cons, not_or]
            exact ⟨Ne.symm different, ih List.mem_cons_self⟩
          · exact ih (List.mem_cons_of_mem _ later)

theorem all_eq_iff (separator : α) (items : List α) (pieces : List (List α)) :
    all separator items = pieces ↔
      pieces ≠ [] ∧ [separator].intercalate pieces = items ∧
        ∀ piece ∈ pieces, separator ∉ piece := by
  constructor
  · rintro rfl
    refine ⟨?_, ?_, fun piece => not_mem_of_mem_all⟩
    · rw [all_eq_splitOn]
      exact List.splitOn_ne_nil separator items
    · rw [all_eq_splitOn, List.intercalate_splitOn]
  · rintro ⟨nonempty, rfl, clean⟩
    rw [all_eq_splitOn, List.splitOn_intercalate separator clean nonempty]

end Split

section Reading

variable {α β : Type} {read : α → Option β} {items : List α}

theorem mapM_eq_some_iff {values : List β} :
    items.mapM read = some values ↔
      List.Forall₂ (fun item value => read item = some value) items values := by
  induction items generalizing values with
  | nil => simp [List.forall₂_nil_left_iff, eq_comm]
  | cons item rest ih =>
      simp only [List.mapM_cons, Option.bind_eq_bind, Option.bind_eq_some_iff, Option.pure_def,
        Option.some.injEq, ih, List.forall₂_cons_left_iff, exists_and_left, eq_comm (b := values)]

theorem mapM_id_eq_some_iff {items : List (Option β)} {values : List β} :
    items.mapM id = some values ↔ items = values.map some := by
  have same : List.Forall₂ Eq items (values.map some) ↔ items = values.map some := by
    rw [List.forall₂_eq_eq_eq]
  rw [mapM_eq_some_iff, ← same, List.forall₂_map_right_iff]
  rfl

end Reading

section Trying

variable {α β ε : Type} {read : α → Except ε β} {items : List α}

theorem mapM_eq_ok_iff {values : List β} :
    items.mapM read = .ok values ↔
      List.Forall₂ (fun item value => read item = .ok value) items values := by
  induction items generalizing values with
  | nil => simp [List.forall₂_nil_left_iff, eq_comm, pure, Except.pure]
  | cons item rest ih =>
      rw [List.mapM_cons, List.forall₂_cons_left_iff]
      cases first : read item with
      | error fault => simp [bind, Except.bind]
      | ok value =>
          cases later : rest.mapM read with
          | error fault =>
              have none (others : List β) :
                  ¬List.Forall₂ (fun item value => read item = .ok value) rest others := by
                rw [← ih, later]
                simp
              simp [bind, Except.bind, none]
          | ok others => simp [bind, Except.bind, pure, Except.pure, ← ih, later, eq_comm]

theorem mapM_eq_error_iff {fault : ε} :
    items.mapM read = .error fault ↔
      ∃ front item back, items = front ++ item :: back ∧
        (∀ earlier ∈ front, ∃ value, read earlier = .ok value) ∧ read item = .error fault := by
  induction items with
  | nil => simp [pure, Except.pure]
  | cons first rest ih =>
      rw [List.mapM_cons]
      cases tried : read first with
      | error found =>
          constructor
          · intro stopped
            obtain rfl : found = fault := by simpa [bind, Except.bind] using stopped
            exact ⟨[], first, rest, rfl, by simp, tried⟩
          · rintro ⟨front, item, back, split, passed, failed⟩
            cases front with
            | nil =>
                obtain ⟨rfl, rfl⟩ := List.cons.inj split
                obtain rfl := Except.error.inj (tried.symm.trans failed)
                rfl
            | cons early front =>
                obtain ⟨rfl, rfl⟩ := List.cons.inj split
                obtain ⟨value, succeeded⟩ := passed first List.mem_cons_self
                cases tried.symm.trans succeeded
      | ok value =>
          have later : (Except.ok value >>= fun value => rest.mapM read >>= fun values =>
              pure (value :: values)) = .error fault ↔ rest.mapM read = .error fault := by
            cases rest.mapM read <;> simp [bind, Except.bind, pure, Except.pure]
          rw [later, ih]
          constructor
          · rintro ⟨front, item, back, rfl, passed, failed⟩
            refine ⟨first :: front, item, back, rfl, ?_, failed⟩
            rw [List.forall_mem_cons]
            exact ⟨⟨value, tried⟩, passed⟩
          · rintro ⟨front, item, back, split, passed, failed⟩
            cases front with
            | nil =>
                obtain ⟨rfl, rfl⟩ := List.cons.inj split
                cases tried.symm.trans failed
            | cons early front =>
                obtain ⟨rfl, rfl⟩ := List.cons.inj split
                rw [List.forall_mem_cons] at passed
                exact ⟨front, item, back, rfl, passed.2, failed⟩

end Trying

end UptimeGreeter
