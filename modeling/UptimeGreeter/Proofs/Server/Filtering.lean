import Mathlib.Data.List.Basic
import UptimeGreeter.LogFilter.Selection
import UptimeGreeter.Server.LogRecord

/-!
What a filter leaves of a list of records. It takes records away, and it takes the span away from
all records of one span or from none of them.
-/

namespace UptimeGreeter

open LogFilter

namespace LogRecord

def withoutSpan (record : LogRecord) : LogRecord :=
  { record with span := none }

/-- Some of the records in their order, all of them as they were or all of them without span. -/
def Reduces (records shown : List LogRecord) : Prop :=
  ∃ kept, kept.Sublist records ∧ (shown = kept ∨ shown = kept.map withoutSpan)

variable {matcher : Matcher} {filter : Filter} {records : List LogRecord} {span : Span}

theorem eq_or_of_through {record shown : LogRecord}
    (passes : through? matcher filter record = some shown) :
    shown = record ∨ shown = record.withoutSpan := by
  unfold through? at passes
  split at passes
  · obtain ⟨_, same⟩ := Option.ite_none_right_eq_some.mp passes
    exact .inl (Option.some.inj same).symm
  · split at passes
    · obtain ⟨_, same⟩ := Option.ite_none_right_eq_some.mp passes
      exact .inl (Option.some.inj same).symm
    · obtain ⟨_, same⟩ := Option.ite_none_right_eq_some.mp passes
      exact .inr (Option.some.inj same).symm

theorem level_of_through {record shown : LogRecord}
    (passes : through? matcher filter record = some shown) : shown.level = record.level := by
  rcases eq_or_of_through passes with rfl | rfl
  · rfl
  · rfl

theorem filtered_eq_self
    (each : ∀ record ∈ records, through? matcher filter record = some record) :
    filtered matcher filter records = records := by
  rw [filtered, List.filterMap_congr each, List.filterMap_some]

theorem filtered_within (within : ∀ record ∈ records, record.span = some span) :
    filtered matcher filter records =
      if filter.enablesSpan span then
        records.filter fun record => filter.allowsIn matcher span record.shape
      else (records.filter fun record => filter.allows record.shape).map withoutSpan := by
  by_cases enabled : filter.enablesSpan span
  · have each : ∀ record ∈ records, through? matcher filter record =
        if filter.allowsIn matcher span record.shape then some record else none := by
      intro record member
      simp only [through?, within record member, if_pos enabled]
    rw [if_pos enabled, filtered, List.filterMap_congr each, ← List.filterMap_filter,
      List.filterMap_some]
  · have each : ∀ record ∈ records, through? matcher filter record =
        if filter.allows record.shape then some record.withoutSpan else none := by
      intro record member
      simp only [through?, within record member, if_neg enabled, withoutSpan]
    rw [if_neg enabled, filtered, List.filterMap_congr each, ← List.filterMap_eq_map,
      List.filterMap_filter]
    rfl

theorem reduces_filtered (within : ∀ record ∈ records, record.span = some span) :
    Reduces records (filtered matcher filter records) := by
  rw [filtered_within within]
  split
  · exact ⟨_, List.filter_sublist, .inl rfl⟩
  · exact ⟨_, List.filter_sublist, .inr rfl⟩

theorem filtered_upTo {level : Level} (within : ∀ record ∈ records, record.span = some span)
    (entered : span.level.verbosity ≤ level.verbosity)
    (below : ∀ record ∈ records, record.level.verbosity ≤ level.verbosity) :
    filtered matcher (.upTo level) records = records := by
  have enabled : (Filter.upTo level).enablesSpan span = true := decide_eq_true entered
  rw [filtered_within within, if_pos enabled]
  apply List.filter_eq_self.mpr
  intro record member
  have allowed : (Filter.upTo level).staticallyAllows record.shape = true :=
    decide_eq_true (below record member)
  rw [Filter.allowsIn, allowed, Bool.or_true]

end LogRecord

theorem LogFilter.Selection.choose?_debug (environment : Environment) :
    choose? (some "debug") environment = some ⟨.upTo .debug, ""⟩ := by
  rfl

end UptimeGreeter
