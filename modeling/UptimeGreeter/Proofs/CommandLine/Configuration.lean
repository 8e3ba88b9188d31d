import Mathlib.Data.List.Forall2
import UptimeGreeter.Proofs.CommandLine.Reading

/-!
The configuration that a line asks for. Each setting is taken from the line, or else from its
variable, or else stays as it is by default.
-/

namespace UptimeGreeter.CommandLine

def held (config : Config) : Setting → Option Assignment
  | .host => some (.host config.host)
  | .port => some (.port config.port)
  | .absentProfile => some (.absentProfile config.absentProfile)
  | .logLevel => config.logLevel.map .logLevel

theorem held_apply (config : Config) (assignment : Assignment) (setting : Setting) :
    held (assignment.apply config) setting =
      if assignment.setting = setting then some assignment else held config setting := by
  cases assignment <;> cases setting <;> rfl

def AllAssign (entries : List (Setting × Bytes)) (assignments : List Assignment) : Prop :=
  List.Forall₂ (fun entry assignment => Assigns entry.1 entry.2 assignment) entries assignments

theorem exists_allAssign_iff (entries : List (Setting × Bytes)) :
    (∃ assignments, AllAssign entries assignments) ↔ ∀ entry ∈ entries, Sound entry.1 entry.2 := by
  induction entries with
  | nil => simp [AllAssign]
  | cons entry entries ih =>
      rw [List.forall_mem_cons, ← ih, sound_iff]
      constructor
      · rintro ⟨assignments, all⟩
        cases all with
        | cons first rest => exact ⟨⟨_, first⟩, _, rest⟩
      · rintro ⟨⟨assignment, first⟩, assignments, rest⟩
        exact ⟨assignment :: assignments, .cons first rest⟩

theorem AllAssign.append {front back : List (Setting × Bytes)} {first second : List Assignment}
    (frontAssigns : AllAssign front first) (backAssigns : AllAssign back second) :
    AllAssign (front ++ back) (first ++ second) :=
  List.rel_append frontAssigns backAssigns

theorem held_foldl_of_lookup_none {entries : List (Setting × Bytes)}
    {assignments : List Assignment} (all : AllAssign entries assignments) (config : Config)
    (setting : Setting) (absent : entries.lookup setting = none) :
    held (assignments.foldl Assignment.apply config) setting = held config setting := by
  induction all generalizing config with
  | nil => rfl
  | cons first rest ih =>
      rename_i entry assignment entries assignments
      obtain ⟨key, value⟩ := entry
      rw [List.lookup_cons] at absent
      split at absent
      · cases absent
      · rename_i different
        have other : assignment.setting ≠ setting := by
          rw [first.setting_eq]
          rintro rfl
          simp at different
        rw [List.foldl_cons, ih _ absent, held_apply, if_neg other]

theorem held_foldl_of_lookup_some {entries : List (Setting × Bytes)}
    {assignments : List Assignment} (all : AllAssign entries assignments)
    (once : (entries.map Prod.fst).Nodup) (config : Config) (setting : Setting) (value : Bytes)
    (present : entries.lookup setting = some value) :
    ∃ assignment, Assigns setting value assignment ∧
      held (assignments.foldl Assignment.apply config) setting = some assignment := by
  induction all generalizing config with
  | nil => cases present
  | cons first rest ih =>
      rename_i entry assignment entries assignments
      obtain ⟨key, found⟩ := entry
      rw [List.map_cons, List.nodup_cons] at once
      rw [List.lookup_cons] at present
      split at present
      · rename_i same
        obtain rfl : setting = key := by simpa using same
        obtain rfl := Option.some.inj present
        refine ⟨assignment, first, ?_⟩
        have later : entries.lookup setting = none := by
          rw [List.lookup_eq_none_iff]
          intro entry member
          have different : setting ≠ entry.1 := by
            intro same
            exact once.1 (List.mem_map.mpr ⟨entry, member, same.symm⟩)
          simpa using different
        rw [List.foldl_cons, held_foldl_of_lookup_none rest _ _ later, held_apply,
          if_pos first.setting_eq]
      · exact ih once.2 _ present

theorem ext_held {left right : Config} (same : ∀ setting, held left setting = held right setting) :
    left = right := by
  have host := same .host
  have port := same .port
  have absentProfile := same .absentProfile
  have logLevel := same .logLevel
  simp only [held, Option.some.injEq, Assignment.host.injEq, Assignment.port.injEq,
    Assignment.absentProfile.injEq] at host port absentProfile logLevel
  have level := Option.map_injective (fun _ _ => Assignment.logLevel.inj) logLevel
  cases left
  cases right
  simp_all

def openEntries (environment : Environment) (used settings : List Setting) :
    List (Setting × Bytes) :=
  settings.filterMap fun setting =>
    if setting ∈ used then none else (standIn environment setting).map (setting, ·)

theorem bind_standIn? (environment : Environment) (setting : Setting) :
    setting.standIn? >>= environment = standIn environment setting := by
  cases setting <;> rfl

theorem readVariables_cons (environment : Environment) (used : List Setting) (setting : Setting)
    (rest : List Setting) :
    (openEntries environment used (setting :: rest) = openEntries environment used rest ∧
      readVariables environment used (setting :: rest) = readVariables environment used rest) ∨
    ∃ value, openEntries environment used (setting :: rest) =
        (setting, value) :: openEntries environment used rest ∧
      ((∃ fault, Assignment.ofBytes setting value = .error fault ∧
          readVariables environment used (setting :: rest) = .error (.badValue setting fault)) ∨
        ∃ assignment, Assigns setting value assignment ∧
          readVariables environment used (setting :: rest) =
            (readVariables environment used rest).map (assignment :: ·)) := by
  by_cases known : setting ∈ used
  · exact .inl ⟨by simp [openEntries, known], by simp [readVariables, known]⟩
  · cases found : standIn environment setting with
    | none =>
        refine .inl ⟨by simp [openEntries, known, found], ?_⟩
        simp only [readVariables, known, if_false, bind_standIn?, found]
    | some value =>
        refine .inr ⟨value, by simp [openEntries, known, found], ?_⟩
        simp only [readVariables, known, if_false, bind_standIn?, found]
        cases read : Assignment.ofBytes setting value with
        | error fault => exact .inl ⟨fault, rfl, rfl⟩
        | ok assignment =>
            refine .inr ⟨assignment, (ofBytes_eq_ok_iff _ _ _).mp read, ?_⟩
            cases readVariables environment used rest <;> rfl

theorem readVariables_eq_ok_iff (environment : Environment) (used settings : List Setting)
    (assignments : List Assignment) :
    readVariables environment used settings = .ok assignments ↔
      AllAssign (openEntries environment used settings) assignments := by
  induction settings generalizing assignments with
  | nil =>
      simp only [readVariables, Except.ok.injEq, openEntries, List.filterMap_nil, AllAssign,
        List.forall₂_nil_left_iff]
      exact eq_comm
  | cons setting rest ih =>
      rcases readVariables_cons environment used setting rest with ⟨same, read⟩ |
        ⟨value, more, ⟨fault, bad, read⟩ | ⟨assignment, assigns, read⟩⟩
      · rw [same, read, ih]
      · rw [more, read, AllAssign, List.forall₂_cons_left_iff]
        simp only [reduceCtorEq, false_iff]
        rintro ⟨assignment, others, first, _, rfl⟩
        exact not_sound_of_error bad ((sound_iff _ _).mpr ⟨assignment, first⟩)
      · rw [more, read, AllAssign, List.forall₂_cons_left_iff]
        constructor
        · intro mapped
          cases later : readVariables environment used rest with
          | error stop =>
              rw [later] at mapped
              cases mapped
          | ok others =>
              rw [later] at mapped
              exact ⟨assignment, others, assigns, (ih others).mp later, (Except.ok.inj mapped).symm⟩
        · rintro ⟨other, others, first, remaining, rfl⟩
          rw [(ih others).mpr remaining, Assigns.unique assigns first]
          rfl

theorem readVariables_eq_error {environment : Environment} {used settings : List Setting}
    {stop : Stop} (failed : readVariables environment used settings = .error stop) :
    ∃ setting value fault, (setting, value) ∈ openEntries environment used settings ∧
      Assignment.ofBytes setting value = .error fault ∧ stop = .badValue setting fault := by
  induction settings with
  | nil => cases failed
  | cons setting rest ih =>
      rcases readVariables_cons environment used setting rest with ⟨same, read⟩ |
        ⟨value, more, ⟨fault, bad, read⟩ | ⟨assignment, assigns, read⟩⟩
      · rw [same]
        exact ih (read.symm.trans failed)
      · rw [more]
        exact ⟨setting, value, fault, List.mem_cons_self, bad,
          Except.error.inj (failed.symm.trans read)⟩
      · rw [more]
        rw [read] at failed
        cases later : readVariables environment used rest with
        | error other =>
            rw [later] at failed
            obtain rfl := Except.error.inj failed
            obtain ⟨name, found, fault, member, bad, rfl⟩ := ih later
            exact ⟨name, found, fault, List.mem_cons_of_mem _ member, bad, rfl⟩
        | ok others =>
            rw [later] at failed
            cases failed

end UptimeGreeter.CommandLine
