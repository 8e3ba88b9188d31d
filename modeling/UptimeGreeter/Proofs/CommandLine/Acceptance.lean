import UptimeGreeter.Proofs.CommandLine.Configuration

/-!
Which command lines are accepted: those whose arguments are a line with sound values, where the
variables of the settings it leaves open are sound too.
-/

namespace UptimeGreeter.CommandLine

theorem settles_iff {progress : Progress} (settled : progress.pending = none) (items : List Item)
    (final : Progress) :
    Settles progress items final ↔
      (items.map Item.setting).Nodup ∧ (∀ item ∈ items, item.setting ∉ progress.used) ∧
        ∃ assignments, AllAssign (items.map Item.entry) assignments ∧
          final = ⟨none, progress.used ++ items.map Item.setting, progress.given ++ assignments⟩ := by
  induction items generalizing progress with
  | nil =>
      have same : (⟨none, progress.used, progress.given⟩ : Progress) = progress := by
        rw [← settled]
      constructor
      · intro settles
        cases settles
        exact ⟨by simp, by simp, [], .nil, by simp [same]⟩
      · rintro ⟨_, _, assignments, all, rfl⟩
        cases all
        simpa [same] using Settles.nil progress
  | cons item items ih =>
      rw [List.map_cons, List.nodup_cons, List.forall_mem_cons, List.map_cons]
      constructor
      · intro settles
        cases settles with
        | cons first later =>
            obtain ⟨unused, assignment, assigns, rfl⟩ :=
              (Progress.settleWith_eq_ok_iff _ _ _ _).mp first
            obtain ⟨once, others, assignments, all, rfl⟩ := (ih rfl).mp later
            simp only [List.mem_append, List.mem_singleton, not_or] at others
            refine ⟨⟨?_, once⟩, ⟨unused, fun other member => (others other member).1⟩,
              assignment :: assignments, .cons assigns all, by simp⟩
            rw [List.mem_map]
            rintro ⟨other, member, same⟩
            exact (others other member).2 same
      · rintro ⟨⟨first, once⟩, ⟨unused, others⟩, assignments, all, rfl⟩
        cases all with
        | cons assigns rest =>
            refine .cons ((Progress.settleWith_eq_ok_iff _ _ _ _).mpr ⟨unused, _, assigns, rfl⟩) ?_
            refine (ih rfl).mpr ⟨once, ?_, _, rest, by simp⟩
            intro other member
            simp only [List.mem_append, List.mem_singleton, not_or]
            refine ⟨others other member, ?_⟩
            intro same
            exact first (List.mem_map.mpr ⟨other, member, same⟩)

theorem readArguments_closing (line : Line) {progress : Progress} (settled : progress.pending = none) :
    readArguments progress (if line.closed then [Utf8.encode "--"] else []) = .ok progress := by
  split
  · rw [readArguments_escape ((Token.ofBytes_eq_escape_iff _).mpr rfl),
      Progress.settle_of_pending_none settled]
  · rw [readArguments_nil, Progress.settle_of_pending_none settled]

theorem readArguments_line_iff (line : Line) (final : Progress) :
    readArguments .start line.arguments = .ok final ↔
      ∃ assignments, AllAssign (line.items.map Item.entry) assignments ∧
        final = ⟨none, line.settings, assignments⟩ := by
  rw [Line.arguments, readArguments_items_iff (clean_ok final) rfl]
  constructor
  · rintro ⟨reached, settles, read⟩
    rw [readArguments_closing line (settles.pending rfl)] at read
    obtain rfl := Except.ok.inj read
    obtain ⟨_, _, assignments, all, rfl⟩ := (settles_iff rfl _ _).mp settles
    exact ⟨assignments, all, rfl⟩
  · rintro ⟨assignments, all, rfl⟩
    refine ⟨_, (settles_iff rfl _ _).mpr ⟨line.once, ?_, assignments, all, rfl⟩, ?_⟩
    · simp [Progress.start]
    · exact readArguments_closing line rfl

theorem exists_line_of_readArguments {arguments : List Bytes} {final : Progress}
    (read : readArguments .start arguments = .ok final) :
    ∃ line : Line, line.arguments = arguments := by
  obtain ⟨items, ending, rfl, ends⟩ :=
    exists_items_of_readArguments (clean_ok final) arguments .start rfl read
  obtain ⟨reached, settles, finished⟩ := (readArguments_items_iff (clean_ok final) rfl _ _).mp read
  have once := ((settles_iff rfl _ _).mp settles).1
  cases ends with
  | nothing => exact ⟨⟨items, once, false⟩, by simp [Line.arguments]⟩
  | dashes => exact ⟨⟨items, once, true⟩, by simp [Line.arguments]⟩
  | flag rest token =>
      rw [readArguments_flag token, Progress.settle_of_pending_none (settles.pending rfl)] at finished
      cases finished

def Line.entries (line : Line) (environment : Environment) : List (Setting × Bytes) :=
  line.items.map Item.entry ++ openEntries environment line.settings Setting.all

theorem mem_all (setting : Setting) : setting ∈ Setting.all := by
  cases setting <;> decide

theorem mem_openEntries_iff (environment : Environment) (used : List Setting) (setting : Setting)
    (value : Bytes) :
    (setting, value) ∈ openEntries environment used Setting.all ↔
      setting ∉ used ∧ standIn environment setting = some value := by
  rw [openEntries, List.mem_filterMap]
  constructor
  · rintro ⟨name, _, found⟩
    split at found
    · cases found
    · rename_i unused
      rw [Option.map_eq_some_iff] at found
      obtain ⟨_, variableValue, same⟩ := found
      cases same
      exact ⟨unused, variableValue⟩
  · rintro ⟨unused, found⟩
    exact ⟨setting, mem_all setting, by simp [unused, found]⟩

theorem openEntries_sublist (environment : Environment) (used settings : List Setting) :
    ((openEntries environment used settings).map Prod.fst).Sublist settings := by
  induction settings with
  | nil => exact List.Sublist.refl []
  | cons setting rest ih =>
      rcases readVariables_cons environment used setting rest with ⟨same, _⟩ | ⟨value, more, _⟩
      · rw [same]
        exact ih.cons setting
      · rw [more]
        exact ih.cons_cons setting

theorem Line.nodup_entries (line : Line) (environment : Environment) :
    ((line.entries environment).map Prod.fst).Nodup := by
  rw [entries, List.map_append, List.map_map, List.nodup_append]
  have opened := openEntries_sublist environment line.settings Setting.all
  refine ⟨line.once, opened.nodup (by decide), ?_⟩
  rintro setting onLine other inVariables rfl
  obtain ⟨⟨name, value⟩, member, rfl⟩ := List.mem_map.mp inVariables
  exact ((mem_openEntries_iff _ _ _ _).mp member).1 onLine

theorem lookup_eq_some_iff_mem {entries : List (Setting × Bytes)}
    (once : (entries.map Prod.fst).Nodup) (setting : Setting) (value : Bytes) :
    entries.lookup setting = some value ↔ (setting, value) ∈ entries := by
  constructor
  · intro found
    obtain ⟨front, back, rfl, _⟩ := List.lookup_eq_some_iff.mp found
    exact List.mem_append_right front List.mem_cons_self
  · intro member
    obtain ⟨front, back, rfl⟩ := List.append_of_mem member
    refine List.lookup_eq_some_iff.mpr ⟨front, back, rfl, ?_⟩
    rw [List.map_append, List.map_cons, List.nodup_append] at once
    intro entry inFront
    have different := once.2.2 entry.1 (List.mem_map_of_mem inFront) setting List.mem_cons_self
    simpa using different.symm

theorem Line.written_eq_none_iff (line : Line) (setting : Setting) :
    line.written setting = none ↔ setting ∉ line.settings := by
  rw [written, List.lookup_eq_none_iff, settings]
  constructor
  · intro absent onLine
    obtain ⟨item, member, rfl⟩ := List.mem_map.mp onLine
    simpa [Item.entry] using absent item.entry (List.mem_map_of_mem member)
  · intro absent entry member
    obtain ⟨item, inItems, rfl⟩ := List.mem_map.mp member
    have different : setting ≠ item.setting := by
      rintro rfl
      exact absent (List.mem_map_of_mem inItems)
    simpa [Item.entry] using different

theorem Line.lookup_entries (line : Line) (environment : Environment) (setting : Setting) :
    (line.entries environment).lookup setting = line.source environment setting := by
  rw [entries, List.lookup_append, source]
  cases onLine : line.written setting with
  | some value =>
      rw [written] at onLine
      rw [onLine]
      rfl
  | none =>
      have opened := openEntries_sublist environment line.settings Setting.all
      have unused := (line.written_eq_none_iff setting).mp onLine
      rw [written] at onLine
      rw [onLine, Option.none_or, Option.none_or]
      apply Option.ext
      intro value
      rw [lookup_eq_some_iff_mem (opened.nodup (by decide)), mem_openEntries_iff]
      exact and_iff_right unused

def Configures (line : Line) (environment : Environment) (config : Config) : Prop :=
  ∀ setting,
    (∀ value, line.source environment setting = some value →
      ∃ assignment, Assigns setting value assignment ∧ held config setting = some assignment) ∧
    (line.source environment setting = none → held config setting = held .default setting)

theorem configures_foldl {line : Line} {environment : Environment} {assignments : List Assignment}
    (all : AllAssign (line.entries environment) assignments) :
    Configures line environment (assignments.foldl Assignment.apply .default) := by
  intro setting
  constructor
  · intro value source
    rw [← line.lookup_entries] at source
    exact held_foldl_of_lookup_some all (line.nodup_entries environment) _ setting value source
  · intro source
    rw [← line.lookup_entries] at source
    exact held_foldl_of_lookup_none all _ setting source

theorem Configures.unique {line : Line} {environment : Environment} {left right : Config}
    (first : Configures line environment left) (second : Configures line environment right) :
    left = right := by
  apply ext_held
  intro setting
  cases source : line.source environment setting with
  | none => rw [(first setting).2 source, (second setting).2 source]
  | some value =>
      obtain ⟨leftAssignment, leftAssigns, leftHeld⟩ := (first setting).1 value source
      obtain ⟨rightAssignment, rightAssigns, rightHeld⟩ := (second setting).1 value source
      rw [leftHeld, rightHeld, leftAssigns.unique rightAssigns]

theorem readConfig_cons (program : Bytes) (arguments : List Bytes) (environment : Environment) :
    readConfig (program :: arguments) environment =
      (readArguments .start arguments).bind fun progress =>
        (readVariables environment progress.used Setting.all).bind fun assignments =>
          .ok ((progress.given ++ assignments).foldl Assignment.apply .default) := by
  rw [readConfig, List.tail_cons]
  cases readArguments .start arguments with
  | error stop => rfl
  | ok progress =>
      simp only [Except.bind]
      cases readVariables environment progress.used Setting.all <;> rfl

theorem readArguments_of_readConfig {program : Bytes} {arguments : List Bytes}
    {environment : Environment} {config : Config}
    (read : readConfig (program :: arguments) environment = .ok config) :
    ∃ progress, readArguments .start arguments = .ok progress := by
  rw [readConfig_cons] at read
  cases found : readArguments .start arguments with
  | error stop =>
      rw [found] at read
      cases read
  | ok progress => exact ⟨progress, rfl⟩

theorem readConfig_line_eq_ok_iff (program : Bytes) (line : Line) (environment : Environment)
    (config : Config) :
    readConfig (program :: line.arguments) environment = .ok config ↔
      ∃ given others, AllAssign (line.items.map Item.entry) given ∧
        AllAssign (openEntries environment line.settings Setting.all) others ∧
        config = (given ++ others).foldl Assignment.apply .default := by
  rw [readConfig_cons]
  constructor
  · intro read
    cases found : readArguments .start line.arguments with
    | error stop =>
        rw [found] at read
        cases read
    | ok progress =>
        obtain ⟨given, all, rfl⟩ := (readArguments_line_iff line _).mp found
        rw [found, Except.bind] at read
        cases opened : readVariables environment line.settings Setting.all with
        | error stop =>
            rw [opened] at read
            cases read
        | ok others =>
            rw [opened] at read
            exact ⟨given, others, all, (readVariables_eq_ok_iff _ _ _ _).mp opened,
              (Except.ok.inj read).symm⟩
  · rintro ⟨given, others, onLine, inVariables, rfl⟩
    have arguments := (readArguments_line_iff line _).mpr ⟨given, onLine, rfl⟩
    have fromVariables := (readVariables_eq_ok_iff _ _ _ _).mpr inVariables
    simp only [arguments, Except.bind, fromVariables]

theorem Configures.sound {line : Line} {environment : Environment} {config : Config}
    (configures : Configures line environment config) :
    ∀ entry ∈ line.entries environment, Sound entry.1 entry.2 := by
  rintro ⟨setting, value⟩ member
  have found := (lookup_eq_some_iff_mem (line.nodup_entries environment) _ _).mpr member
  rw [line.lookup_entries] at found
  obtain ⟨assignment, assigns, _⟩ := (configures setting).1 value found
  exact (sound_iff _ _).mpr ⟨assignment, assigns⟩

theorem exists_readConfig_line (program : Bytes) (line : Line) (environment : Environment)
    (sound : ∀ entry ∈ line.entries environment, Sound entry.1 entry.2) :
    ∃ config, readConfig (program :: line.arguments) environment = .ok config := by
  rw [Line.entries, List.forall_mem_append, ← exists_allAssign_iff, ← exists_allAssign_iff] at sound
  obtain ⟨⟨given, onLine⟩, others, inVariables⟩ := sound
  exact ⟨_, (readConfig_line_eq_ok_iff _ _ _ _).mpr ⟨given, others, onLine, inVariables, rfl⟩⟩

theorem configures_of_readConfig {program : Bytes} {line : Line} {environment : Environment}
    {config : Config} (read : readConfig (program :: line.arguments) environment = .ok config) :
    Configures line environment config := by
  obtain ⟨given, others, onLine, inVariables, rfl⟩ := (readConfig_line_eq_ok_iff _ _ _ _).mp read
  exact configures_foldl (onLine.append inVariables)

theorem readConfig_line_iff (program : Bytes) (line : Line) (environment : Environment)
    (config : Config) :
    readConfig (program :: line.arguments) environment = .ok config ↔
      Configures line environment config := by
  refine ⟨configures_of_readConfig, ?_⟩
  intro configures
  obtain ⟨found, read⟩ := exists_readConfig_line program line environment configures.sound
  rwa [configures.unique (configures_of_readConfig read)]

theorem exists_line_of_readConfig {program : Bytes} {arguments : List Bytes}
    {environment : Environment} {config : Config}
    (read : readConfig (program :: arguments) environment = .ok config) :
    ∃ line : Line, line.arguments = arguments := by
  obtain ⟨progress, found⟩ := readArguments_of_readConfig read
  exact exists_line_of_readArguments found

structure Line.IsSound (line : Line) (environment : Environment) : Prop where
  values : ∀ item ∈ line.items, Sound item.setting item.value
  bindHost : .host ∉ line.settings →
    ∀ value, environment .bindHost = some value → Sound .host value
  port : .port ∉ line.settings → ∀ value, environment .port = some value → Sound .port value
  absentProfile : .absentProfile ∉ line.settings →
    ∀ value, environment .absentProfile = some value → Sound .absentProfile value

theorem Line.isSound_iff (line : Line) (environment : Environment) :
    line.IsSound environment ↔ ∀ entry ∈ line.entries environment, Sound entry.1 entry.2 := by
  rw [entries, List.forall_mem_append, List.forall_mem_map]
  constructor
  · intro sound
    refine ⟨sound.values, ?_⟩
    rintro ⟨setting, value⟩ member
    obtain ⟨unused, found⟩ := (mem_openEntries_iff _ _ _ _).mp member
    cases setting with
    | host => exact sound.bindHost unused value found
    | port => exact sound.port unused value found
    | absentProfile => exact sound.absentProfile unused value found
    | logLevel => cases found
  · rintro ⟨values, opened⟩
    have sound (setting : Setting) (unused : setting ∉ line.settings) (value : Bytes)
        (found : standIn environment setting = some value) : Sound setting value :=
      opened (setting, value) ((mem_openEntries_iff _ _ _ _).mpr ⟨unused, found⟩)
    exact ⟨values, sound .host, sound .port, sound .absentProfile⟩

theorem readConfig_ok_iff_line (program : Bytes) (arguments : List Bytes)
    (environment : Environment) :
    (∃ config, readConfig (program :: arguments) environment = .ok config) ↔
      ∃ line : Line, line.arguments = arguments ∧ line.IsSound environment := by
  constructor
  · rintro ⟨config, read⟩
    obtain ⟨line, rfl⟩ := exists_line_of_readConfig read
    exact ⟨line, rfl, (line.isSound_iff _).mpr (configures_of_readConfig read).sound⟩
  · rintro ⟨line, rfl, sound⟩
    exact exists_readConfig_line program line environment ((line.isSound_iff _).mp sound)

theorem repeated_refused (program : Bytes) (environment : Environment) (items : List Item)
    (rest : List Bytes) :
    (items.map Item.setting).Nodup ∨
      ∃ stop, readConfig (program :: (items.flatMap Item.arguments ++ rest)) environment =
        .error stop := by
  cases read : readConfig (program :: (items.flatMap Item.arguments ++ rest)) environment with
  | error stop => exact .inr ⟨stop, rfl⟩
  | ok config =>
      obtain ⟨progress, found⟩ := readArguments_of_readConfig read
      obtain ⟨final, settles, _⟩ :=
        (readArguments_items_iff (clean_ok progress) rfl items rest).mp found
      exact .inl ((settles_iff rfl _ _).mp settles).1

/-- Arguments are accepted exactly if they are a line of items for different settings, each with a
sound value, and the variables of the settings it leaves open are sound. All others are refused;
after items that repeat a setting nothing is accepted. -/
theorem accepts_iff_line (program : Bytes) (arguments : List Bytes) (environment : Environment) :
    ((∃ config, readConfig (program :: arguments) environment = .ok config) ↔
      ∃ line : Line, line.arguments = arguments ∧ line.IsSound environment) ∧
    ((∃ stop, readConfig (program :: arguments) environment = .error stop) ↔
      ¬∃ line : Line, line.arguments = arguments ∧ line.IsSound environment) ∧
    ∀ (items : List Item) (rest : List Bytes), (items.map Item.setting).Nodup ∨
      ∃ stop, readConfig (program :: (items.flatMap Item.arguments ++ rest)) environment =
        .error stop := by
  have accepted := readConfig_ok_iff_line program arguments environment
  refine ⟨accepted, ?_, repeated_refused program environment⟩
  rw [← accepted]
  cases readConfig (program :: arguments) environment <;> simp

end UptimeGreeter.CommandLine
