import UptimeGreeter.Proofs.CommandLine.Acceptance

/-!
The command line comes before the environment, and the environment before the defaults. A variable
matters only for a setting that the line leaves open.
-/

namespace UptimeGreeter.CommandLine

structure Line.Yields (line : Line) (environment : Environment) (config : Config) : Prop where
  host : Utf8.encode config.host =
    (line.source environment .host).getD (Utf8.encode "0.0.0.0")
  port : ∃ text, Utf8.encode text = (line.source environment .port).getD (Utf8.encode "8080") ∧
    Decimal.Writes text.toList config.port.toNat
  absentProfile : Utf8.encode config.absentProfile =
    (line.source environment .absentProfile).getD (Utf8.encode "null")
  logLevel : config.logLevel.map Utf8.encode = line.written .logLevel

theorem Configures.taken_or_kept {line : Line} {environment : Environment} {config : Config}
    (configures : Configures line environment config) (setting : Setting) :
    (∃ value assignment, line.source environment setting = some value ∧
      Assigns setting value assignment ∧ held config setting = some assignment) ∨
    (line.source environment setting = none ∧ held config setting = held .default setting) := by
  cases source : line.source environment setting with
  | none => exact .inr ⟨rfl, (configures setting).2 source⟩
  | some value =>
      obtain ⟨assignment, assigns, given⟩ := (configures setting).1 value source
      exact .inl ⟨value, assignment, rfl, assigns, given⟩

theorem Configures.yields {line : Line} {environment : Environment} {config : Config}
    (configures : Configures line environment config) : line.Yields environment config := by
  constructor
  · rcases configures.taken_or_kept .host with ⟨value, assignment, source, assigns, given⟩ |
      ⟨source, kept⟩
    · cases assigns
      simp only [held, Option.some.injEq, Assignment.host.injEq] at given
      rw [source, given, Option.getD_some]
    · simp only [held, Option.some.injEq, Assignment.host.injEq] at kept
      rw [source, kept, Option.getD_none]
      rfl
  · rcases configures.taken_or_kept .port with ⟨value, assignment, source, assigns, given⟩ |
      ⟨source, kept⟩
    · cases assigns with
      | port text number writes =>
          simp only [held, Option.some.injEq, Assignment.port.injEq] at given
          exact ⟨text, by rw [source, Option.getD_some], by rwa [given]⟩
    · simp only [held, Option.some.injEq, Assignment.port.injEq] at kept
      have digits : Decimal.IsDigits "8080".toList := by simp [Decimal.IsDigits]
      refine ⟨"8080", by rw [source, Option.getD_none], ?_⟩
      rw [kept]
      exact .bare digits
  · rcases configures.taken_or_kept .absentProfile with
      ⟨value, assignment, source, assigns, given⟩ | ⟨source, kept⟩
    · cases assigns
      simp only [held, Option.some.injEq, Assignment.absentProfile.injEq] at given
      rw [source, given, Option.getD_some]
    · simp only [held, Option.some.injEq, Assignment.absentProfile.injEq] at kept
      rw [source, kept, Option.getD_none]
      rfl
  · have onLine : line.source environment .logLevel = line.written .logLevel := by
      simp [Line.source, standIn]
    rcases configures.taken_or_kept .logLevel with ⟨value, assignment, source, assigns, given⟩ |
      ⟨source, kept⟩
    · cases assigns with
      | logLevel text =>
          obtain ⟨level, found, same⟩ := Option.map_eq_some_iff.mp given
          rw [← onLine, source, found, Assignment.logLevel.inj same, Option.map_some]
    · rw [← onLine, source, Option.map_eq_none_iff]
      exact Option.map_eq_none_iff.mp kept

theorem openEntries_eq_nil {environment : Environment} (used settings : List Setting)
    (unset : ∀ setting, standIn environment setting = none) :
    openEntries environment used settings = [] := by
  simp [openEntries, unset]

theorem readVariables_congr {left right : Environment} {used : List Setting}
    (agree : ∀ setting, setting ∉ used → standIn left setting = standIn right setting)
    (settings : List Setting) :
    readVariables left used settings = readVariables right used settings := by
  induction settings with
  | nil => rfl
  | cons setting rest ih =>
      by_cases known : setting ∈ used
      · simp only [readVariables, known, if_true, ih]
      · simp only [readVariables, known, if_false, bind_standIn?, agree setting known, ih]

theorem readArguments_of_bare_error {program : Bytes} {arguments : List Bytes} {bare : Environment}
    {stop : Stop} (unset : ∀ setting, standIn bare setting = none)
    (failed : readConfig (program :: arguments) bare = .error stop) :
    readArguments .start arguments = .error stop := by
  rw [readConfig_cons] at failed
  cases read : readArguments .start arguments with
  | error other =>
      rw [read] at failed
      rw [Except.error.inj failed]
  | ok progress =>
      have variablesRead : readVariables bare progress.used Setting.all = .ok [] := by
        rw [readVariables_eq_ok_iff, openEntries_eq_nil _ _ unset]
        exact .nil
      rw [read, Except.bind, variablesRead] at failed
      cases failed

theorem Stop.message_congr (program : String) (left right : Environment) {stop : Stop}
    (noHelp : stop ≠ .help) : stop.message program left = stop.message program right := by
  cases stop with
  | help => exact absurd rfl noHelp
  | _ => rfl

theorem readConfig_of_readArguments_error {arguments : List Bytes} {stop : Stop}
    (failed : readArguments .start arguments = .error stop) (program : Bytes)
    (environment : Environment) : readConfig (program :: arguments) environment = .error stop := by
  rw [readConfig_cons, failed]
  rfl

theorem Line.unsound_of_readConfig_error {program : Bytes} {line : Line} {environment : Environment}
    {bareConfig : Config} {bare : Environment} {stop : Stop}
    (accepted : readConfig (program :: line.arguments) bare = .ok bareConfig)
    (failed : readConfig (program :: line.arguments) environment = .error stop) :
    ∃ setting value fault, setting ∉ line.settings ∧
      standIn environment setting = some value ∧ ¬Sound setting value ∧
      stop = .badValue setting fault := by
  obtain ⟨progress, found⟩ := readArguments_of_readConfig accepted
  obtain ⟨given, _, rfl⟩ := (readArguments_line_iff line progress).mp found
  rw [readConfig_cons, found, Except.bind] at failed
  cases opened : readVariables environment line.settings Setting.all with
  | ok others =>
      rw [opened] at failed
      cases failed
  | error other =>
      rw [opened] at failed
      obtain rfl := Except.error.inj failed
      obtain ⟨setting, value, fault, member, bad, rfl⟩ := readVariables_eq_error opened
      obtain ⟨unused, variableValue⟩ := (mem_openEntries_iff _ _ _ _).mp member
      exact ⟨setting, value, fault, unused, variableValue, not_sound_of_error bad, rfl⟩

theorem Line.readConfig_congr (program : Bytes) (line : Line) {left right : Environment}
    (agree : ∀ setting, setting ∉ line.settings → standIn left setting = standIn right setting) :
    readConfig (program :: line.arguments) left = readConfig (program :: line.arguments) right := by
  rw [readConfig_cons, readConfig_cons]
  cases found : readArguments .start line.arguments with
  | error stop => rfl
  | ok progress =>
      obtain ⟨given, _, rfl⟩ := (readArguments_line_iff line progress).mp found
      simp only [Except.bind, readVariables_congr agree]

/-- What fails without variables fails with any, in the same way. What succeeds without them takes
each setting from the line, else from its variable, else from the defaults; it can fail only for an
unsound variable of a setting that the line leaves open, and depends on no other variable. -/
theorem line_before_environment (program : Bytes) (arguments : List Bytes) (bare : Environment)
    (unset : bare .bindHost = none ∧ bare .port = none ∧ bare .absentProfile = none) :
    (∀ stop, readConfig (program :: arguments) bare = .error stop → ∀ environment,
      readConfig (program :: arguments) environment = .error stop ∧
      (stop ≠ .help → ∀ name, stop.message name environment = stop.message name bare)) ∧
    (∀ config, readConfig (program :: arguments) bare = .ok config →
      (∃ line : Line, line.arguments = arguments) ∧
      ∀ line : Line, line.arguments = arguments → ∀ environment,
        (∀ stop, readConfig (program :: arguments) environment = .error stop →
          ∃ setting value fault, setting ∉ line.settings ∧
            standIn environment setting = some value ∧ ¬Sound setting value ∧
            stop = .badValue setting fault) ∧
        (∀ configured, readConfig (program :: arguments) environment = .ok configured →
          line.Yields environment configured) ∧
        (∀ other : Environment, (∀ setting, setting ∉ line.settings →
            standIn other setting = standIn environment setting) →
          readConfig (program :: arguments) other =
            readConfig (program :: arguments) environment)) := by
  have noVariables : ∀ setting, standIn bare setting = none := by
    intro setting
    cases setting with
    | host => exact unset.1
    | port => exact unset.2.1
    | absentProfile => exact unset.2.2
    | logLevel => rfl
  constructor
  · intro stop failed environment
    have stopped := readArguments_of_bare_error noVariables failed
    exact ⟨readConfig_of_readArguments_error stopped program environment,
      fun noHelp name => Stop.message_congr name environment bare noHelp⟩
  · intro config accepted
    refine ⟨exists_line_of_readConfig accepted, ?_⟩
    rintro line rfl environment
    refine ⟨?_, ?_, ?_⟩
    · intro stop failed
      exact Line.unsound_of_readConfig_error accepted failed
    · intro configured read
      exact (configures_of_readConfig read).yields
    · intro other agree
      exact line.readConfig_congr program agree

theorem line_before_environment_mixed :
    let crowded := (Environment.empty.set .port (some (Utf8.encode "+09000"))).set .bindHost
      (some [0xFF])
    let line : Line :=
      ⟨[⟨.host, Utf8.encode "::1", .apart, fun _ => .inr (by decide)⟩,
        ⟨.absentProfile, [], .joined, by simp⟩], by decide, false⟩
    readConfig (Utf8.encode "greet" :: [Utf8.encode "--port=1", Utf8.encode "--port=2"]) crowded =
        .error (.repeated .port) ∧
      line.arguments =
        [Utf8.encode "--host", Utf8.encode "::1", Utf8.encode "--absent-profile="] ∧
      line.Yields crowded ⟨"::1", 9000, "", none⟩ := by
  intro crowded line
  have unset : Environment.empty .bindHost = none ∧ Environment.empty .port = none ∧
      Environment.empty .absentProfile = none := ⟨rfl, rfl, rfl⟩
  have refused := (line_before_environment (Utf8.encode "greet")
    [Utf8.encode "--port=1", Utf8.encode "--port=2"] .empty unset).1 (.repeated .port) rfl crowded
  have accepted := (line_before_environment (Utf8.encode "greet") line.arguments .empty unset).2
    ⟨"::1", 8080, "", none⟩ rfl
  exact ⟨refused.1, rfl, (accepted.2 line rfl crowded).2.1 _ rfl⟩

end UptimeGreeter.CommandLine
