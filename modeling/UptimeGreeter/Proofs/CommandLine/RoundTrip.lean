import UptimeGreeter.Proofs.CommandLine.PortNumbers
import UptimeGreeter.Proofs.Text.Around
import UptimeGreeter.Proofs.Text.Quoted

/-!
The two texts of a configuration, its options on a command line and its description. Each of them
reads back as the configuration, whatever its own texts hold.
-/

namespace UptimeGreeter

open CommandLine

namespace Config

def readLevel? (text : List Char) : Option (Option String) :=
  match "Some(".toList.isPrefixOf? text with
  | none => if text = "None \x7d".toList then some none else none
  | some rest => do
      let (level, rest) ← Quoted.read? rest
      if rest = ") \x7d".toList then some (some (String.ofList level)) else none

def read? (description : String) : Option Config := do
  let rest ← "Config \x7b host: ".toList.isPrefixOf? description.toList
  let (host, rest) ← Quoted.read? rest
  let rest ← ", port: ".toList.isPrefixOf? rest
  let (digits, rest) ← Split.around? ", absent_profile: ".toList rest
  let port ← Decimal.natural? digits
  let (absent, rest) ← Quoted.read? rest
  let rest ← ", log_level: ".toList.isPrefixOf? rest
  let level ← readLevel? rest
  return ⟨String.ofList host, UInt16.ofNat port, String.ofList absent, level⟩

variable (config : Config)

theorem toList_describe :
    config.describe.toList =
      "Config \x7b host: ".toList ++ (Quoted.encode config.host.toList ++
        (", port: ".toList ++ (Nat.toDigits 10 config.port.toNat ++
          (", absent_profile: ".toList ++ (Quoted.encode config.absentProfile.toList ++
            (", log_level: ".toList ++
              ((optionText config.logLevel).toList ++ " \x7d".toList))))))) := by
  have port : (toString config.port).toList = Nat.toDigits 10 config.port.toNat :=
    Decimal.toList_toString config.port.toNat
  have shape : config.describe = "Config \x7b host: " ++ quote config.host ++
      (", port: " ++ toString config.port) ++ ", absent_profile: " ++ quote config.absentProfile ++
        ", log_level: " ++ optionText config.logLevel ++ " \x7d" := rfl
  rw [shape]
  simp only [String.toList_append, toList_quote, port, List.append_assoc]

theorem readLevel?_optionText (level : Option String) :
    readLevel? ((optionText level).toList ++ " \x7d".toList) = some level := by
  cases level with
  | none => rfl
  | some text =>
      have closing : ") \x7d" = ")" ++ " \x7d" := rfl
      have shape : "Some(".toList ++ (Quoted.encode text.toList ++ ") \x7d".toList) =
          (optionText (some text)).toList ++ " \x7d".toList := by
        simp only [optionText, closing, String.toList_append, toList_quote, List.append_assoc]
      have opened := List.isPrefixOf?_eq_some_iff_append_eq.mpr shape
      have quoted := Quoted.read?_encode text.toList ") \x7d".toList
      simp only [readLevel?, opened, Option.bind_eq_bind, Option.bind_eq_some_iff]
      refine ⟨_, quoted, ?_⟩
      rw [if_pos rfl, String.ofList_toList]

theorem read?_describe : read? config.describe = some config := by
  have numeral := Decimal.numeral_toDigits config.port.toNat
  have clear : Split.Clear ", absent_profile: ".toList (Nat.toDigits 10 config.port.toNat) :=
    Split.clear_of_not_mem (numeral.not_mem rfl)
  have opened := List.isPrefixOf?_eq_some_iff_append_eq.mpr config.toList_describe.symm
  simp only [read?, Option.bind_eq_bind, Option.bind_eq_some_iff]
  refine ⟨_, opened, _, Quoted.read?_encode _ _, _,
    List.isPrefixOf?_eq_some_iff_append_eq.mpr rfl, _, Split.around?_append clear _, _,
    Decimal.natural?_toDigits _, _, Quoted.read?_encode _ _, _,
    List.isPrefixOf?_eq_some_iff_append_eq.mpr rfl, _, readLevel?_optionText _, ?_⟩
  rw [String.ofList_toList, String.ofList_toList, UInt16.ofNat_toNat]
  rfl

theorem describe_injective : Function.Injective describe := by
  intro left right same
  have read := left.read?_describe
  rw [same, read?_describe] at read
  exact (Option.some.inj read).symm

def entries : List (Setting × String) :=
  [(.host, config.host), (.port, toString config.port), (.absentProfile, config.absentProfile)] ++
    (config.logLevel.map fun level => (Setting.logLevel, level)).toList

theorem nodup_entries : (config.entries.map Prod.fst).Nodup := by
  cases given : config.logLevel with
  | none => simp [entries, given]
  | some level => simp [entries, given]

theorem assigns_of_mem_entries {setting : Setting} {text : String}
    (member : (setting, text) ∈ config.entries) :
    ∃ assignment, Assigns setting (Utf8.encode text) assignment ∧
      held config setting = some assignment := by
  simp only [entries, List.mem_append, List.mem_cons, List.not_mem_nil, or_false,
    Option.mem_toList, Option.map_eq_some_iff, Prod.mk.injEq] at member
  rcases member with (⟨rfl, rfl⟩ | ⟨rfl, rfl⟩ | ⟨rfl, rfl⟩) | ⟨level, given, rfl, rfl⟩
  · exact ⟨_, .host _, rfl⟩
  · exact ⟨_, .port _ config.port (Decimal.writes_toString config.port), rfl⟩
  · exact ⟨_, .absentProfile _, rfl⟩
  · exact ⟨_, .logLevel _, by rw [held, given, Option.map_some]⟩

theorem unset_or_mem_entries (setting : Setting) :
    (setting = .logLevel ∧ config.logLevel = none) ∨ ∃ text, (setting, text) ∈ config.entries := by
  cases setting with
  | host => exact .inr ⟨config.host, by simp [entries]⟩
  | port => exact .inr ⟨toString config.port, by simp [entries]⟩
  | absentProfile => exact .inr ⟨config.absentProfile, by simp [entries]⟩
  | logLevel =>
      cases given : config.logLevel with
      | none => exact .inl ⟨rfl, rfl⟩
      | some level => exact .inr ⟨level, by simp [entries, given]⟩

end Config

namespace CommandLine

def joinedArgument (entry : Setting × String) : Bytes :=
  Utf8.encode (entry.1.option ++ "=" ++ entry.2)

def Item.ofEntry (entry : Setting × String) : Item :=
  ⟨entry.1, Utf8.encode entry.2, .joined, by simp⟩

theorem Item.arguments_ofEntry (entry : Setting × String) :
    (ofEntry entry).arguments = [joinedArgument entry] := by
  have parts : joinedArgument entry =
      Utf8.encode (entry.1.option ++ "=") ++ Utf8.encode entry.2 := by
    simp only [joinedArgument, Utf8.encode, String.toList_append, List.flatMap_append]
  rw [parts]
  rfl

variable {config : Config} {order : List (Setting × String)}

def Line.ofEntries (permuted : order.Perm config.entries) : Line where
  items := order.map Item.ofEntry
  once := by
    have same : (order.map Item.ofEntry).map Item.setting = order.map Prod.fst := by
      rw [List.map_map]
      rfl
    rw [same, (permuted.map Prod.fst).nodup_iff]
    exact config.nodup_entries
  closed := false

theorem Line.arguments_ofEntries (permuted : order.Perm config.entries) :
    (ofEntries permuted).arguments = order.map joinedArgument := by
  have items : (order.map Item.ofEntry).flatMap Item.arguments = order.map joinedArgument := by
    simp only [List.flatMap_map, Item.arguments_ofEntry]
    exact List.map_eq_flatMap.symm
  rw [arguments, ofEntries, items]
  exact List.append_nil _

theorem Line.written_ofEntries_iff (permuted : order.Perm config.entries) (setting : Setting)
    (value : Bytes) :
    (ofEntries permuted).written setting = some value ↔
      ∃ text, (setting, text) ∈ config.entries ∧ Utf8.encode text = value := by
  have once : (((ofEntries permuted).items.map Item.entry).map Prod.fst).Nodup := by
    rw [List.map_map]
    exact (ofEntries permuted).once
  rw [written, lookup_eq_some_iff_mem once]
  simp only [ofEntries, List.map_map, List.mem_map, permuted.mem_iff]
  constructor
  · rintro ⟨⟨name, text⟩, member, same⟩
    cases same
    exact ⟨text, member, rfl⟩
  · rintro ⟨text, member, rfl⟩
    exact ⟨(setting, text), member, rfl⟩

theorem Line.source_ofEntries (permuted : order.Perm config.entries) (environment : Environment)
    {setting : Setting} {text : String} (member : (setting, text) ∈ config.entries) :
    (ofEntries permuted).source environment setting = some (Utf8.encode text) := by
  rw [source, (written_ofEntries_iff permuted setting _).mpr ⟨text, member, rfl⟩, Option.some_or]

theorem Line.source_ofEntries_of_unset (permuted : order.Perm config.entries)
    (environment : Environment) (unset : config.logLevel = none) :
    (ofEntries permuted).source environment .logLevel = none := by
  have unwritten : (ofEntries permuted).written .logLevel = none := by
    rw [Option.eq_none_iff_forall_ne_some]
    intro value found
    obtain ⟨text, member, _⟩ := (written_ofEntries_iff permuted _ value).mp found
    obtain ⟨assignment, _, given⟩ := config.assigns_of_mem_entries member
    rw [held, unset] at given
    cases given
  rw [source, unwritten, Option.none_or, standIn]

theorem configures_ofEntries (permuted : order.Perm config.entries) (environment : Environment) :
    Configures (Line.ofEntries permuted) environment config := by
  intro setting
  rcases config.unset_or_mem_entries setting with ⟨rfl, unset⟩ | ⟨text, member⟩
  · rw [Line.source_ofEntries_of_unset permuted environment unset]
    constructor
    · intro value given
      cases given
    · intro _
      rw [held, unset]
      rfl
  · rw [Line.source_ofEntries permuted environment member]
    constructor
    · intro value given
      obtain rfl := Option.some.inj given
      exact config.assigns_of_mem_entries member
    · intro absent
      cases absent

end CommandLine

/-- The settings of a configuration as arguments, in whatever order and environment, are read as the
configuration. Its description reads back as it too, so no other configuration has the same one. -/
theorem config_reads_back (config : Config) (order : List (Setting × String))
    (permuted : order.Perm config.entries) (program : Bytes) (environment : Environment) :
    readConfig (program :: order.map joinedArgument) environment = .ok config ∧
    Config.read? config.describe = some config ∧
    ∀ other : Config, other.describe = config.describe ↔ other = config := by
  refine ⟨?_, config.read?_describe, fun other => Config.describe_injective.eq_iff⟩
  rw [← Line.arguments_ofEntries permuted, readConfig_line_iff]
  exact configures_ofEntries permuted environment

theorem config_reads_back_imitated :
    let level : String := "None \x7d\", log_level: Some(\"\n\\u\x7b41\x7d="
    let config : Config := ⟨"--port=1", 65535, "", some level⟩
    let order : List (Setting × String) :=
      [(.logLevel, level), (.absentProfile, ""), (.port, "65535"), (.host, "--port=1")]
    let environment : Environment := fun _ => some [0xFF]
    order.Perm config.entries ∧
      readConfig (Utf8.encode "greet" :: order.map joinedArgument) environment = .ok config ∧
      Config.read? config.describe = some config := by
  intro level config order environment
  have permuted : order.Perm config.entries := by decide
  obtain ⟨read, described, _⟩ :=
    config_reads_back config order permuted (Utf8.encode "greet") environment
  exact ⟨permuted, read, described⟩

end UptimeGreeter
