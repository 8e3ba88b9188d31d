import UptimeGreeter.Proofs.CommandLine.Blame
import UptimeGreeter.Proofs.CommandLine.Precedence
import UptimeGreeter.Proofs.Decimal.Numeral

/-!
Port numbers are read as the integers that they write. A text that writes none, or one that is no
port number, is refused, however many digits it has.
-/

namespace UptimeGreeter

def Net.Endpoint.port : Net.Endpoint → UInt16
  | .v4 _ port => port
  | .v6 _ _ port => port

theorem Config.port_of_endpoint {config : Config} {endpoint : Net.Endpoint}
    (found : config.endpoint = .ok endpoint) : endpoint.port = config.port := by
  rw [Config.endpoint] at found
  split at found
  · rename_i address _
    obtain rfl := Except.ok.inj found
    cases address <;> rfl
  · cases found

theorem Decimal.writes_toString (number : UInt16) :
    Decimal.Writes (toString number).toList number.toNat := by
  have digits : (toString number).toList = Nat.toDigits 10 number.toNat :=
    toList_toString number.toNat
  rw [digits]
  nth_rewrite 2 [← (numeral_toDigits number.toNat).value]
  exact .bare (isDigits_toDigits number.toNat)

namespace CommandLine

def WritesPort (text : String) (number : Int) : Prop :=
  Decimal.Writes text.toList number ∧ 0 ≤ number ∧ number ≤ 65535

theorem writesPort_iff (text : String) (number : Int) :
    WritesPort text number ↔
      ∃ port : UInt16, Decimal.Writes text.toList port.toNat ∧ (port.toNat : Int) = number := by
  constructor
  · rintro ⟨writes, lower, upper⟩
    have same : ((UInt16.ofNat number.toNat).toNat : Int) = number := by
      rw [UInt16.toNat_ofNat']
      omega
    exact ⟨UInt16.ofNat number.toNat, by rwa [same], same⟩
  · rintro ⟨port, writes, rfl⟩
    have bound : port.toNat < 65536 := port.toNat_lt
    exact ⟨writes, by omega, by omega⟩

theorem exists_badPort_of_error {text : String} {fault : ValueFault}
    (bad : Assignment.ofBytes .port (Utf8.encode text) = .error fault) :
    ∃ cause, readPort text = .error cause ∧ fault = .badPort text cause := by
  simp only [Assignment.ofBytes, Utf8.decode?_encode, Assignment.ofText] at bad
  cases read : readPort text with
  | ok number =>
      rw [read] at bad
      cases bad
  | error cause =>
      rw [read] at bad
      exact ⟨cause, rfl, (Except.error.inj bad).symm⟩

/-- A line whose port is to be read from a text, and whose other settings have sound values. -/
structure Line.AsksPort (line : Line) (environment : Environment) (text : String) : Prop where
  port : line.source environment .port = some (Utf8.encode text)
  others : ∀ setting value, setting ≠ .port →
    line.source environment setting = some value → Sound setting value

namespace Line.AsksPort

variable {line : Line} {environment : Environment} {text : String} {program : Bytes}

theorem badPort (asks : line.AsksPort environment text) {stop : Stop}
    (stopped : readConfig (program :: line.arguments) environment = .error stop) :
    ∃ cause, readPort text = .error cause ∧ stop = .badValue .port (.badPort text cause) := by
  obtain ⟨setting, value, fault, source, bad, rfl⟩ := Line.blamed_of_readConfig_error stopped
  by_cases isPort : setting = .port
  · subst isPort
    obtain rfl := Option.some.inj (asks.port.symm.trans source)
    obtain ⟨cause, read, rfl⟩ := exists_badPort_of_error bad
    exact ⟨cause, read, rfl⟩
  · exact absurd (asks.others setting value isPort source) (not_sound_of_error bad)

theorem writes (asks : line.AsksPort environment text) {config : Config}
    (read : readConfig (program :: line.arguments) environment = .ok config) :
    Decimal.Writes text.toList config.port.toNat := by
  obtain ⟨written, same, writes⟩ := (configures_of_readConfig read).yields.port
  rw [asks.port, Option.getD_some] at same
  rwa [← Utf8.encode_injective same]

theorem accepted_iff (asks : line.AsksPort environment text) (port : UInt16) :
    (∃ config, readConfig (program :: line.arguments) environment = .ok config ∧
      config.port = port) ↔ Decimal.Writes text.toList port.toNat := by
  constructor
  · rintro ⟨config, read, rfl⟩
    exact asks.writes read
  · intro writes
    have found := (readPort_eq_ok_iff text port).mpr writes
    cases read : readConfig (program :: line.arguments) environment with
    | error stop =>
        obtain ⟨cause, bad, _⟩ := asks.badPort read
        rw [found] at bad
        cases bad
    | ok config =>
        have same := (readPort_eq_ok_iff text config.port).mpr (asks.writes read)
        rw [found] at same
        exact ⟨config, rfl, (Except.ok.inj same).symm⟩

end Line.AsksPort

/-- A port is accepted exactly if its text writes an integer that is a port number, and then it is
that integer, also in the endpoint. Any other text is refused and named as what is wrong. The plain
decimal text of a port number is accepted. -/
theorem port_is_number_written (program : Bytes) (line : Line) (environment : Environment)
    (text : String) (asks : line.AsksPort environment text) :
    let outcome := readConfig (program :: line.arguments) environment
    (∀ number, (∃ config, outcome = .ok config ∧ (config.port.toNat : Int) = number) ↔
      WritesPort text number) ∧
    (∀ config endpoint, outcome = .ok config → config.endpoint = .ok endpoint →
      endpoint.port = config.port) ∧
    ((¬∃ number, WritesPort text number) →
      ∃ cause, outcome = .error (.badValue .port (.badPort text cause))) ∧
    ∀ port : UInt16, text = toString port → ∃ config, outcome = .ok config ∧ config.port = port := by
  intro outcome
  have accepted (port : UInt16) : (∃ config, outcome = .ok config ∧ config.port = port) ↔
      Decimal.Writes text.toList port.toNat := asks.accepted_iff port
  refine ⟨?_, ?_, ?_, ?_⟩
  · intro number
    rw [writesPort_iff]
    constructor
    · rintro ⟨config, read, rfl⟩
      exact ⟨config.port, (accepted config.port).mp ⟨config, read, rfl⟩, rfl⟩
    · rintro ⟨port, writes, rfl⟩
      obtain ⟨config, read, rfl⟩ := (accepted port).mpr writes
      exact ⟨config, read, rfl⟩
  · intro config endpoint _ found
    exact Config.port_of_endpoint found
  · intro none
    cases read : outcome with
    | error stop =>
        obtain ⟨cause, _, rfl⟩ := asks.badPort read
        exact ⟨cause, rfl⟩
    | ok config => exact absurd ⟨_, (writesPort_iff _ _).mpr ⟨_, asks.writes read, rfl⟩⟩ none
  · rintro port rfl
    exact (accepted port).mpr (Decimal.writes_toString port)

theorem port_is_number_written_wide :
    let crowded := Environment.empty.set .port (some (Utf8.encode "-00"))
    let wide : Line := ⟨[⟨.port, Utf8.encode "18446744073709551696", .joined, by simp⟩],
      by decide, false⟩
    let bare : Line := ⟨[⟨.host, Utf8.encode "::1", .apart, fun _ => .inr (by decide)⟩],
      by decide, true⟩
    wide.arguments = [Utf8.encode "--port=18446744073709551696"] ∧
      wide.AsksPort crowded "18446744073709551696" ∧ bare.AsksPort crowded "-00" ∧
      (∃ cause, readConfig ([] :: wide.arguments) crowded =
        .error (.badValue .port (.badPort "18446744073709551696" cause))) ∧
      ∃ config, readConfig ([] :: bare.arguments) crowded = .ok config ∧
        (config.port.toNat : Int) = 0 := by
  intro crowded wide bare
  have wideAsks : wide.AsksPort crowded "18446744073709551696" := by
    refine ⟨rfl, ?_⟩
    intro setting value other source
    cases setting with
    | port => exact absurd rfl other
    | _ => cases source
  have bareAsks : bare.AsksPort crowded "-00" := by
    refine ⟨rfl, ?_⟩
    intro setting value other source
    cases setting with
    | host => exact ⟨"::1", (Option.some.inj source).symm, by simp⟩
    | port => exact absurd rfl other
    | _ => cases source
  have tooWide : ¬∃ number, WritesPort "18446744073709551696" number := by
    rintro ⟨number, written⟩
    obtain ⟨port, writes, _⟩ := (writesPort_iff _ _).mp written
    have read := (readPort_eq_ok_iff _ _).mpr writes
    have failed : readPort "18446744073709551696" = .error (.notInteger .tooLarge) := rfl
    rw [failed] at read
    cases read
  have zeros : Decimal.IsDigits ['0', '0'] := by simp [Decimal.IsDigits]
  have zero : WritesPort "-00" 0 := ⟨.minus zeros, by decide, by decide⟩
  have refused := (port_is_number_written [] wide crowded _ wideAsks).2.2.1 tooWide
  have accepted := ((port_is_number_written [] bare crowded _ bareAsks).1 0).mpr zero
  exact ⟨rfl, wideAsks, bareAsks, refused, accepted⟩

end CommandLine

end UptimeGreeter
