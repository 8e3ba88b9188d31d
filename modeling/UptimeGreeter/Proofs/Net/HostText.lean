import UptimeGreeter.Config
import UptimeGreeter.Proofs.Net.AddressText

/-!
A host is read as the address it is a written form of, and back from the text of that address. What
is not a written form is refused as it stands.
-/

namespace UptimeGreeter

theorem Net.Endpoint.text_v6 (address : Net.Ipv6) (port : UInt16) :
    (Net.Endpoint.v6 address 0 port).text = "[" ++ address.text ++ "]:" ++ toString port := by
  have noZone : zoneText 0 = "" := rfl
  rw [text, noZone]
  change "[" ++ address.text ++ "" ++ "]:" ++ toString port = _
  rw [String.append_empty]

namespace Config

theorem endpoint_eq_ok_iff (config : Config) (endpoint : Net.Endpoint) :
    config.endpoint = .ok endpoint ↔ ∃ address,
      Net.WritesAddress config.host.toList address ∧
        endpoint = .ofAddress config.port address := by
  simp only [← Net.Address.ofText?_eq_some_iff, Config.endpoint]
  cases Net.Address.ofText? config.host with
  | none => simp
  | some address => simp [eq_comm]

theorem endpoint_eq_error_iff (config : Config) :
    config.endpoint = .error ⟨config.host⟩ ↔
      ¬∃ address, Net.WritesAddress config.host.toList address := by
  simp only [← Net.Address.ofText?_eq_some_iff, Config.endpoint]
  cases Net.Address.ofText? config.host with
  | none => simp
  | some address => simp

theorem endpoint_of_text (config : Config) (address : Net.Address)
    (same : config.host = address.text) :
    config.endpoint = .ok (.ofAddress config.port address) := by
  rw [Config.endpoint, same, Net.Address.ofText?_text]

theorem isOk_endpoint_iff (config : Config) :
    config.endpoint.isOk ↔ ∃ address, Net.WritesAddress config.host.toList address := by
  cases outcome : config.endpoint with
  | ok endpoint =>
      obtain ⟨address, writes, _⟩ := (config.endpoint_eq_ok_iff endpoint).mp outcome
      exact ⟨fun _ => ⟨address, writes⟩, fun _ => rfl⟩
  | error fault =>
      constructor
      · intro accepted
        cases accepted
      · rintro ⟨address, writes⟩
        have accepted := (config.endpoint_eq_ok_iff _).mpr ⟨address, writes, rfl⟩
        rw [outcome] at accepted
        cases accepted

end Config

/-- The text of an address gives the address back, with the port behind it. A host that is accepted
may be replaced by the text of its address, and is that text already if it has no colon. A host is
refused, and carried unchanged, exactly if it is no written form of an address. The port has no part
in it. -/
theorem endpoint_denotes_host (config : Config) :
    (∀ address : Net.Ipv4, config.host = address.text →
      config.endpoint = .ok (.v4 address config.port) ∧
        (Net.Endpoint.v4 address config.port).text =
          address.text ++ ":" ++ toString config.port) ∧
    (∀ address : Net.Ipv6, config.host = address.text →
      config.endpoint = .ok (.v6 address 0 config.port) ∧
        (Net.Endpoint.v6 address 0 config.port).text =
          "[" ++ address.text ++ "]:" ++ toString config.port) ∧
    (∀ endpoint, config.endpoint = .ok endpoint → ∃ address : Net.Address,
      Net.WritesAddress config.host.toList address ∧
      endpoint = .ofAddress config.port address ∧
      { config with host := address.text }.endpoint = .ok endpoint ∧
      (':' ∉ config.host.toList → config.host = address.text ∧
        ∃ dotted, address = .v4 dotted ∧ Net.WritesDotted config.host.toList dotted)) ∧
    (config.endpoint = .error ⟨config.host⟩ ↔
      ¬∃ address, Net.WritesAddress config.host.toList address) ∧
    (Net.NoAddress config.host.toList → config.endpoint = .error ⟨config.host⟩) ∧
    ∀ port, { config with port := port }.endpoint.isOk = config.endpoint.isOk := by
  refine ⟨?_, ?_, ?_, config.endpoint_eq_error_iff, ?_, ?_⟩
  · intro address same
    exact ⟨config.endpoint_of_text (.v4 address) same, rfl⟩
  · intro address same
    exact ⟨config.endpoint_of_text (.v6 address) same, Net.Endpoint.text_v6 address config.port⟩
  · intro endpoint accepted
    obtain ⟨address, writes, rfl⟩ := (config.endpoint_eq_ok_iff endpoint).mp accepted
    refine ⟨address, writes, rfl, Config.endpoint_of_text _ address rfl, ?_⟩
    intro noColon
    have few : config.host.toList.count ':' ≤ 1 := by
      rw [List.count_eq_zero_of_not_mem noColon]
      exact Nat.zero_le _
    obtain ⟨dotted, rfl, written⟩ := writes.eq_of_count_le few
    exact ⟨String.toList_injective ((Net.Ipv4.writesDotted_iff _ _).mp written), dotted, rfl, written⟩
  · rw [config.endpoint_eq_error_iff]
    rintro none ⟨address, writes⟩
    exact none.not_writes address writes
  · intro port
    rw [Bool.eq_iff_iff, Config.isOk_endpoint_iff, Config.isOk_endpoint_iff]

theorem endpoint_denotes_host_mapped :
    let address : Net.Ipv6 := ⟨[0, 0, 0, 0, 0, 0xFFFF, 0x0102, 0x0304], rfl⟩
    let plain : Config := ⟨"::ffff:1.2.3.4", 65535, "", none⟩
    let padded : Config := { plain with host := "0:0000::FfFf:0102:304" }
    let zoned : Config := { plain with host := "fe80::1%1" }
    plain.endpoint = .ok (.v6 address 0 65535) ∧
      (Net.Endpoint.v6 address 0 65535).text = "[::ffff:1.2.3.4]:65535" ∧
      padded.endpoint = .ok (.v6 address 0 65535) ∧
      (∃ same : Net.Address, .ofAddress 65535 same = Net.Endpoint.v6 address 0 65535 ∧
        Net.WritesAddress padded.host.toList same ∧
        { padded with host := same.text }.endpoint = padded.endpoint) ∧
      zoned.endpoint = .error ⟨"fe80::1%1"⟩ := by
  intro address plain padded zoned
  have written : address.text = "::ffff:1.2.3.4" := by decide
  have read : padded.endpoint = .ok (.v6 address 0 65535) := by decide
  obtain ⟨found, shown⟩ := (endpoint_denotes_host plain).2.1 address written.symm
  obtain ⟨same, writes, denotes, again, _⟩ := (endpoint_denotes_host padded).2.2.1 _ read
  have inside : '%' ∈ zoned.host.toList := by decide
  have foreign : ¬Net.Plain '%' := by simp [Net.Plain, Hexadecimal.isDigit]
  have refused := (endpoint_denotes_host zoned).2.2.2.2.1 (.foreign inside foreign)
  have joined : "[" ++ address.text ++ "]:" ++ toString plain.port = "[::ffff:1.2.3.4]:65535" := by
    decide
  exact ⟨found, shown.trans joined, read, ⟨same, denotes.symm, writes, again.trans read.symm⟩,
    refused⟩

end UptimeGreeter
