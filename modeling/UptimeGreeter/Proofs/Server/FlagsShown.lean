import UptimeGreeter.Proofs.CommandLine.Flags
import UptimeGreeter.Proofs.Server.Endings

/-!
Help and the version, as a run of the program shows them.
-/

namespace UptimeGreeter

open CommandLine

theorem Launch.run_of_unread (launch : Launch) {stop : Stop}
    (unread : readConfig launch.arguments launch.environment = .error stop)
    (surroundings : Surroundings) (happenings : List Happening) :
    let text := stop.message (programName launch.arguments) launch.environment
    launch.run surroundings happenings =
      if stop = .help ∨ stop = .version then ⟨[.text text], "", [], some 0⟩
      else ⟨[], text, [], some 2⟩ := by
  intro text
  have joined : String.join [text] = text := by simp [String.join]
  rw [run, events_of_unread unread]
  cases stop with
  | help => rfl
  | version => rfl
  | _ =>
      change Transcript.mk [] (String.join [text]) [] (some 2) = ⟨[], text, [], some 2⟩
      rw [joined]

/-- Reading ends in help, or in the version, exactly for arguments that lead to its flag. What stands
behind a word that asks for a flag makes no difference, and neither does the environment. Of all runs
without a configuration, these two and no others end in success, and they alone print to the standard
output and nothing else. -/
theorem flag_shown_iff_led_to (program : Bytes) (arguments : List Bytes)
    (environment : Environment) :
    (readConfig (program :: arguments) environment = .error .help ↔ LeadTo arguments .help) ∧
    (readConfig (program :: arguments) environment = .error .version ↔
      LeadTo arguments .version) ∧
    (∀ (flag : Flag) (word : Bytes), AsksFor flag word →
      ∀ (front rest other : List Bytes) (otherEnvironment : Environment),
        readConfig (program :: (front ++ word :: rest)) environment =
          readConfig (program :: (front ++ word :: other)) otherEnvironment) ∧
    ∀ stop, readConfig (program :: arguments) environment = .error stop →
      ∀ (surroundings : Surroundings) (happenings : List Happening),
        let text := stop.message (programName (program :: arguments)) environment
        Launch.run ⟨program :: arguments, environment⟩ surroundings happenings =
          if stop = .help ∨ stop = .version then ⟨[.text text], "", [], some 0⟩
          else ⟨[], text, [], some 2⟩ := by
  refine ⟨readConfig_eq_flag_iff program arguments environment .help,
    readConfig_eq_flag_iff program arguments environment .version, ?_, ?_⟩
  · intro flag word asks front rest other otherEnvironment
    exact readConfig_congr_behind asks program front rest other environment otherEnvironment
  · intro stop unread surroundings happenings
    exact Launch.run_of_unread ⟨program :: arguments, environment⟩ unread surroundings happenings

theorem flag_shown_iff_led_to_cluster :
    let hostile := Environment.empty.set .port (some [0xFF])
    let calm : Surroundings :=
      ⟨⟨0⟩, .epoch, fun _ => .ok (), .up, fun pattern text => pattern = text, ""⟩
    let front := [Utf8.encode "--host", Utf8.encode "-", Utf8.encode "--port=+7"]
    let arguments := front ++ [Utf8.encode "-Vh", Utf8.encode "--port=x"]
    AsksFor .version (Utf8.encode "-Vh") ∧
      readConfig (Utf8.encode "greet" :: arguments) hostile = .error .version ∧
      readConfig (Utf8.encode "greet" :: (front ++ [Utf8.encode "-Vh", [0xFF]])) .empty =
        .error .version ∧
      Launch.run ⟨Utf8.encode "greet" :: arguments, hostile⟩ calm [] =
        ⟨[.text Stop.versionText], "", [], some 0⟩ := by
  intro hostile calm front arguments
  have asks : AsksFor .version (Utf8.encode "-Vh") := .versionLetter (Utf8.encode "h")
  have seven : Decimal.IsDigits ['7'] := by simp [Decimal.IsDigits]
  have number : Decimal.Writes "+7".toList (7 : UInt16).toNat := .plus seven
  let host : Item := ⟨.host, Utf8.encode "-", .apart, fun _ => .inl rfl⟩
  let port : Item := ⟨.port, Utf8.encode "+7", .joined, by simp⟩
  have joined : port.arguments = [Utf8.encode "--port=+7"] := by decide
  have items : LeadTo arguments .version := by
    refine ⟨[host, port], Utf8.encode "-Vh", [Utf8.encode "--port=x"], ?_, by decide, ?_, asks⟩
    · rw [List.flatMap_cons, List.flatMap_cons, joined]
      rfl
    · simp only [List.forall_mem_cons, List.not_mem_nil, false_implies, implies_true, and_true]
      exact ⟨⟨"-", rfl, by simp⟩, "+7", rfl, fun _ => ⟨7, number⟩⟩
  obtain ⟨_, version, behind, shown⟩ :=
    flag_shown_iff_led_to (Utf8.encode "greet") arguments hostile
  have read := version.mpr items
  have same := behind .version _ asks front [Utf8.encode "--port=x"] [[0xFF]] .empty
  exact ⟨asks, read, same.symm.trans read, shown .version read calm []⟩

end UptimeGreeter
