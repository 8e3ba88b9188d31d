import UptimeGreeter.Proofs.Server.Consultation
import UptimeGreeter.Proofs.Text.Replacement

/-!
A profile that is set is shown whatever its bytes are. Only what is ill-formed in it is replaced.
-/

namespace UptimeGreeter

theorem Environment.profile_eq_none_iff (environment : Environment) :
    environment.profile = none ↔ environment .buildProfile = none := by
  rw [profile, Option.map_eq_none_iff]

theorem History.greeting_of_environment {environment : Environment} {history : History}
    {service : Standing} {bytes : Bytes} (asks : service.object.source = .environment)
    (set : history.profileValue (environment .buildProfile) = some bytes) :
    History.greeting environment history service =
      fun now => ⟨now.since service.started, Utf8.decodeLossy bytes⟩ := by
  funext now
  rw [greeting, shownProfile, asks, set]
  rfl

/-- The bytes of the variable make one text: characters are kept, ill-formed parts are replaced, and
nothing is added. A greeting of a service that asks the environment shows that text, whatever its
own text for an absent profile is. Only an unset variable gives no profile. -/
theorem profile_echoed (bytes : Bytes) :
    (∀ environment : Environment,
      environment.profile = none ↔ environment .buildProfile = none) ∧
    ∃ text : String,
      (∀ environment : Environment, environment .buildProfile = some bytes →
        environment.profile = some text) ∧
      (∀ chars, Utf8.Echoes bytes chars ↔ text.toList = chars) ∧
      (Utf8.encode text = bytes ↔ ∃ written, Utf8.encode written = bytes) ∧
      (∀ (front : String) (environment : Environment),
        environment .buildProfile = some (Utf8.encode front ++ bytes) →
          environment.profile = some (front ++ text)) ∧
      (text = "" ↔ bytes = []) ∧
      ∀ (environment : Environment) (past : List (ClockReading × Operation))
        (clock : ClockReading) (operation : Operation) (service : Standing),
        (History.ofRun past).greeter operation = some service →
        service.object.source = .environment →
        (History.ofRun past).profileValue (environment .buildProfile) = some bytes →
        Shows clock (fun now => ⟨now.since service.started, text⟩) operation
          (((World.start environment).run past).2.perform clock operation).1 := by
  refine ⟨Environment.profile_eq_none_iff, Utf8.decodeLossy bytes, ?_, Utf8.echoes_iff bytes, ?_, ?_,
    Utf8.decodeLossy_eq_empty_iff bytes, ?_⟩
  · intro environment set
    rw [Environment.profile, set, Option.map_some]
  · constructor
    · intro same
      exact ⟨_, same⟩
    · rintro ⟨written, rfl⟩
      rw [Utf8.decodeLossy_encode]
  · intro front environment set
    rw [Environment.profile, set, Option.map_some, Utf8.decodeLossy_encode_append]
  · intro environment past clock operation service greets asks set
    rw [History.run_start, ← History.greeting_of_environment asks set]
    exact History.perform_shows environment (.ofRun past) clock greets

theorem profile_echoed_broken :
    let clock : ClockReading := ⟨⟨65000000000⟩, .epoch, ⟨0⟩⟩
    let bytes : Bytes := [0x68, 0xE2, 0x82, 0x28, 0xED, 0xA0, 0xF0, 0x9F]
    let past : List (ClockReading × Operation) :=
      [(clock, .create ⟨⟨0⟩, .epoch, "absent", .environment⟩), (clock, .setProfile none),
        (clock, .clone 0), (clock, .setProfile (some bytes))]
    (Environment.empty.set .buildProfile (some bytes)).profile =
        some "h\uFFFD(\uFFFD\uFFFD\uFFFD" ∧
      Shows clock (fun now => ⟨now.since ⟨0⟩, "h\uFFFD(\uFFFD\uFFFD\uFFFD"⟩) (.sayHello 1)
        (((World.start .empty).run past).2.perform clock (.sayHello 1)).1 := by
  intro clock bytes past
  obtain ⟨_, text, profile, _, _, _, _, shown⟩ := profile_echoed bytes
  have read := profile (Environment.empty.set .buildProfile (some bytes)) rfl
  have same : (Environment.empty.set .buildProfile (some bytes)).profile =
      some "h\uFFFD(\uFFFD\uFFFD\uFFFD" := by
    decide
  obtain rfl := Option.some.inj (read.symm.trans same)
  exact ⟨same, shown .empty past clock (.sayHello 1) ⟨⟨0⟩, .epoch, "absent", ⟨0, .environment⟩⟩
    rfl rfl rfl⟩

end UptimeGreeter
