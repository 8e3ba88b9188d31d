import UptimeGreeter.Proofs.CommandLine.Precedence
import UptimeGreeter.Proofs.Server.Consultation
import UptimeGreeter.Server.Lifecycle

/-!
From the command line to what a client reads: of all that a program is launched with, its greeting
shows the uptime, the profile, and the text that stands for an absent one.
-/

namespace UptimeGreeter

open CommandLine

namespace Launch

def AsksAbsent (launch : Launch) (text : String) : Prop :=
  ∃ line : Line, line.arguments = launch.arguments.tail ∧
    Utf8.encode text =
      (line.source launch.environment .absentProfile).getD (Utf8.encode "null")

theorem asksAbsent_iff {launch : Launch} {config : Config}
    (accepted : readConfig launch.arguments launch.environment = .ok config) (text : String) :
    launch.AsksAbsent text ↔ text = config.absentProfile := by
  have accepted : readConfig ([] :: launch.arguments.tail) launch.environment = .ok config := accepted
  have yields (line : Line) (written : line.arguments = launch.arguments.tail) :
      Utf8.encode config.absentProfile =
        (line.source launch.environment .absentProfile).getD (Utf8.encode "null") := by
    rw [← written] at accepted
    exact (configures_of_readConfig accepted).yields.absentProfile
  constructor
  · rintro ⟨line, written, asked⟩
    exact Utf8.encode_injective (asked.trans (yields line written).symm)
  · rintro rfl
    obtain ⟨line, written⟩ := exists_line_of_readConfig accepted
    exact ⟨line, written, yields line written⟩

end Launch

structure Visit where
  started : Instant
  startedAt : Calendar.Timestamp
  past : List (ClockReading × Operation)
  /-- The program's service keeps asking the environment. -/
  kept : ∀ entry ∈ past, ∀ source, entry.2 ≠ .attach 0 source
  clock : ClockReading
  request : Http.Request
  method : request.method = "GET"
  path : request.uri.path = "/"

namespace Visit

def uptime (visit : Visit) : Duration :=
  visit.clock.now.since visit.started

def profileValue (visit : Visit) (environment : Environment) : Option Bytes :=
  History.profileValue (environment .buildProfile) (.ofRun visit.past)

def answer (visit : Visit) (config : Config) (environment : Environment) : Answer :=
  (((config.world environment visit.started visit.startedAt).run visit.past).2.perform visit.clock
    (.request 0 visit.request)).1

end Visit

def Launch.Reads (launch : Launch) (visit : Visit) (body : String) : Prop :=
  ∃ config response records,
    readConfig launch.arguments launch.environment = .ok config ∧
    visit.answer config launch.environment = .response response records ∧
    response.status.code = 200 ∧ response.body = body

theorem Config.world_eq (config : Config) (environment : Environment) (started : Instant)
    (startedAt : Calendar.Timestamp) :
    config.world environment started startedAt =
      History.world environment [.create (config.birth started startedAt)] := by
  rw [Config.world, ← History.world_nil, History.perform_world]

def Visit.profile (visit : Visit) (environment : Environment) (absent : String) : String :=
  ((visit.profileValue environment).map Utf8.decodeLossy).getD absent

def Visit.body (visit : Visit) (environment : Environment) (absent : String) : String :=
  s!"Hello, Spring! (up {visit.uptime.clockText}, {visit.profile environment absent})"

theorem Visit.body_eq (visit : Visit) (environment : Environment) (absent : String) :
    (⟨visit.uptime, visit.profile environment absent⟩ : Greeting).text =
      visit.body environment absent :=
  rfl

theorem Visit.answer_eq (visit : Visit) (config : Config) (environment : Environment) :
    ∃ response records, visit.answer config environment = .response response records ∧
      response.status = .ok ∧ response.body = visit.body environment config.absentProfile := by
  let birth := config.birth visit.started visit.startedAt
  let service : Standing := ⟨birth.started, birth.startedAt, birth.absentProfile, ⟨0, .environment⟩⟩
  let history : History := History.ofRun visit.past ++ [.create birth]
  have stands : (History.services history)[0]? = some service := by
    apply History.services_getElem?_append rfl
    intro operation member source
    rw [History.ofRun, List.mem_reverse, List.mem_map] at member
    obtain ⟨entry, present, rfl⟩ := member
    exact visit.kept entry present source
  have greets : History.greeter history (.request 0 visit.request) = some service := by
    rw [History.greeter, Operation.greetingSlot, if_pos ⟨.inl visit.method, visit.path⟩]
    exact stands
  have value : History.profileValue (environment .buildProfile) history =
      visit.profileValue environment :=
    History.profileValue_append _ _ _
  have same : History.greeting environment history service visit.clock.now =
      ⟨visit.uptime, visit.profile environment config.absentProfile⟩ := by
    rw [History.greeting, History.shownProfile, value]
    rfl
  have shown := History.perform_shows environment history visit.clock greets
  rw [answer, Config.world_eq, History.run_world]
  obtain ⟨response, records, found, status, body⟩ := shown.exists_response visit.method
  refine ⟨response, records, found, status, ?_⟩
  rw [body, same, body_eq]

theorem Launch.reads_iff {launch : Launch} {config : Config}
    (accepted : readConfig launch.arguments launch.environment = .ok config) (visit : Visit)
    (body : String) :
    launch.Reads visit body ↔ body = visit.body launch.environment config.absentProfile := by
  obtain ⟨response, records, answered, status, shown⟩ := visit.answer_eq config launch.environment
  constructor
  · rintro ⟨other, response', records', sameConfig, sameAnswer, _, rfl⟩
    obtain rfl := Except.ok.inj (accepted.symm.trans sameConfig)
    obtain ⟨rfl, _⟩ := Answer.response.inj (answered.symm.trans sameAnswer)
    exact shown
  · rintro rfl
    exact ⟨config, response, records, accepted, answered, by rw [status]; rfl, shown⟩

theorem Visit.body_congr {visit other : Visit} {environment otherEnvironment : Environment}
    (seconds : visit.uptime.seconds = other.uptime.seconds)
    (value : visit.profileValue environment = other.profileValue otherEnvironment)
    (absent : String) : visit.body environment absent = other.body otherEnvironment absent := by
  have clock : visit.uptime.clockText = other.uptime.clockText := by
    rw [Duration.clockText_eq, seconds, ← Duration.clockText_eq]
  have shown : visit.profile environment absent = other.profile otherEnvironment absent := by
    rw [profile, value, ← profile]
  rw [← body_eq, ← body_eq, Greeting.text, Greeting.text, clock, shown]

/-- An accepted launch asks for one text for an absent profile, and its greeting shows the uptime
and the variable's value at the time, or that text if there is none. Nothing else of the launch
shows. -/
theorem greeting_of_launch (launch : Launch) (config : Config)
    (accepted : readConfig launch.arguments launch.environment = .ok config) :
    ∃ absent, (∀ text, launch.AsksAbsent text ↔ text = absent) ∧
      (∀ (visit : Visit) (body : String), launch.Reads visit body ↔
        let uptime := visit.uptime.clockText
        let profile := visit.profile launch.environment absent
        body = s!"Hello, Spring! (up {uptime}, {profile})") ∧
      ∀ (other : Launch) (otherConfig : Config),
        readConfig other.arguments other.environment = .ok otherConfig →
        other.AsksAbsent absent →
        ∀ visit otherVisit : Visit, visit.uptime.seconds = otherVisit.uptime.seconds →
          visit.profileValue launch.environment = otherVisit.profileValue other.environment →
          ∀ body, launch.Reads visit body ↔ other.Reads otherVisit body := by
  refine ⟨config.absentProfile, Launch.asksAbsent_iff accepted, Launch.reads_iff accepted, ?_⟩
  intro other otherConfig otherAccepted asked visit otherVisit seconds value body
  have sameText := (Launch.asksAbsent_iff otherAccepted _).mp asked
  rw [Launch.reads_iff accepted, Launch.reads_iff otherAccepted, ← sameText,
    Visit.body_congr seconds value]

theorem greeting_of_launch_shadowed :
    let launch : Launch :=
      ⟨[Utf8.encode "greet", Utf8.encode "--absent-profile", Utf8.encode "none"],
        Environment.empty.set .absentProfile (some [0xFF])⟩
    let other : Launch :=
      ⟨[[], Utf8.encode "--port=1"],
        Environment.empty.set .absentProfile (some (Utf8.encode "none"))⟩
    let clock : ClockReading := ⟨⟨65999999999⟩, .epoch, ⟨0⟩⟩
    let request : Http.Request := ⟨"GET", ⟨none, none, "/", some "x=1"⟩, .http11, [], ""⟩
    let visit : Visit :=
      ⟨⟨0⟩, .epoch, [(clock, .setProfile (some [])), (clock, .setProfile none)], by simp, clock,
        request, rfl, rfl⟩
    let otherVisit : Visit := ⟨⟨999999999⟩, .epoch, [], by simp, clock, request, rfl, rfl⟩
    readConfig launch.arguments launch.environment = .ok ⟨"0.0.0.0", 8080, "none", none⟩ ∧
      launch.Reads visit "Hello, Spring! (up 01:05, none)" ∧
      other.Reads otherVisit "Hello, Spring! (up 01:05, none)" := by
  intro launch other clock request visit otherVisit
  have accepted :
      readConfig launch.arguments launch.environment = .ok ⟨"0.0.0.0", 8080, "none", none⟩ := rfl
  obtain ⟨absent, texts, reads, agree⟩ := greeting_of_launch launch _ accepted
  have asked : launch.AsksAbsent "none" :=
    ⟨⟨[⟨.absentProfile, Utf8.encode "none", .apart, fun _ => .inr (by decide)⟩], by decide, false⟩,
      rfl, rfl⟩
  obtain rfl := (texts "none").mp asked
  have otherAsked : other.AsksAbsent "none" :=
    ⟨⟨[⟨.port, Utf8.encode "1", .joined, by simp⟩], by decide, false⟩, rfl, rfl⟩
  have read := (reads visit "Hello, Spring! (up 01:05, none)").mpr (by decide)
  have same := agree other ⟨"0.0.0.0", 1, "none", none⟩ rfl otherAsked visit otherVisit (by decide)
  exact ⟨accepted, read, (same rfl _).mp read⟩

end UptimeGreeter
