import UptimeGreeter.Proofs.Calendar.TimeText
import UptimeGreeter.Proofs.Json.Compact
import UptimeGreeter.Proofs.Server.Classification
import UptimeGreeter.Proofs.Server.GreetingText

/-!
A health report is a JSON object, which reads back as the whole seconds, the start time and the time
that it was made of.
-/

namespace UptimeGreeter

open Calendar

namespace Json

def member? (name : String) : Json → Option Json
  | .object members => members.lookup name
  | _ => none

def natural? : Json → Option Nat
  | .number literal => Decimal.natural? literal
  | _ => none

def time? : Json → Option Timestamp
  | .string text => Timestamp.read? text.toList
  | _ => none

theorem plain_text (timestamp : Timestamp) : Plain timestamp.text := by
  intro char member
  have marks : Plain "-+T:.Z" := by decide
  rcases timestamp.isDigit_or_mark_of_mem_text member with digit | mark
  · have bounds := Char.isDigit_iff_toNat.mp digit
    have zero : '0'.toNat = 48 := rfl
    refine ⟨?_, ?_, ?_⟩
    · omega
    · rintro rfl
      cases digit
    · rintro rfl
      cases digit
  · exact marks char mark

end Json

namespace Health

variable (health : Health)

def members : List (String × Json.Scalar) :=
  [("status", .text "ok"), ("uptime_seconds", .natural health.uptimeSeconds),
    ("started_at", .text health.startedAt.text), ("timestamp", .text health.timestamp.text),
    ("version", .text version)]

def ofJson? (json : Json) : Option Health := do
  let seconds ← (← json.member? "uptime_seconds").natural?
  let start ← (← json.member? "started_at").time?
  let time ← (← json.member? "timestamp").time?
  return ⟨seconds, start, time⟩

theorem ofJson?_members : ofJson? (.ofScalars health.members) = some health := by
  let report := Json.ofScalars health.members
  have seconds : report.member? "uptime_seconds" =
      some (.number (Nat.toDigits 10 health.uptimeSeconds)) := rfl
  have start : report.member? "started_at" = some (.string health.startedAt.text) := rfl
  have time : report.member? "timestamp" = some (.string health.timestamp.text) := rfl
  simp only [ofJson?, Option.bind_eq_bind, Option.bind_eq_some_iff]
  refine ⟨_, seconds, _, Decimal.natural?_toDigits _, _, start, _, health.startedAt.read?_text, _,
    time, _, health.timestamp.read?_text, rfl⟩

theorem text_eq_compact : health.text = Json.compact health.members := by
  -- The pieces of the text do not end where members do, so each is cut there first.
  have opening : "\x7b\"status\":\"ok\",\"uptime_seconds\":" =
      "\x7b" ++ ("\"" ++ "status" ++ "\":" ++ ("\"" ++ "ok" ++ "\"")) ++ "," ++
        ("\"" ++ "uptime_seconds" ++ "\":") := rfl
  have start : ",\"started_at\":\"" = "," ++ ("\"" ++ "started_at" ++ "\":" ++ "\"") := rfl
  have time : "\",\"timestamp\":\"" = "\"" ++ "," ++ ("\"" ++ "timestamp" ++ "\":" ++ "\"") := rfl
  have last : "\",\"version\":\"" = "\"" ++ "," ++ ("\"" ++ "version" ++ "\":" ++ "\"") := rfl
  have closing : "\"\x7d" = "\"" ++ "\x7d" := rfl
  unfold text
  rewrite [opening, start, time, last, closing]
  simp only [Json.compact, members, Json.writtenMember, Json.Scalar.written, List.map_cons,
    List.map_nil, String.intercalate_cons_cons, String.intercalate_singleton, String.append_assoc]

theorem plain_members : ∀ member ∈ health.members, Json.Plain member.1 ∧ member.2.Plain := by
  have ok : Json.Plain "ok" := by decide
  have start := Json.plain_text health.startedAt
  have time := Json.plain_text health.timestamp
  have released : Json.Plain version := by decide
  simp only [members, List.forall_mem_cons, List.not_mem_nil, false_implies, implies_true, and_true]
  refine ⟨⟨?_, ok⟩, ⟨?_, trivial⟩, ⟨?_, start⟩, ⟨?_, time⟩, ⟨?_, released⟩⟩ <;> decide

theorem denotes_text_iff (json : Json) :
    Json.Denotes health.text.toList json ↔ json = .ofScalars health.members := by
  have denotes := Json.denotes_compact health.plain_members
  rw [← text_eq_compact] at denotes
  constructor
  · intro other
    exact other.unique denotes
  · rintro rfl
    exact denotes

theorem text_injective : Function.Injective text := by
  intro left right same
  have denotes := (left.denotes_text_iff (.ofScalars left.members)).mpr rfl
  rw [same, denotes_text_iff] at denotes
  have read := left.ofJson?_members
  rw [denotes, ofJson?_members] at read
  exact (Option.some.inj read).symm

end Health

theorem World.perform_health {world : World} {slot : Nat} {service : Service}
    (found : world.services[slot]? = some service) (clock : ClockReading) {request : Http.Request}
    (get : request.method = "GET") (path : request.uri.path = "/health") :
    ∃ response records, (world.perform clock (.request slot request)).1 =
      .response response records ∧ response.body =
        Health.text ⟨clock.now.wholeSeconds service.started, service.startedAt, clock.wall⟩ := by
  obtain ⟨profile, records, answered⟩ := perform_request found clock request
  have page : service.respond clock profile request = service.page clock profile .health :=
    service.respond_of_get clock profile get path
  refine ⟨_, records, answered, ?_⟩
  rw [page, ← Instant.seconds_since]
  rfl

/-- The body of a health report is JSON and denotes one value, an object of five members, which reads
back as the whole seconds since the start, the start time and the time of the clock. So two reports,
of whatever services, are the same exactly if all three are. -/
theorem health_report_reads_back (world : World) (slot : Nat) (service : Service)
    (found : world.services[slot]? = some service) (clock : ClockReading) (request : Http.Request)
    (get : request.method = "GET") (path : request.uri.path = "/health") :
    ∃ response records members,
      (world.perform clock (.request slot request)).1 = .response response records ∧
      (∀ json, Json.Denotes response.body.toList json ↔ json = .object members) ∧
      members.map Prod.fst = ["status", "uptime_seconds", "started_at", "timestamp", "version"] ∧
      (members.map Prod.fst).Nodup ∧
      Health.ofJson? (.object members) =
        some ⟨clock.now.wholeSeconds service.started, service.startedAt, clock.wall⟩ ∧
      ∀ (other : World) (otherSlot : Nat) (otherService : Service) (otherClock : ClockReading)
        (otherRequest : Http.Request) (otherResponse : Http.Response)
        (otherRecords : List LogRecord),
        other.services[otherSlot]? = some otherService → otherRequest.method = "GET" →
          otherRequest.uri.path = "/health" →
            (other.perform otherClock (.request otherSlot otherRequest)).1 =
                .response otherResponse otherRecords →
              (otherResponse.body = response.body ↔
                otherClock.now.wholeSeconds otherService.started =
                    clock.now.wholeSeconds service.started ∧
                  otherService.startedAt = service.startedAt ∧ otherClock.wall = clock.wall) := by
  obtain ⟨response, records, answered, body⟩ := World.perform_health found clock get path
  have distinct : ["status", "uptime_seconds", "started_at", "timestamp", "version"].Nodup := by
    decide
  refine ⟨response, records, _, answered, ?_, rfl, ?_, Health.ofJson?_members _, ?_⟩
  · intro json
    rw [body, Health.denotes_text_iff]
    rfl
  · exact distinct
  · intro other otherSlot otherService otherClock otherRequest otherResponse otherRecords otherFound
      otherGet otherPath otherAnswered
    obtain ⟨_, _, sent, otherBody⟩ := World.perform_health otherFound otherClock otherGet otherPath
    obtain ⟨rfl, _⟩ := Answer.response.inj (otherAnswered.symm.trans sent)
    rw [otherBody, body, Health.text_injective.eq_iff, Health.mk.injEq]

theorem health_report_reads_back_leap :
    let start : Timestamp := ⟨-8334601142401, 1999999999, by decide⟩
    let wall : Timestamp := ⟨8210266876799, 1000000000, by decide⟩
    let service : Service := ⟨⟨-1⟩, start, "none", 0⟩
    let world : World := ⟨.empty, [⟨.fixed none, 0⟩], [service]⟩
    let clock : ClockReading := ⟨⟨18446744073709551615999999998⟩, wall, ⟨0⟩⟩
    let early : ClockReading := ⟨⟨18446744073709551614999999999⟩, wall, ⟨7⟩⟩
    let request : Http.Request := ⟨"GET", ⟨none, none, "/health", some "x"⟩, .http11, [], ""⟩
    world.services[0]? = some service ∧ request.method = "GET" ∧ request.uri.path = "/health" ∧
      ∃ response records members,
        (world.perform clock (.request 0 request)).1 = .response response records ∧
        Json.Denotes response.body.toList (.object members) ∧
        Health.ofJson? (.object members) = some ⟨18446744073709551615, start, wall⟩ ∧
        ∀ other otherRecords, (world.perform early (.request 0 request)).1 =
          .response other otherRecords → other.body = response.body := by
  intro start wall service world clock early request
  obtain ⟨response, records, members, answered, denotes, _, _, read, alike⟩ :=
    health_report_reads_back world 0 service rfl clock request rfl rfl
  refine ⟨rfl, rfl, rfl, response, records, members, answered, (denotes _).mpr rfl, read, ?_⟩
  intro other otherRecords otherAnswered
  exact (alike world 0 service early request other otherRecords rfl rfl rfl otherAnswered).mpr
    ⟨by decide, rfl, rfl⟩

end UptimeGreeter
