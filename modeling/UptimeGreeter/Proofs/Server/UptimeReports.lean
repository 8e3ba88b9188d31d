import UptimeGreeter.Proofs.Server.Classification
import UptimeGreeter.Proofs.Server.GreetingText
import UptimeGreeter.Proofs.Server.HealthText
import UptimeGreeter.Proofs.Server.Lineage
import UptimeGreeter.Proofs.Server.Replay

/-!
All answers that tell an uptime tell the same one, which never runs backwards, from one service to
its clones and whatever happens in between.
-/

namespace UptimeGreeter

open Http

inductive AsksUptime (clock : ClockReading) (slot : Nat) : Operation → Instant → Prop
  | hello : AsksUptime clock slot (.sayHello slot) clock.now
  | helloAt (now : Instant) : AsksUptime clock slot (.sayHelloAt slot now) now
  | uptime : AsksUptime clock slot (.uptime slot) clock.now
  | page (request : Request) : request.method = "GET" → ServedPath request.uri.path →
      AsksUptime clock slot (.request slot request) clock.now

def Answer.uptime? : Answer → Option Nat
  | .seconds count => some count
  | .text said => (Greeting.read? said).map Prod.fst
  | .response page _ => ((Greeting.read? page.body).map Prod.fst).or (Health.readUptime? page.body)
  | _ => none

namespace Instant

variable {now later start : Instant}

theorem wholeSeconds_of_lt (ahead : now.nanoseconds < start.nanoseconds) :
    now.wholeSeconds start = 0 := by
  simp only [wholeSeconds]
  omega

theorem wholeSeconds_le (order : now.nanoseconds ≤ later.nanoseconds) :
    now.wholeSeconds start ≤ later.wholeSeconds start := by
  simp only [wholeSeconds]
  omega

/-- The part of a second that is cut off at one instant may be more than the one cut off later. -/
theorem wholeSeconds_sub (started : start.nanoseconds ≤ now.nanoseconds)
    (order : now.nanoseconds ≤ later.nanoseconds) :
    let gap := (later.nanoseconds - now.nanoseconds) / 1000000000
    (later.wholeSeconds start : Int) - now.wholeSeconds start = gap ∨
      (later.wholeSeconds start : Int) - now.wholeSeconds start = gap + 1 := by
  simp only [wholeSeconds]
  omega

end Instant

theorem Greeting.read?_health (health : Health) : read? health.text = none := by
  have shape : ∃ rest, health.text.toList = '\x7b' :: rest := by
    rw [health.toList_text]
    exact ⟨_, rfl⟩
  obtain ⟨rest, starts⟩ := shape
  rw [read?, starts]
  rfl

theorem Service.readUptime_page (service : Service) (clock : ClockReading)
    (profile : Option String) (route : Route) (records : List LogRecord) :
    (Answer.response (service.page clock profile route) records).uptime? =
      some (clock.now.wholeSeconds service.started) := by
  have seconds := Instant.seconds_since clock.now service.started
  cases route with
  | greeting =>
      have body : (service.page clock profile .greeting).body =
          (service.greeting profile clock.now).text := rfl
      rw [Answer.uptime?, body, Greeting.read?_text]
      exact congrArg some seconds
  | health =>
      have body : (service.page clock profile .health).body = (service.healthAt clock).text := rfl
      rw [Answer.uptime?, body, Greeting.read?_health, Health.readUptime?_text]
      exact congrArg some seconds

theorem World.uptime?_greet (world : World) (service : Service) (now : Instant) :
    (world.greet service now).1.uptime? = some (now.wholeSeconds service.started) := by
  rw [greet_eq, Answer.uptime?, Greeting.read?_text]
  exact congrArg some (Instant.seconds_since now service.started)

theorem World.uptime?_perform {world : World} {slot : Nat} {service : Service}
    (found : world.services[slot]? = some service) {clock : ClockReading} {operation : Operation}
    {now : Instant} (asks : AsksUptime clock slot operation now) :
    (world.perform clock operation).1.uptime? = some (now.wholeSeconds service.started) := by
  cases asks with
  | hello =>
      rw [perform, withSlot_of_getElem? found]
      exact world.uptime?_greet service clock.now
  | helloAt =>
      rw [perform, withSlot_of_getElem? found]
      exact world.uptime?_greet service now
  | uptime =>
      rw [perform, withSlot_of_getElem? found]
      exact congrArg some (Instant.seconds_since clock.now service.started)
  | page request get served =>
      obtain ⟨profile, records, answered⟩ := perform_request found clock request
      obtain ⟨route, path⟩ := served.exists_route
      rw [answered, service.respond_of_get clock profile get path]
      exact service.readUptime_page clock profile route records

/-- An operation of a run that asks for an uptime, and the creation that the service it asks goes
back to. -/
structure Inquiry (operations : List (ClockReading × Operation)) where
  position : Nat
  clock : ClockReading
  operation : Operation
  placed : operations[position]? = some (clock, operation)
  slot : Nat
  now : Instant
  asks : AsksUptime clock slot operation now
  origin : Nat
  descends : (History.origins (.ofRun (operations.take position)))[slot]? = some origin

namespace Inquiry

variable {operations : List (ClockReading × Operation)}

def reported (inquiry : Inquiry operations) (environment : Environment) : Option Nat :=
  ((World.start environment).run operations).1[inquiry.position]?.bind Answer.uptime?

theorem exists_birth (inquiry : Inquiry operations) :
    ∃ birth service, (operations[inquiry.origin]?).map Prod.snd = some (.create birth) ∧
      (History.services (.ofRun (operations.take inquiry.position)))[inquiry.slot]? =
        some service ∧ service.started = birth.started := by
  obtain ⟨birth, object, born, found⟩ := History.keeps_of_origin inquiry.descends
  exact ⟨birth, birth.standing object, History.getElem?_of_ofRun_take born, found, rfl⟩

theorem reported_eq (inquiry : Inquiry operations) (environment : Environment) :
    ∃ birth, (operations[inquiry.origin]?).map Prod.snd = some (.create birth) ∧
      inquiry.reported environment = some (inquiry.now.wholeSeconds birth.started) := by
  obtain ⟨birth, standing, born, found, started⟩ := inquiry.exists_birth
  refine ⟨birth, born, ?_⟩
  obtain ⟨inside, same⟩ := List.getElem?_eq_some_iff.mp inquiry.placed
  let past := operations.take inquiry.position
  have whole : operations =
      past ++ (inquiry.clock, inquiry.operation) :: operations.drop (inquiry.position + 1) := by
    rw [← same, ← List.drop_eq_getElem_cons inside, List.take_append_drop]
  have length : past.length = inquiry.position := List.length_take_of_le (Nat.le_of_lt inside)
  have answer := World.run_getElem? (World.start environment) past
    (operations.drop (inquiry.position + 1)) inquiry.clock inquiry.operation
  rw [← whole, length, History.run_start] at answer
  have stands : (History.world environment (.ofRun past)).services[inquiry.slot]? =
      some (History.stands (.ofRun past) standing) := by
    rw [History.world, List.getElem?_map, found, Option.map_some]
  rw [reported, answer, Option.bind_some, World.uptime?_perform stands inquiry.asks, ← started]
  rfl

end Inquiry

/-- Whatever two operations of a run ask a service or its clones for their uptime, they are told the
whole seconds since one start: the same at one instant, never less later, and later by the time in
between but for the parts of seconds. -/
theorem uptimes_agree (environment : Environment)
    {operations : List (ClockReading × Operation)} (first second : Inquiry operations)
    (kin : first.origin = second.origin) :
    ∃ birth earlier later,
      (operations[first.origin]?).map Prod.snd = some (.create birth) ∧
      first.reported environment = some earlier ∧ second.reported environment = some later ∧
      earlier = first.now.wholeSeconds birth.started ∧
      later = second.now.wholeSeconds birth.started ∧
      (first.now = second.now → earlier = later) ∧
      (first.now.nanoseconds < birth.started.nanoseconds → earlier = 0) ∧
      (first.now.nanoseconds ≤ second.now.nanoseconds → earlier ≤ later ∧
        (birth.started.nanoseconds ≤ first.now.nanoseconds →
          let gap := (second.now.nanoseconds - first.now.nanoseconds) / 1000000000
          (later : Int) - earlier = gap ∨ (later : Int) - earlier = gap + 1)) := by
  obtain ⟨birth, born, told⟩ := first.reported_eq environment
  obtain ⟨other, otherBorn, otherTold⟩ := second.reported_eq environment
  rw [← kin, born] at otherBorn
  obtain rfl := Operation.create.inj (Option.some.inj otherBorn)
  refine ⟨birth, _, _, born, told, otherTold, rfl, rfl, ?_, Instant.wholeSeconds_of_lt, ?_⟩
  · intro same
    rw [same]
  · intro order
    exact ⟨Instant.wholeSeconds_le order, fun started => Instant.wholeSeconds_sub started order⟩

theorem uptimes_agree_clone :
    let at59 : ClockReading := ⟨⟨59999999999⟩, .epoch, ⟨0⟩⟩
    let at60 : ClockReading := ⟨⟨60000000000⟩, .epoch, ⟨0⟩⟩
    let health : Request := ⟨"GET", ⟨none, none, "/health", none⟩, .http11, [], ""⟩
    let operations : List (ClockReading × Operation) :=
      [(at59, .create ⟨⟨0⟩, .epoch, "none", .environment⟩), (at59, .clone 0), (at59, .sayHello 1),
        (at59, .attach 0 (.fixed (some ", 99:99)"))), (at60, .request 0 health)]
    let first : Inquiry operations := ⟨2, at59, _, rfl, 1, at59.now, .hello, 0, rfl⟩
    let second : Inquiry operations :=
      ⟨4, at60, _, rfl, 0, at60.now, .page health rfl (.inr rfl), 0, rfl⟩
    first.origin = second.origin ∧ first.reported .empty = some 59 ∧
      second.reported .empty = some 60 := by
  intro at59 at60 health operations first second
  obtain ⟨birth, earlier, later, born, told, otherTold, whole, otherWhole, _, _, _⟩ :=
    uptimes_agree .empty first second rfl
  obtain rfl := Operation.create.inj (Option.some.inj born)
  obtain rfl : earlier = 59 := whole
  obtain rfl : later = 60 := otherWhole
  exact ⟨rfl, told, otherTold⟩

end UptimeGreeter
