import UptimeGreeter.Environment
import UptimeGreeter.Server.Routes

/-!
Services together with what they share: the environment of the process, and the sources of their
profiles. A source is an object of its own: services that share one share the count of the times it
was asked. Operations on one service leave all others as they are.
-/

namespace UptimeGreeter

inductive ProfileSource where
  | environment
  | fixed (profile : Option String)
  /-- One value after another; the last one stays. -/
  | sequence (profiles : List (Option String))
  deriving DecidableEq, Repr

def Environment.profile (environment : Environment) : Option String :=
  (environment .buildProfile).map Utf8.decodeLossy

/-- What a source gives when it has been asked a number of times before. -/
def ProfileSource.profile (environment : Environment) (asked : Nat) : ProfileSource → Option String
  | .environment => environment.profile
  | .fixed profile => profile
  | .sequence profiles => (profiles[min asked (profiles.length - 1)]?).join

structure SourceObject where
  source : ProfileSource
  asked : Nat
  deriving DecidableEq, Repr

structure World where
  environment : Environment
  sources : List SourceObject
  services : List Service

structure Birth where
  started : Instant
  startedAt : Calendar.Timestamp
  absentProfile : String
  source : ProfileSource
  deriving DecidableEq, Repr

inductive Operation where
  | create (birth : Birth)
  | clone (slot : Nat)
  | attach (slot : Nat) (source : ProfileSource)
  | setProfile (value : Option Bytes)
  | readProfile
  | sayHello (slot : Nat)
  | sayHelloAt (slot : Nat) (now : Instant)
  | uptime (slot : Nat)
  | startedAt (slot : Nat)
  | absentProfile (slot : Nat)
  | describe (slot : Nat)
  | describeLines (slot : Nat)
  | request (slot : Nat) (request : Http.Request)
  deriving DecidableEq, Repr

inductive Answer where
  | done
  | slot (slot : Nat)
  | text (text : String)
  | profile (profile : Option String)
  | seconds (seconds : Nat)
  | time (timestamp : Calendar.Timestamp)
  /-- A response, and the records of its request before any filter. -/
  | response (response : Http.Response) (records : List LogRecord)
  | noSuchSlot
  deriving DecidableEq, Repr

namespace World

def start (environment : Environment) : World :=
  ⟨environment, [], []⟩

def askProfile (world : World) (source : Nat) : Option String × World :=
  match world.sources[source]? with
  | none => (none, world)
  | some object =>
      (object.source.profile world.environment object.asked,
        { world with sources := world.sources.set source { object with asked := object.asked + 1 } })

def greet (world : World) (service : Service) (now : Instant) : Answer × World :=
  let (profile, next) := world.askProfile service.source
  (.text (service.greeting profile now).text, next)

def answerRequest (world : World) (service : Service) (clock : ClockReading)
    (request : Http.Request) : Answer × World :=
  let (profile, next) :=
    if asksProfile request then world.askProfile service.source else (none, world)
  (.response (service.respond clock profile request) (service.requestRecords clock profile request),
    next)

def withSlot (world : World) (slot : Nat) (act : Service → Answer × World) : Answer × World :=
  match world.services[slot]? with
  | none => (.noSuchSlot, world)
  | some service => act service

def addService (world : World) (service : Service) : Answer × World :=
  (.slot world.services.length, { world with services := world.services ++ [service] })

def addSource (world : World) (source : ProfileSource) : World :=
  { world with sources := world.sources ++ [⟨source, 0⟩] }

def perform (world : World) (clock : ClockReading) : Operation → Answer × World
  | .create birth =>
      (world.addSource birth.source).addService
        ⟨birth.started, birth.startedAt, birth.absentProfile, world.sources.length⟩
  | .clone slot => world.withSlot slot world.addService
  | .attach slot source =>
      world.withSlot slot fun service =>
        let next := world.addSource source
        (.done,
          { next with
            services := next.services.set slot { service with source := world.sources.length } })
  | .setProfile value =>
      (.done, { world with environment := world.environment.set .buildProfile value })
  | .readProfile => (.profile world.environment.profile, world)
  | .sayHello slot => world.withSlot slot fun service => world.greet service clock.now
  | .sayHelloAt slot now => world.withSlot slot fun service => world.greet service now
  | .uptime slot =>
      world.withSlot slot fun service => (.seconds (service.uptime clock.now).seconds, world)
  | .startedAt slot => world.withSlot slot fun service => (.time service.startedAt, world)
  | .absentProfile slot => world.withSlot slot fun service => (.text service.absentProfile, world)
  | .describe slot => world.withSlot slot fun service => (.text service.describe, world)
  | .describeLines slot => world.withSlot slot fun service => (.text service.describeLines, world)
  | .request slot request =>
      world.withSlot slot fun service => world.answerRequest service clock request

def run (world : World) : List (ClockReading × Operation) → List Answer × World
  | [] => ([], world)
  | (clock, operation) :: rest =>
      let (answer, next) := world.perform clock operation
      let (answers, final) := next.run rest
      (answer :: answers, final)

end World

end UptimeGreeter
