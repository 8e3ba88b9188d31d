import UptimeGreeter.Calendar.Timestamp
import UptimeGreeter.Text.Quoted
import UptimeGreeter.Uptime

/-!
A greeting service: when it was started, and what it shows for an absent profile. It gives a
greeting, which says how long the server has been up and which profile it runs, and a report of its
health, a JSON object whose texts hold no character that JSON would have to escape.
-/

namespace UptimeGreeter

structure Greeting where
  uptime : Duration
  profile : String
  deriving DecidableEq, Repr

namespace Greeting

def sentence (uptime profile : String) : String :=
  s!"Hello, Spring! (up {uptime}, {profile})"

def text (greeting : Greeting) : String :=
  sentence greeting.uptime.clockText greeting.profile

end Greeting

structure Health where
  uptimeSeconds : Nat
  startedAt : Calendar.Timestamp
  timestamp : Calendar.Timestamp
  deriving DecidableEq, Repr

namespace Health

def version : String := "0.1.0"

def text (health : Health) : String :=
  "\x7b\"status\":\"ok\",\"uptime_seconds\":" ++ toString health.uptimeSeconds ++
    ",\"started_at\":\"" ++ health.startedAt.text ++ "\",\"timestamp\":\"" ++
    health.timestamp.text ++ "\",\"version\":\"" ++ version ++ "\"\x7d"

end Health

structure Service where
  started : Instant
  startedAt : Calendar.Timestamp
  absentProfile : String
  source : Nat
  deriving DecidableEq, Repr

namespace Service

def uptime (service : Service) (now : Instant) : Duration :=
  now.since service.started

/-- A profile that is present is shown even when it is empty. -/
def greeting (service : Service) (profile : Option String) (now : Instant) : Greeting :=
  ⟨service.uptime now, profile.getD service.absentProfile⟩

def describe (service : Service) : String :=
  "GreetingService \x7b started_at: " ++ service.startedAt.text ++ ", absent_profile: " ++
    quote service.absentProfile ++ ", .. \x7d"

def describeLines (service : Service) : String :=
  "GreetingService \x7b\n    started_at: " ++ service.startedAt.text ++
    ",\n    absent_profile: " ++ quote service.absentProfile ++ ",\n    ..\n\x7d"

end Service

end UptimeGreeter
