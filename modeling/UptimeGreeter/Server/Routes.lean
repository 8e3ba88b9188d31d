import UptimeGreeter.Http.Response
import UptimeGreeter.Server.Service
import UptimeGreeter.Server.LogRecord

/-!
What a service answers to a request, and what it logs on the way.
-/

namespace UptimeGreeter

open Http

inductive Route where
  | greeting
  | health
  deriving DecidableEq, Repr

def Route.ofPath? (path : String) : Option Route :=
  if path = "/" then some .greeting
  else if path = "/health" then some .health
  else none

inductive Retrieval where
  | get
  | head
  deriving DecidableEq, Repr

def Retrieval.ofMethod? (method : String) : Option Retrieval :=
  if method = "GET" then some .get
  else if method = "HEAD" then some .head
  else none

inductive Dispatch where
  | serve (route : Route) (retrieval : Retrieval)
  | methodNotAllowed
  | notFound
  deriving DecidableEq, Repr

def dispatch (request : Request) : Dispatch :=
  match Route.ofPath? request.uri.path with
  | none => .notFound
  | some route =>
      match Retrieval.ofMethod? request.method with
      | none => .methodNotAllowed
      | some retrieval => .serve route retrieval

def asksProfile (request : Request) : Bool :=
  match dispatch request with
  | .serve .greeting _ => true
  | _ => false

structure ClockReading where
  now : Instant
  wall : Calendar.Timestamp
  latency : Duration
  deriving DecidableEq, Repr

namespace Service

def healthAt (service : Service) (clock : ClockReading) : Health :=
  ⟨(service.uptime clock.now).seconds, service.startedAt, clock.wall⟩

def page (service : Service) (clock : ClockReading) (profile : Option String) : Route → Response
  | .greeting =>
      .withBody "text/plain; charset=utf-8" (service.greeting profile clock.now).text
  | .health => .withBody "application/json" (service.healthAt clock).text

def respond (service : Service) (clock : ClockReading) (profile : Option String)
    (request : Request) : Response :=
  match dispatch request with
  | .serve route .get => service.page clock profile route
  | .serve route .head => (service.page clock profile route).withoutBody
  | .methodNotAllowed => .methodNotAllowed
  | .notFound => .notFound

def requestSpan (request : Request) : LogFilter.Span :=
  { target := "tower_http::trace::make_span"
    name := "request"
    level := .debug
    fields := [("method", request.method), ("uri", request.uri.text), ("version", request.version.text)] }

def requestRecords (service : Service) (clock : ClockReading) (profile : Option String)
    (request : Request) : List LogRecord :=
  let span := some (requestSpan request)
  let served :=
    if asksProfile request then
      [⟨.debug, "hello_spring::routes", "greeting served",
        [("greeting", (service.greeting profile clock.now).text)], [], span⟩]
    else []
  let status := (service.respond clock profile request).status.code
  [⟨.debug, "tower_http::trace::on_request", "started processing request", [], [], span⟩] ++
    served ++
    [⟨.debug, "tower_http::trace::on_response", "finished processing request",
      [("latency", toString clock.latency.milliseconds ++ " ms"), ("status", toString status)],
      ["response_headers"], span⟩]

end Service

end UptimeGreeter
