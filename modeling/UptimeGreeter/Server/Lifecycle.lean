import UptimeGreeter.CommandLine.Reading
import UptimeGreeter.Failure.StartupFailure
import UptimeGreeter.LogFilter.Selection
import UptimeGreeter.Server.Connection

/-!
The life of the program: it reads its configuration, binds an address, answers requests, and shuts
down at a signal. A run is a function of what it is given and of what happens to it.
-/

namespace UptimeGreeter

inductive Signal where
  | interrupt
  | terminate
  deriving DecidableEq, Repr

def Signal.name : Signal → String
  | .interrupt => "SIGINT"
  | .terminate => "SIGTERM"

namespace LogRecord

/-! Records that tell of the program itself. -/

def tracingInitialized : LogRecord :=
  ⟨.debug, "hello_spring::telemetry", "Tracing initialized", [], [], none⟩

def serverRunning (endpoint : Net.Endpoint) (absentProfile : String) : LogRecord :=
  ⟨.info, "hello_spring::server", s!"Server running on http://{endpoint.text}",
    [("addr", endpoint.text), ("absent_profile", absentProfile)], [], none⟩

def signalReceived (signal : Signal) : LogRecord :=
  ⟨.info, "hello_spring::server", s!"Received {signal.name}, shutting down...", [], [], none⟩

def shutdownComplete : LogRecord :=
  ⟨.info, "hello_spring::server", "Server shutdown complete", [], [], none⟩

end LogRecord

def LogStyle.ofEnvironment (environment : Environment) : LogStyle :=
  match environment .noColour >>= Utf8.decode? with
  | none => .coloured
  | some text => if text.isEmpty then .coloured else .plain

structure Launch where
  arguments : List Bytes
  environment : Environment

namespace Config

def birth (config : Config) (started : Instant) (startedAt : Calendar.Timestamp) : Birth :=
  ⟨started, startedAt, config.absentProfile, .environment⟩

def world (config : Config) (environment : Environment) (started : Instant)
    (startedAt : Calendar.Timestamp) : World :=
  ((World.start environment).perform ⟨started, startedAt, ⟨0⟩⟩
    (.create (config.birth started startedAt))).2

end Config

structure Program where
  config : Config
  filter : LogFilter.Filter
  warning : String
  style : LogStyle

inductive Launch.Halt where
  | stopped (stop : CommandLine.Stop)
  | crashed

namespace Program

def ofLaunch (launch : Launch) : Except Launch.Halt Program :=
  match CommandLine.readConfig launch.arguments launch.environment with
  | .error stop => .error (.stopped stop)
  | .ok config =>
      match LogFilter.Selection.choose? config.logLevel launch.environment with
      | none => .error .crashed
      | some selection =>
          .ok ⟨config, selection.filter, selection.warning,
            LogStyle.ofEnvironment launch.environment⟩

def log (program : Program) (matcher : LogFilter.Matcher) (records : List LogRecord) :
    List LogRecord :=
  LogRecord.filtered matcher program.filter records

end Program

inductive Happening where
  | connection (clock : ClockReading) (bytes : Bytes)
  | signal (signal : Signal)
  deriving DecidableEq, Repr

/-- The outside of a run: the clocks at its start, whether an address can be bound, whether clients
reach it, how patterns match, and what is said of a crash. -/
structure Surroundings where
  started : Instant
  startedAt : Calendar.Timestamp
  bind : Net.Endpoint → Except IoFailure Unit
  link : Link
  matcher : LogFilter.Matcher
  crashNotice : String

inductive Printed where
  | text (text : String)
  | record (record : LogRecord)
  deriving DecidableEq, Repr

inductive Event where
  | print (printed : Printed)
  | complain (text : String)
  | bind (endpoint : Net.Endpoint)
  | converse (conversation : Except IoFailure (List Reply))
  | exit (code : Nat)

namespace Event

def printed? : Event → Option Printed
  | .print printed => some printed
  | _ => none

def complaint? : Event → Option String
  | .complain text => some text
  | _ => none

def conversation? : Event → Option (Except IoFailure (List Reply))
  | .converse conversation => some conversation
  | _ => none

def exitCode? : Event → Option Nat
  | .exit code => some code
  | _ => none

end Event

structure Transcript where
  output : List Printed
  errorOutput : String
  conversations : List (Except IoFailure (List Reply))
  exitCode : Option Nat

def Transcript.ofEvents (events : List Event) : Transcript :=
  { output := events.filterMap Event.printed?
    errorOutput := String.join (events.filterMap Event.complaint?)
    conversations := events.filterMap Event.conversation?
    exitCode := events.findSome? Event.exitCode? }

def eventsOfStop (launch : Launch) (stop : CommandLine.Stop) : List Event :=
  let message := stop.message (CommandLine.programName launch.arguments) launch.environment
  if stop.usesStandardError then [.complain message, .exit stop.exitCode]
  else [.print (.text message), .exit stop.exitCode]

def failureText (failure : StartupFailure) : String :=
  "Error: " ++ failure.report ++ "\n"

def eventsOfFailure (failure : StartupFailure) : List Event :=
  [.complain (failureText failure), .exit 1]

def eventsOfCrash (surroundings : Surroundings) : List Event :=
  [.complain surroundings.crashNotice, .exit 101]

def eventsOfWarning (warning : String) : List Event :=
  if warning.isEmpty then [] else [.complain warning]

def recordsOf : Except IoFailure (List Reply) → List LogRecord
  | .ok replies => replies.flatMap (·.records)
  | .error _ => []

namespace Program

def tell (program : Program) (matcher : LogFilter.Matcher) (records : List LogRecord) :
    List Event :=
  (program.log matcher records).map fun record => .print (.record record)

/-- The events of a server from one happening to the next. The first signal is the last thing that
matters. -/
def attend (program : Program) (matcher : LogFilter.Matcher) (link : Link) (world : World) :
    List Happening → List Event
  | [] => []
  | .signal signal :: _ =>
      program.tell matcher [.signalReceived signal, .shutdownComplete] ++ [.exit 0]
  | .connection clock bytes :: rest =>
      let (conversation, next) := world.converse link 0 clock bytes
      program.tell matcher (recordsOf conversation) ++
        .converse conversation :: program.attend matcher link next rest

def serve (program : Program) (launch : Launch) (surroundings : Surroundings)
    (endpoint : Net.Endpoint) (happenings : List Happening) : List Event :=
  let world := program.config.world launch.environment surroundings.started surroundings.startedAt
  program.tell surroundings.matcher [.serverRunning endpoint program.config.absentProfile] ++
    program.attend surroundings.matcher surroundings.link world happenings

end Program

namespace Launch

def events (launch : Launch) (surroundings : Surroundings) (happenings : List Happening) :
    List Event :=
  match Program.ofLaunch launch with
  | .error (.stopped stop) => eventsOfStop launch stop
  | .error .crashed => eventsOfCrash surroundings
  | .ok program =>
      eventsOfWarning program.warning ++
        program.tell surroundings.matcher [.tracingInitialized] ++
        match program.config.endpoint with
        | .error fault => eventsOfFailure (.host fault)
        | .ok endpoint =>
            .bind endpoint ::
              match surroundings.bind endpoint with
              | .error cause => eventsOfFailure (.bind endpoint cause)
              | .ok () => program.serve launch surroundings endpoint happenings

def run (launch : Launch) (surroundings : Surroundings) (happenings : List Happening) :
    Transcript :=
  .ofEvents (launch.events surroundings happenings)

end Launch

end UptimeGreeter
