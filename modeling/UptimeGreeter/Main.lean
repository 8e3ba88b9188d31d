import Std.Async.TCP
import Std.Async.Signal
import Std.Time.DateTime.Timestamp
import UptimeGreeter.Server.Lifecycle

/-!
The program on a real machine: its clocks, its sockets and its signals. What is read, answered and
printed is decided elsewhere.
-/

namespace UptimeGreeter.Machine

open Std.Async
open TCP.Socket

def readEnvironment : IO Environment := do
  let values ← Variable.all.mapM fun name => do
    return (name, (← IO.getEnv name.name).map Utf8.encode)
  return fun name => (values.lookup name).join

def readWall : IO Calendar.Timestamp := do
  let elapsed := (← Std.Time.Timestamp.now).val
  return (Calendar.Timestamp.ofUnix? elapsed.second.val elapsed.nano.val.toNat).getD .epoch

def readInstant : IO Instant := do
  return ⟨← IO.monoNanosNow⟩

def readClock : IO ClockReading := do
  return ⟨← readInstant, ← readWall, ⟨0⟩⟩

def socketAddress : Net.Endpoint → Std.Net.SocketAddress
  | .v4 address port =>
      .v4 ⟨⟨#v[address.first, address.second, address.third, address.fourth]⟩, port⟩
  | .v6 address _ port => .v6 ⟨⟨⟨address.groups.toArray, address.size⟩⟩, port⟩

def failureOf : IO.Error → IoFailure
  | .alreadyExists _ code _ | .otherError code _ | .resourceBusy code _
  | .resourceVanished code _ | .unsupportedOperation code _ | .hardwareFault code _
  | .unsatisfiedConstraints code _ | .illegalOperation code _ | .protocolError code _
  | .timeExpired code _ | .interrupted _ code _ | .noFileOrDirectory _ code _
  | .invalidArgument _ code _ | .permissionDenied _ code _ | .resourceExhausted _ code _
  | .inappropriateType _ code _ | .noSuchThing _ code _ => .system code.toNat
  | .unexpectedEof => .ofKind .unexpectedEof
  | .userError message => .withMessage .other message

def listen (endpoint : Net.Endpoint) : IO (Except IoFailure Server) := do
  try
    let server ← Server.mk
    server.bind (socketAddress endpoint)
    server.listen 1024
    return .ok server
  catch fault => return .error (failureOf fault)

def print (style : LogStyle) (printed : Printed) : IO Unit := do
  let text ←
    match printed with
    | .text text => pure text
    | .record record => pure (style.line (some (← readWall).microsecondText) record)
  let output ← IO.getStdout
  output.putStr text
  output.flush

/-- Regular expressions are left to others: here a pattern matches the text that it is. -/
def matcher : LogFilter.Matcher := fun pattern text => pattern = text

def crashNotice : String :=
  "the program broke off: a part of the log filter would begin or end inside a character\n"

def printRecords (program : Program) (records : List LogRecord) : IO Unit :=
  (program.log matcher records).forM fun record => print program.style (.record record)

def answer (program : Program) (world : IO.Ref World) (incoming : List Http.Wire.Incoming) :
    IO String := do
  let clock ← readClock
  let environment ← readEnvironment
  let replies ← world.modifyGet fun world =>
    { world with environment }.replies 0 clock incoming
  printRecords program (replies.flatMap (·.records))
  return String.join (replies.map fun reply =>
    Http.Wire.responseText reply.version reply.response)

partial def serveClient (program : Program) (world : IO.Ref World) (client : Client)
    (unread : Bytes) : Async Unit := do
  match ← client.recv? 65536 with
  | none => client.shutdown
  | some chunk =>
      let intake := Http.Wire.intake (unread ++ chunk.toList)
      let text ← answer program world intake.incoming
      unless text.isEmpty do client.send text.toUTF8
      match intake.left with
      | none => client.shutdown
      | some left => serveClient program world client left

inductive Arrival where
  | client (client : Client)
  | signal (signal : Signal)

partial def serve (program : Program) (world : IO.Ref World) (server : Server)
    (interrupt terminate : Std.Async.Signal.Waiter) : Async Unit := do
  let arrival ← Selectable.one #[
    .case interrupt.selector fun _ => pure (Arrival.signal .interrupt),
    .case terminate.selector fun _ => pure (Arrival.signal .terminate),
    .case server.acceptSelector fun client => pure (Arrival.client client)]
  match arrival with
  | .client client =>
      background (serveClient program world client [])
      serve program world server interrupt terminate
  | .signal signal => printRecords program [.signalReceived signal, .shutdownComplete]

def run (launch : Launch) (started : Instant) (startedAt : Calendar.Timestamp) : IO UInt32 := do
  let program := Program.ofLaunch launch
  let listener ←
    match program with
    | .ok program =>
        match program.config.endpoint with
        | .ok endpoint => listen endpoint
        | .error _ => pure (.error (.ofKind .other))
    | .error _ => pure (.error (.ofKind .other))
  let surroundings : Surroundings :=
    ⟨started, startedAt, fun _ => listener.map fun _ => (), .up, matcher, crashNotice⟩
  let transcript := launch.run surroundings []
  IO.eprint transcript.errorOutput
  transcript.output.forM (print (LogStyle.ofEnvironment launch.environment))
  match transcript.exitCode, program, listener with
  | none, .ok program, .ok server =>
      let world ← IO.mkRef (program.config.world launch.environment started startedAt)
      let interrupt ← Std.Async.Signal.Waiter.mk .sigint false
      let terminate ← Std.Async.Signal.Waiter.mk .sigterm false
      (serve program world server interrupt terminate).block
      return 0
  | code, _, _ => return UInt32.ofNat (code.getD 0)

end UptimeGreeter.Machine

def main (arguments : List String) : IO UInt32 := do
  let started ← UptimeGreeter.Machine.readInstant
  let startedAt ← UptimeGreeter.Machine.readWall
  let program := (← IO.appPath).toString
  UptimeGreeter.Machine.run
    ⟨(program :: arguments).map UptimeGreeter.Utf8.encode, ← UptimeGreeter.Machine.readEnvironment⟩
    started startedAt
