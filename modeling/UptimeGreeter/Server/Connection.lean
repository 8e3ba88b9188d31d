import UptimeGreeter.Failure.IoFailure
import UptimeGreeter.Http.Wire.Answer
import UptimeGreeter.Server.World

/-!
Conversations between a client and the server: what is answered to the bytes of a connection.
-/

namespace UptimeGreeter

open Http

inductive Link where
  | up
  | down (failure : IoFailure)
  deriving DecidableEq, Repr

structure Reply where
  version : Version
  response : Response
  records : List LogRecord
  deriving DecidableEq, Repr

namespace World

def reply (world : World) (slot : Nat) (clock : ClockReading) (incoming : Wire.Incoming) :
    Reply × World :=
  let answer (response : Response) (records : List LogRecord) : Reply :=
    ⟨incoming.version, Wire.completed incoming clock.wall response, records⟩
  match incoming with
  | .refused status => (answer (Wire.refusal status) [], world)
  | .request request _ =>
      match world.perform clock (.request slot request) with
      | (.response response records, next) => (answer response records, next)
      | (_, next) => (answer .notFound [], next)

def replies (world : World) (slot : Nat) (clock : ClockReading) :
    List Wire.Incoming → List Reply × World
  | [] => ([], world)
  | incoming :: rest =>
      let (first, next) := world.reply slot clock incoming
      let (later, final) := next.replies slot clock rest
      (first :: later, final)

def converse (world : World) (link : Link) (slot : Nat) (clock : ClockReading) (bytes : Bytes) :
    Except IoFailure (List Reply) × World :=
  match link with
  | .down failure => (.error failure, world)
  | .up =>
      let (answers, next) := world.replies slot clock (Wire.intake bytes).incoming
      (.ok answers, next)

end World

end UptimeGreeter
