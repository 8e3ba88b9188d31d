import UptimeGreeter.Http.Wire.Framing

/-!
The requests that the bytes of a connection hold, one after another until one side asks to close it.
-/

namespace UptimeGreeter.Http.Wire

inductive Incoming where
  | request (request : Request) (persistent : Bool)
  | refused (status : Status)
  deriving DecidableEq, Repr

structure Intake where
  incoming : List Incoming
  /-- Bytes to be read together with those to come; none once the connection takes no more. -/
  left : Option Bytes
  deriving DecidableEq, Repr

def first? (bytes : Bytes) : Option (Incoming × Option Bytes) :=
  match readHead bytes with
  | .unfinished => none
  | .broken status => some (.refused status, none)
  | .read head rest =>
      match head.request, framing head.version head.headers with
      | .ok request, .ok framing =>
          if isPersistent head.version head.headers then
            some (.request request true, afterBody? framing rest)
          else some (.request request false, none)
      | .error status, _ | _, .error status => some (.refused status, none)

/-- A connection of so many bytes holds no more requests than that. -/
def intakeWithin : Nat → Bytes → Intake
  | 0, bytes => ⟨[], some bytes⟩
  | fuel + 1, bytes =>
      match first? bytes with
      | none => ⟨[], some bytes⟩
      | some (incoming, none) => ⟨[incoming], none⟩
      | some (incoming, some rest) =>
          let later := intakeWithin fuel rest
          ⟨incoming :: later.incoming, later.left⟩

def intake (bytes : Bytes) : Intake :=
  intakeWithin bytes.length bytes

end UptimeGreeter.Http.Wire
