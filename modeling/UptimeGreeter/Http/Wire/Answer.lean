import UptimeGreeter.Calendar.Timestamp
import UptimeGreeter.Http.Wire.Intake

/-!
Responses as they go out on a connection.
-/

namespace UptimeGreeter.Http.Wire

namespace Incoming

def version : Incoming → Version
  | .request given _ => given.version
  | .refused _ => .http11

def connectionHeaders : Incoming → List Header
  | .refused _ => [⟨"connection", "close"⟩]
  | .request given persistent =>
      match given.version, persistent with
      | .http11, false => [⟨"connection", "close"⟩]
      | .http10, true => [⟨"connection", "keep-alive"⟩]
      | _, _ => []

end Incoming

def refusal (status : Status) : Response :=
  ⟨status, [⟨"content-length", "0"⟩], ""⟩

def completed (incoming : Incoming) (date : Calendar.Timestamp) (response : Response) : Response :=
  { response with
    headers :=
      response.headers ++ incoming.connectionHeaders ++ [⟨"date", date.headerText⟩] }

def statusLine (version : Version) (status : Status) : String :=
  version.text ++ " " ++ toString status.code ++ " " ++ status.reason

def responseText (version : Version) (response : Response) : String :=
  statusLine version response.status ++ "\r\n" ++
    String.join (response.headers.map fun header => header.name ++ ": " ++ header.value ++ "\r\n") ++
    "\r\n" ++ response.body

end UptimeGreeter.Http.Wire
