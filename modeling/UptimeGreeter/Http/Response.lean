import UptimeGreeter.Http.Request

/-!
Responses.
-/

namespace UptimeGreeter.Http

inductive Status where
  | ok
  | badRequest
  | notFound
  | methodNotAllowed
  | uriTooLong
  | headersTooLarge
  deriving DecidableEq, Repr

namespace Status

def code : Status → Nat
  | .ok => 200
  | .badRequest => 400
  | .notFound => 404
  | .methodNotAllowed => 405
  | .uriTooLong => 414
  | .headersTooLarge => 431

def reason : Status → String
  | .ok => "OK"
  | .badRequest => "Bad Request"
  | .notFound => "Not Found"
  | .methodNotAllowed => "Method Not Allowed"
  | .uriTooLong => "URI Too Long"
  | .headersTooLarge => "Request Header Fields Too Large"

end Status

structure Response where
  status : Status
  headers : List Header
  body : String
  deriving DecidableEq, Repr

namespace Response

def withBody (contentType body : String) : Response :=
  ⟨.ok, [⟨"content-type", contentType⟩, ⟨"content-length", toString body.utf8ByteSize⟩], body⟩

def notFound : Response :=
  ⟨.notFound, [⟨"content-length", "0"⟩], ""⟩

def methodNotAllowed : Response :=
  ⟨.methodNotAllowed, [⟨"allow", "GET,HEAD"⟩, ⟨"content-length", "0"⟩], ""⟩

def withoutBody (response : Response) : Response :=
  { response with body := "" }

end Response

end UptimeGreeter.Http
