import Readiness.Http.Message
import Readiness.Instant.Basic
import Readiness.Json.Printer

/-!
This module contains responses and the bodies that the service answers failures with: compact JSON with a code that
clients can rely on and the time.
-/

namespace Readiness
namespace Http

structure Response where
  status : Int
  headers : List Header
  body : String
deriving DecidableEq, Repr

/-- Why a response could not be made. -/
inductive RenderError where
  | instant (e : Instant.Error)
  | header (e : Text.Latin1Error)
deriving DecidableEq, Repr

/-- Whether a response of this status announces the length of its body. -/
def announcesLength (status : Int) : Bool :=
  !(status < 200 || status = 204 || status = 304)

/-- The media type of everything the service says in JSON. -/
def jsonUtf8 : String := "application/json; charset=utf-8"

namespace Response

/--
A response with the given fields followed by the length and the type of its body, unless they are among the given
ones.
-/
def make (status : Int) (headers : List Header) (mediaType body : String) : Except Text.Latin1Error Response := do
  let headers ← headers.mapM Header.encode
  let given (name : String) := headers.any (·.name == name)
  let length : Header := ⟨"content-length", toString body.utf8ByteSize⟩
  return {
    status
    headers := headers
      ++ (if announcesLength status && !given "content-length" then [length] else [])
      ++ (if given "content-type" then [] else [⟨"content-type", mediaType⟩])
    body }

def json (status : Int) (headers : List Header) (body : Json) : Except Text.Latin1Error Response :=
  make status headers jsonUtf8 (body.toText Json.compact)

/-- The messages that carry the response. -/
def messages (r : Response) : List Outgoing :=
  [.start r.status r.headers, .finish r.body.toUTF8.toList]

/-- The answer to a failure. A request id, unless it is empty, goes into the field named `X-Request-Id`. -/
def error (status : Int) (code : String) (requestId : String) (headers : List Header) (now : Instant) :
    Except RenderError Response := do
  let headers := if requestId.isEmpty then headers else Header.put Header.requestId requestId headers
  let time ← now.text.mapError RenderError.instant
  (json status headers (.obj [("error", .str code), ("time", .str time)])).mapError RenderError.header

end Response

/-- The code that stands for a status in the body. -/
def errorCode (status : Int) : String :=
  if status = 400 then "bad_request"
  else if status = 404 then "not_found"
  else if status = 405 then "method_not_allowed"
  else if status = 413 then "request_too_large"
  else if status < 500 then "client_error"
  else "internal_error"

/-- The answer to a failure that a handler signals by a status. -/
def Response.ofStatus (status : Int) (headers : List Header) (now : Instant) : Except RenderError Response :=
  Response.error status (errorCode status) "" headers now

/-- The answer to a request whose body is over the limit. -/
def Response.tooLarge (now : Instant) : Except RenderError Response :=
  Response.ofStatus 413 [] now

end Http
end Readiness
