import Readiness.Http.Header
import Readiness.Json.Basic

/-!
This module contains the messages between a server and an application: the pieces of a request body on the way in,
the start and the pieces of a response on the way out.
-/

namespace Readiness
namespace Http

abbrev Bytes := List UInt8

/-- The protocol of a connection. -/
inductive Protocol where
  | http
  | websocket
  | lifespan
  | other (name : String)
deriving DecidableEq, Repr

namespace Incoming

inductive Kind where
  | request
  | disconnect
  | other (name : String)
deriving DecidableEq, Repr

end Incoming

/-- A message from the server. A missing body is empty, a missing `more` means that the body ends here. -/
structure Incoming where
  kind : Incoming.Kind
  body : Option Bytes := none
  more : Option Bool := none
  /-- The other fields, which are passed on as they are. -/
  rest : List (String × Json) := []
deriving Repr

namespace Incoming

/-- The bytes of request body that the message carries. -/
def size (m : Incoming) : Nat :=
  match m.kind with
  | .request => (m.body.getD []).length
  | _ => 0

end Incoming

namespace Outgoing

inductive Content where
  | start (status : Int) (headers : Option (List Header))
  | body (bytes : Option Bytes) (more : Option Bool)
  | other (name : String)
  /-- What lacks a field that the start of a response, or any message, has to have. -/
  | incomplete (missing : String)
deriving DecidableEq, Repr

end Outgoing

/-- A message to the server. -/
structure Outgoing where
  content : Outgoing.Content
  /-- The other fields, which are passed on as they are. -/
  rest : List (String × Json) := []
deriving Repr

namespace Outgoing

def start (status : Int) (headers : List Header) : Outgoing :=
  { content := .start status (some headers) }

/-- The last piece of a body. -/
def finish (bytes : Bytes) : Outgoing :=
  { content := .body (some bytes) (some false) }

/-- A message of which only the name matters. -/
def named (name : String) : Outgoing :=
  { content := .other name }

end Outgoing

end Http
end Readiness
