import Readiness.Http.Message

/-!
This module contains the limit on request bodies. A meter counts the bytes of all body messages that were read, also
of those that it refused, and refuses a body message that takes the count over the limit.
-/

namespace Readiness
namespace Http

/-- A body is over the limit. -/
structure TooLarge where
  limit : Int
deriving DecidableEq, Repr

def TooLarge.message (e : TooLarge) : String :=
  s!"request body exceeds {e.limit} bytes"

namespace BodyLimit

/-- The bytes that an application may read, and those it has read. -/
structure Meter where
  limit : Int
  received : Nat := 0
deriving DecidableEq, Repr

/-- The meter of a connection. There is one for HTTP and a positive limit only. -/
def meter? (protocol : Protocol) (limit : Int := 0) : Option Meter :=
  if protocol = .http ∧ 0 < limit then some { limit } else none

/-- Passes one message on or refuses it. -/
def Meter.read (m : Meter) (msg : Incoming) : Except TooLarge Incoming × Meter :=
  match msg.kind with
  | .request =>
    let m := { m with received := m.received + msg.size }
    if m.limit < m.received then (.error ⟨m.limit⟩, m) else (.ok msg, m)
  | _ => (.ok msg, m)

/-- Reads a message through the meter, if there is one. -/
def read (meter : Option Meter) (msg : Incoming) : Except TooLarge Incoming × Option Meter :=
  match meter with
  | none => (.ok msg, none)
  | some m => let (r, m) := m.read msg; (r, some m)

/-- What an application gets that reads on after a refusal. -/
def readAll (meter : Option Meter) : List Incoming → List (Except TooLarge Incoming)
  | [] => []
  | msg :: msgs => let (r, meter) := read meter msg; r :: readAll meter msgs

/-- What an application gets that stops at the first refusal, and the messages left unread. -/
def readUntilRefused (meter : Option Meter) : List Incoming → List (Except TooLarge Incoming) × List Incoming
  | [] => ([], [])
  | msg :: msgs =>
    match read meter msg with
    | (.error e, _) => ([.error e], msgs)
    | (.ok m, meter) => let (rs, left) := readUntilRefused meter msgs; (.ok m :: rs, left)

end BodyLimit
end Http
end Readiness
