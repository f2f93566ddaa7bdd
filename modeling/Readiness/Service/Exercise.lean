import Readiness.Service.App
import Readiness.Service.Manual

/-!
This module contains routes that exercise a pipeline: one for each way in which a handler can end.
-/

namespace Readiness
namespace Service
namespace Exercise

open Http (Response)

variable {σ : Type}

/-- Answers with one field. The media type is that of the application around. -/
def respond (mediaType name : String) (value : Json) : Handler σ :=
  .ofExcept ((Response.make 200 [] mediaType ((Json.obj [(name, value)]).toText Json.compact)).mapError
    (.render ∘ .header))

/-- Goes on with the integer that a parameter denotes. -/
def withInteger (parameter : String) (next : Int → Handler σ) : Handler σ :=
  match Text.Integer.parse parameter with
  | .ok n => next n
  | .error e => .fail (.defect (.numeral e))

def route (pattern : Pattern) (method summary : String) (handle : String → Request → Handler σ) : Route σ :=
  { pattern, methods := [method], summary := some summary, tags := [], handle }

/-- A response whose length is not announced. -/
def partialResponse : Response :=
  ⟨200, [⟨"content-type", "text/plain; charset=utf-8"⟩], "part"⟩

def routes (mediaType : String) : List (Route σ) :=
  [route (.literal "/ok") "GET" "Ok" fun _ request => respond mediaType "request_id" (.str request.id),
   route (.literal "/boom") "GET" "Boom" fun _ _ => .fail (.defect (.internal "secret internal detail")),
   route (.literal "/echo") "POST" "Echo" fun _ _ => .drain fun size => respond mediaType "size" (.int size),
   route (.parameter "/raise/" "status") "GET" "Raise Status" fun parameter _ =>
     withInteger parameter fun status => .fail (.status status [⟨"X-Why", "because"⟩] ""),
   route (.parameter "/advance/" "ns") "GET" "Advance" fun parameter _ =>
     withInteger parameter fun nanos => .wait nanos (respond mediaType "advanced" (.int nanos)),
   route (.literal "/late") "GET" "Late" fun _ _ => .breakOff partialResponse (.internal "late fault")]

/-- The routes and a manual on their own, over no state. -/
def app : App Unit where
  tick _ s := s
  handle := Route.dispatch (Manual.withManual (routes "application/json"))

end Exercise
end Service
end Readiness
