import Readiness.Service.Handler

/-!
This module contains routes and their dispatch. Paths are compared as they are, except that a line break at the very
end of one is overlooked.
-/

namespace Readiness
namespace Service

/-- The paths that a route answers. -/
inductive Pattern where
  | literal (path : String)
  /-- A stem followed by one more segment, the parameter. -/
  | parameter (stem name : String)
deriving DecidableEq, Repr

namespace Pattern

/-- The parameter of a path that the pattern covers; empty for a literal one. -/
def parameter? : Pattern → String → Option String
  | literal p, path => if path = p ∨ path = p ++ "\n" then some "" else none
  | parameter stem _, path =>
    match stem.toList.isPrefixOf? path.toList with
    | some r => if r.isEmpty || r.contains '/' then none else some (String.ofList r)
    | none => none

/-- The text of the pattern in the manual. -/
def text : Pattern → String
  | literal p => p
  | parameter stem name => stem ++ "\x7b" ++ name ++ "\x7d"

end Pattern

structure Route (σ : Type) where
  pattern : Pattern
  /-- The methods that are answered, in alphabetical order. -/
  methods : List String
  /-- What the manual says of the route, if it lists it. -/
  summary : Option String
  tags : List String
  handle : String → Request → Handler σ

namespace Route

variable {σ : Type}

/-- The parameter of a request that the route answers. -/
def parameter? (r : Route σ) (request : Request) : Option String :=
  if r.methods.contains request.method then r.pattern.parameter? request.path else none

def notFound : Fault :=
  .status 404 [] "Not Found"

/-- The answer to a method that the route does not answer. -/
def notAllowed (r : Route σ) : Fault :=
  .status 405 [⟨"Allow", ", ".intercalate r.methods⟩] "Method Not Allowed"

/--
The first route that answers the request handles it. If there is none, the first with its path tells the methods that
it would have answered.
-/
def dispatch (routes : List (Route σ)) (request : Request) : Handler σ :=
  match routes.findSome? fun r => (r.parameter? request).map fun parameter => (r, parameter) with
  | some (r, parameter) => r.handle parameter request
  | none =>
    match routes.find? fun r => (r.pattern.parameter? request.path).isSome with
    | some r => .fail r.notAllowed
    | none => .fail notFound

end Route
end Service
end Readiness
