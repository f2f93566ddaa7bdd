import Readiness.Log.Record
import Readiness.Service.Route

/-!
This module contains the routes of the manual, which the service has in debug mode: pages for a browser and a
description of the other routes for tools. Where the manual is, and which routes it describes, is as the service has it;
the texts of the pages and the details of the description are made by a library, and short ones stand in for them.
-/

namespace Readiness
namespace Service
namespace Manual

open Http (Response)

variable {σ : Type}

def respond (mediaType body : String) : Handler σ :=
  .ofExcept ((Response.make 200 [] mediaType body).mapError (.render ∘ .header))

def route (path mediaType body : String) : Route σ where
  pattern := .literal path
  methods := ["GET", "HEAD"]
  summary := none
  tags := []
  handle _ _ := respond mediaType body

/-- The entry of a route: its methods with a summary and tags. -/
def entry? (r : Route σ) : Option (String × Json) :=
  r.summary.map fun summary =>
    let operation := Json.obj [("tags", .arr (r.tags.map .str)), ("summary", .str summary)]
    (r.pattern.text, .obj (r.methods.map fun m => (Text.lowerAscii m, operation)))

/-- Stands in for the description, which has the forms of requests and answers besides. -/
def description (id : Log.Identity) (routes : List (Route σ)) : Json :=
  .obj [
    ("openapi", .str "3.1.0"),
    ("info", .obj [("title", .str id.service), ("version", .str id.version)]),
    ("paths", .obj (routes.filterMap entry?))]

/-- Stands in for a page, which loads a program that shows the description. -/
def page (title : String) : String :=
  "<!DOCTYPE html><html><head><title>" ++ title ++ "</title></head><body></body></html>"

/-- The manual of the given routes. -/
def routes (id : Log.Identity) (described : List (Route σ)) : List (Route σ) :=
  [route "/openapi.json" "application/json" ((description id described).toText Json.compact),
   route "/docs" "text/html; charset=utf-8" (page id.service),
   route "/docs/oauth2-redirect" "text/html; charset=utf-8" (page id.service)]

/-- What a manual is about unless it is told. -/
def anonymous : Log.Identity := ⟨"FastAPI", "0.1.0"⟩

/-- Routes with a manual that was told nothing, which has one page more. -/
def withManual (described : List (Route σ)) : List (Route σ) :=
  routes anonymous described ++ route "/redoc" "text/html; charset=utf-8" (page anonymous.service) :: described

end Manual
end Service
end Readiness
