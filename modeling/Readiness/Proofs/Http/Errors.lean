import Readiness.Proofs.Http.FieldNames
import Readiness.Proofs.Instant.Range

/-!
This module contains the answers to failures, which can be made whenever the time has a text: those to a status that a
handler asks for, and the one to a defect, which tells the id of the request and nothing else.
-/

namespace Readiness

namespace Http
namespace Response

theorem status_make {status : Int} {headers : List Header} {mediaType body : String} {r : Response}
    (h : make status headers mediaType body = .ok r) : r.status = status := by
  obtain ⟨fields, _, h⟩ := exists_of_bind_ok h
  cases h
  rfl

/-- The fields that are added to a response tell of its body only. -/
theorem make_of_encoded {headers fields : List Header} (h : headers.mapM Header.encode = .ok fields) (status : Int)
    (mediaType body : String) :
    ∃ r, make status headers mediaType body = .ok r ∧ r.status = status ∧ r.body = body
      ∧ ∀ name, "content-length" ≠ name → "content-type" ≠ name →
          Header.named name r.headers = Header.named name fields := by
  unfold make
  rw [h]
  refine ⟨_, rfl, rfl, rfl, ?_⟩
  intro name hlength htype
  have hlower : Text.lowerAscii "content-length" = "content-length" ∧ Text.lowerAscii "content-type" = "content-type" := by
    decide +kernel
  unfold Header.named
  dsimp only
  rw [List.filter_append, List.filter_append]
  split <;> split <;> simp [hlower, hlength, htype]

theorem make_of_error {status : Int} {code requestId : String} {headers : List Header} {now : Instant} {r : Response}
    (h : error status code requestId headers now = .ok r) :
    ∃ fields mediaType body, make status fields mediaType body = .ok r := by
  obtain ⟨time, _, h⟩ := exists_of_bind_ok h
  exact ⟨_, _, _, ok_of_mapError h⟩

theorem status_error {status : Int} {code requestId : String} {headers : List Header} {now : Instant} {r : Response}
    (h : error status code requestId headers now = .ok r) : r.status = status := by
  obtain ⟨_, _, _, hmake⟩ := make_of_error h
  exact status_make hmake

theorem isLower_error {status : Int} {code requestId : String} {headers : List Header} {now : Instant} {r : Response}
    (h : error status code requestId headers now = .ok r) : r.IsLower := by
  obtain ⟨_, _, _, hmake⟩ := make_of_error h
  exact isLower_make hmake

theorem encode_requestId {id : String} (h : Text.checkLatin1 id = .ok ()) :
    Header.encode ⟨Header.requestId, id⟩ = .ok ⟨"x-request-id", id⟩ := by
  have hname : Text.lower Header.requestId = "x-request-id" := by
    decide +kernel
  have hlatin : Text.checkLatin1 "x-request-id" = .ok () := rfl
  unfold Header.encode
  dsimp only
  rw [hname, hlatin, h]
  rfl

theorem put_requestId (id : String) : Header.put Header.requestId id [] = [⟨Header.requestId, id⟩] := rfl

theorem error_of_text {now : Instant} {e : Instant.Error} (h : now.text = .error e) (status : Int) (code id : String)
    (headers : List Header) : error status code id headers now = .error (.instant e) := by
  unfold error
  rw [h]
  rfl

/-- What clients are told of a defect. -/
def internalError (id time : String) : Response :=
  let body := (Json.obj [("error", .str "internal_error"), ("time", .str time)]).toText Json.compact
  { status := 500
    headers := [⟨"x-request-id", id⟩, ⟨"content-length", toString body.utf8ByteSize⟩, ⟨"content-type", jsonUtf8⟩]
    body }

section

variable {now : Instant} {time : String} (ht : now.text = .ok time)

include ht

theorem error_ok (status : Int) (code id : String) {headers : List Header}
    (hfields : ∀ f ∈ if id.isEmpty then headers else Header.put Header.requestId id headers,
      ∃ f', f.encode = .ok f') :
    ∃ r, error status code id headers now = .ok r := by
  obtain ⟨fields, hfields⟩ := mapM_ok hfields
  unfold error
  rw [ht]
  dsimp only [Except.mapError, bind, Except.bind]
  unfold json make
  rw [hfields]
  exact ⟨_, rfl⟩

theorem ofStatus_ok (status : Int) {headers : List Header} (hheaders : ∀ f ∈ headers, ∃ f', f.encode = .ok f') :
    ∃ r, ofStatus status headers now = .ok r ∧ r.status = status := by
  obtain ⟨r, hr⟩ := error_ok ht status (errorCode status) "" hheaders
  exact ⟨r, hr, status_error hr⟩

theorem ofStatus_of_encoded {headers fields : List Header} (hfields : headers.mapM Header.encode = .ok fields)
    (status : Int) :
    ∃ r, ofStatus status headers now = .ok r ∧ r.status = status
      ∧ r.body = (Json.obj [("error", .str (errorCode status)), ("time", .str time)]).toText Json.compact
      ∧ ∀ name, "content-length" ≠ name → "content-type" ≠ name →
          Header.named name r.headers = Header.named name fields := by
  let body := (Json.obj [("error", .str (errorCode status)), ("time", .str time)]).toText Json.compact
  obtain ⟨r, hr, hmade⟩ := make_of_encoded hfields status jsonUtf8 body
  refine ⟨r, ?_, hmade⟩
  unfold ofStatus error
  rw [ht]
  show (make status headers jsonUtf8 body).mapError RenderError.header = .ok r
  rw [hr]
  rfl

theorem tooLarge_ok : ∃ r, tooLarge now = .ok r ∧ r.status = 413 := by
  apply ofStatus_ok ht 413
  exact fun f hf => absurd hf List.not_mem_nil

theorem error_internal_ok {id : String} (hlatin : Text.checkLatin1 id = .ok ()) :
    ∃ r, error 500 (errorCode 500) id [] now = .ok r := by
  apply error_ok ht
  split
  . exact fun f hf => absurd hf List.not_mem_nil
  . rw [put_requestId, List.forall_mem_singleton]
    exact ⟨_, encode_requestId hlatin⟩

theorem error_internal {id : String} (hid : id ≠ "") (hlatin : Text.checkLatin1 id = .ok ()) :
    error 500 (errorCode 500) id [] now = .ok (internalError id time) := by
  unfold error
  rw [ht]
  dsimp only [Except.mapError, bind, Except.bind]
  rw [if_neg (by simpa using hid)]
  unfold json make
  rw [put_requestId, List.mapM_cons, encode_requestId hlatin]
  rfl

end

end Response
end Http
end Readiness
