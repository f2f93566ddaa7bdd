import Readiness.Proofs.Http.ErrorFields

/-!
This module contains where the answers to failures end. A client that keeps its connection open finds the end of a
response by the status and the length that its fields tell. The answers to failures always have a body, so they end
where they say exactly if their status lets them have one.
-/

namespace Readiness

theorem length_toList_loop (bytes : ByteArray) (i : Nat) (l : List UInt8) :
    (ByteArray.toList.loop bytes i l).length = l.length + (bytes.size - i) := by
  induction i, l using ByteArray.toList.loop.induct bytes with
  | case1 i l h ih =>
    rw [ByteArray.toList.loop, if_pos h, ih, List.length_cons]
    omega
  | case2 i l h =>
    rw [ByteArray.toList.loop, if_neg h, List.length_reverse]
    omega

theorem length_toList (bytes : ByteArray) : bytes.toList.length = bytes.size := by
  unfold ByteArray.toList
  rw [length_toList_loop]
  simp

namespace Http

/-- Responses with this status have no body. -/
def Bodiless (status : Int) : Prop :=
  100 ≤ status ∧ status < 200 ∨ status = 204 ∨ status = 304

instance (status : Int) : Decidable (Bodiless status) :=
  inferInstanceAs (Decidable (_ ∨ _))

/--
The end of a response can be told from its head: it has no body if its status allows none, and otherwise one length,
which is that of the body.
-/
def Framed (status : Int) (headers : List Header) (bytes : Bytes) : Prop :=
  if Bodiless status then bytes = []
  else Header.named "content-length" headers = [⟨"content-length", toString bytes.length⟩]

theorem not_bodiless_of_announcesLength {status : Int} (h : announcesLength status = true) : ¬ Bodiless status := by
  rw [Response.announcesLength_iff] at h
  unfold Bodiless
  omega

namespace Response

theorem named_lengthFields (status : Int) (body : String) :
    Header.named "content-length" (lengthFields status body) = lengthFields status body := by
  have hlower : Text.lowerAscii "content-length" = "content-length" := by
    decide +kernel
  unfold lengthFields
  split
  . rw [Header.named_cons, if_pos hlower]
    rfl
  . rfl

theorem named_typeFields (mediaType : String) (fields : List Header) :
    Header.named "content-length" (typeFields mediaType fields) = [] := by
  have hlower : Text.lowerAscii "content-type" = "content-type" := by
    decide +kernel
  have hne : "content-type" ≠ "content-length" := by
    decide
  unfold typeFields
  split
  . rfl
  . rw [Header.named_cons, hlower, if_neg hne]
    rfl

/-- A response with a body and no length of its own is framed just if it is given the length. -/
theorem framed_iff {status : Int} {fields : List Header} {body : String} (hbody : body ≠ "")
    (hfields : Header.named "content-length" fields = []) (mediaType : String) :
    Framed status (fields ++ lengthFields status body ++ typeFields mediaType fields) body.toUTF8.toList
      ↔ announcesLength status = true := by
  have hnamed : Header.named "content-length" (fields ++ lengthFields status body ++ typeFields mediaType fields)
      = lengthFields status body := by
    rw [Header.named_append, Header.named_append, hfields, named_lengthFields, named_typeFields, List.nil_append,
      List.append_nil]
  have hsize : body.toUTF8.toList.length = body.toUTF8.size := length_toList body.toUTF8
  unfold Framed
  by_cases hlength : announcesLength status = true
  . rw [if_neg (not_bodiless_of_announcesLength hlength), hnamed, lengthFields, if_pos hlength, hsize]
    exact iff_of_true rfl hlength
  . refine iff_of_false ?_ hlength
    -- the body is there where none may be, or there is no length where one has to be
    split
    . intro hempty
      rw [hempty] at hsize
      exact hbody (String.utf8ByteSize_eq_zero_iff.mp hsize.symm)
    . rw [hnamed, lengthFields, if_neg hlength]
      exact (List.cons_ne_nil _ _).symm

/-- The body of the answer to a status. -/
def statusBody (status : Int) (time : String) : String :=
  (Json.obj [("error", .str (errorCode status)), ("time", .str time)]).toText Json.compact

theorem parse?_statusBody (status : Int) (time : String) :
    Json.parse? (statusBody status time) = some (.obj [("error", .str (errorCode status)), ("time", .str time)]) :=
  Json.parse?_toText Json.standard_compact rfl

theorem statusBody_ne_empty (status : Int) (time : String) : statusBody status time ≠ "" := by
  intro hempty
  have hparse := parse?_statusBody status time
  rw [hempty] at hparse
  cases hparse

section

variable {now : Instant} {time : String} (ht : now.text = .ok time) (status : Int) {headers : List Header}

include ht

theorem ofStatus_eq :
    ofStatus status headers now = (make status headers jsonUtf8 (statusBody status time)).mapError RenderError.header :=
  error_eq ht status (errorCode status) "" headers

theorem ofStatus_error {f : Header} (hf : f ∈ headers) (hsend : ¬ f.Sendable) :
    ∃ e, ofStatus status headers now = .error (.header e) := by
  obtain ⟨e, he⟩ := make_error hf (Header.encode_error hsend) status jsonUtf8 (statusBody status time)
  rw [ofStatus_eq ht, he]
  exact ⟨e, rfl⟩

theorem ofStatus_of_sendable (hsend : ∀ f ∈ headers, f.Sendable) (hlength : ∀ f ∈ headers, f.key ≠ "content-length") :
    let fields := headers.map fun f => Header.mk f.key f.value
    let body := statusBody status time
    ofStatus status headers now
      = .ok ⟨status, fields ++ lengthFields status body ++ typeFields jsonUtf8 fields, body⟩ := by
  intro fields body
  have hfields : headers.mapM Header.encode = .ok fields :=
    mapM_eq_map fun f hf => Header.encode_of_sendable (hsend f hf)
  have hnames : ∀ g ∈ fields, g.name ≠ "content-length" := by
    intro g hg
    obtain ⟨f, hf, rfl⟩ := List.mem_map.mp hg
    exact hlength f hf
  rw [ofStatus_eq ht, make_of_no_length hfields hnames]
  rfl

end

/--
The answer to a status, with any fields but a length. It has that status, these fields and a body that tells the code
of the status and the time, also where the status allows no body. So it is framed exactly if the status lets it have a
body and tell its length. There is no answer if the time has no text or a field cannot be sent.
-/
theorem ofStatus_framed (status : Int) {headers : List Header}
    (hlength : ∀ f ∈ headers, f.key ≠ "content-length") (now : Instant) :
    (∀ e, now.text = .error e → ofStatus status headers now = .error (.instant e))
      ∧ ∀ time, now.text = .ok time →
        ((∃ f ∈ headers, ¬ f.Sendable) → ∃ e, ofStatus status headers now = .error (.header e))
        ∧ ((∀ f ∈ headers, f.Sendable) → ∃ r bytes, ofStatus status headers now = .ok r
            ∧ r.messages = [.start status r.headers, .finish bytes]
            ∧ headers.map (fun f => ⟨f.key, f.value⟩) <+: r.headers
            ∧ Json.parse? r.body = some (.obj [("error", .str (errorCode status)), ("time", .str time)])
            ∧ (Framed status r.headers bytes ↔ 200 ≤ status ∧ status ≠ 204 ∧ status ≠ 304)) := by
  constructor
  . intro e he
    exact error_of_text he status (errorCode status) "" headers
  . intro time ht
    constructor
    . rintro ⟨f, hf, hsend⟩
      exact ofStatus_error ht status hf hsend
    . intro hsend
      have hnone : Header.named "content-length" (headers.map fun f => ⟨f.key, f.value⟩) = [] :=
        Header.named_encoded_eq_nil hlength
      refine ⟨_, _, ofStatus_of_sendable ht status hsend hlength, rfl, ?_, parse?_statusBody status time, ?_⟩
      . rw [List.append_assoc]
        apply List.prefix_append
      . rw [← announcesLength_iff]
        exact framed_iff (statusBody_ne_empty status time) hnone jsonUtf8

/-- The name of a field may be beyond Latin-1 if its lower case is not. -/
theorem ofStatus_framed_redirection :
    let headers : List Header := [⟨"Location", "/caf\u00e9"⟩, ⟨"\u212Aept", "1"⟩]
    (∀ f ∈ headers, f.key ≠ "content-length") ∧ ∃ r bytes, ofStatus 307 headers ⟨0⟩ = .ok r
      ∧ r.messages = [.start 307 r.headers, .finish bytes]
      ∧ [⟨"location", "/caf\u00e9"⟩, ⟨"kept", "1"⟩] <+: r.headers ∧ Framed 307 r.headers bytes := by
  intro headers
  have hlength : ∀ f ∈ headers, f.key ≠ "content-length" := by decide +kernel
  have ht : (Instant.mk 0).text = .ok "1970-01-01T00:00:00Z" := by decide +kernel
  obtain ⟨r, bytes, hr, hsent, hfields, _, hframed⟩ :=
    ((ofStatus_framed 307 hlength ⟨0⟩).2 _ ht).2 (by decide +kernel)
  have hkept : headers.map (fun f => Header.mk f.key f.value) = [⟨"location", "/caf\u00e9"⟩, ⟨"kept", "1"⟩] := by
    decide +kernel
  rw [hkept] at hfields
  exact ⟨hlength, r, bytes, hr, hsent, hfields, hframed.mpr (by decide)⟩

/-- The answer to a status without a body has one, and no length. -/
theorem no_content_answer_has_body :
    Bodiless 204 ∧ ofStatus 204 [] ⟨0⟩ = .ok {
      status := 204
      headers := [⟨"content-type", "application/json; charset=utf-8"⟩]
      body := "\x7b\"error\":\"client_error\",\"time\":\"1970-01-01T00:00:00Z\"\x7d" } := by
  decide +kernel

end Response
end Http
end Readiness
