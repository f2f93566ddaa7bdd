import Mathlib.Data.List.Nodup
import Readiness.Proofs.Http.Errors
import Readiness.Proofs.Json.RoundTrip
import Readiness.Proofs.Text.Latin1

/-!
This module contains the fields of the answers to failures: those given for them in lower case, the id of the request,
and what is told of the body. Each is there once, unless the id comes on top of a field that is its own but for the case
of its name.
-/

namespace Readiness
namespace Http

namespace Header

/-- The name of the field as it is sent, whatever its case. -/
def key (h : Header) : String :=
  Text.lower h.name

structure IsLatin1 (h : Header) : Prop where
  name : Text.IsLatin1 h.name
  value : Text.IsLatin1 h.value

instance (h : Header) : Decidable h.IsLatin1 :=
  decidable_of_iff (Text.IsLatin1 h.name ∧ Text.IsLatin1 h.value) ⟨fun ⟨n, v⟩ => ⟨n, v⟩, fun ⟨n, v⟩ => ⟨n, v⟩⟩

/-- The field has a form to be sent in, one byte to a character. -/
structure Sendable (h : Header) : Prop where
  name : Text.IsLatin1 h.key
  value : Text.IsLatin1 h.value

instance (h : Header) : Decidable h.Sendable :=
  decidable_of_iff (Text.IsLatin1 h.key ∧ Text.IsLatin1 h.value) ⟨fun ⟨n, v⟩ => ⟨n, v⟩, fun ⟨n, v⟩ => ⟨n, v⟩⟩

theorem IsLatin1.sendable {h : Header} (hlatin : h.IsLatin1) : h.Sendable :=
  ⟨Text.isLatin1_lower hlatin.name, hlatin.value⟩

theorem encode_eq (h : Header) :
    h.encode = (do Text.checkLatin1 h.key; Text.checkLatin1 h.value; return ⟨h.key, h.value⟩) := rfl

theorem encode_of_sendable {h : Header} (hsend : h.Sendable) : h.encode = .ok ⟨h.key, h.value⟩ := by
  rw [encode_eq, Text.checkLatin1_ok hsend.name, Text.checkLatin1_ok hsend.value]
  rfl

theorem encode_error {h : Header} (hsend : ¬ h.Sendable) : ∃ e, h.encode = .error e := by
  rw [encode_eq]
  by_cases hname : Text.IsLatin1 h.key
  . obtain ⟨e, he⟩ := Text.checkLatin1_error fun hvalue => hsend ⟨hname, hvalue⟩
    rw [Text.checkLatin1_ok hname, he]
    exact ⟨e, rfl⟩
  . obtain ⟨e, he⟩ := Text.checkLatin1_error hname
    rw [he]
    exact ⟨e, rfl⟩

theorem named_encoded_eq_nil {name : String} {headers : List Header} (h : ∀ f ∈ headers, f.key ≠ name) :
    named name (headers.map fun f => ⟨f.key, f.value⟩) = [] := by
  apply named_eq_nil
  . intro g hg
    obtain ⟨f, _, rfl⟩ := List.mem_map.mp hg
    apply Text.lowerAscii_lower
  . intro g hg
    obtain ⟨f, hf, rfl⟩ := List.mem_map.mp hg
    exact h f hf

theorem key_encoded {h : Header} (hname : Text.IsLatin1 h.name) (value : String) : key ⟨h.key, value⟩ = h.key :=
  Text.lower_lower hname

/-- A field that is there already keeps its place when it is given a value. -/
theorem put_of_mem {name value : String} {headers : List Header} (h : ∃ f ∈ headers, f.name = name) :
    put name value headers = headers.map fun f => if f.name = name then ⟨name, value⟩ else f := by
  unfold put
  rw [if_pos (by simpa using h)]
  simp only [beq_iff_eq]

theorem put_of_not_mem {name value : String} {headers : List Header} (h : ∀ f ∈ headers, f.name ≠ name) :
    put name value headers = headers ++ [⟨name, value⟩] := by
  unfold put
  rw [if_neg (by simpa using h)]

theorem mem_put_iff {name value : String} {headers : List Header} {g : Header} :
    g ∈ put name value headers ↔ g = ⟨name, value⟩ ∨ g ∈ headers ∧ g.name ≠ name := by
  by_cases h : ∃ f ∈ headers, f.name = name
  . rw [put_of_mem h, List.mem_map]
    constructor
    . rintro ⟨f, hf, rfl⟩
      split
      . exact .inl rfl
      . next hne => exact .inr ⟨hf, hne⟩
    . rintro (rfl | ⟨hg, hne⟩)
      . obtain ⟨f, hf, hname⟩ := h
        exact ⟨f, hf, if_pos hname⟩
      . exact ⟨g, hg, if_neg hne⟩
  . have hne : ∀ f ∈ headers, f.name ≠ name := fun f hf hname => h ⟨f, hf, hname⟩
    rw [put_of_not_mem hne, List.mem_append, List.mem_singleton]
    constructor
    . rintro (hg | rfl)
      . exact .inr ⟨hg, hne g hg⟩
      . exact .inl rfl
    . rintro (rfl | ⟨hg, _⟩)
      . exact .inr rfl
      . exact .inl hg

/-- Giving a field a value makes no second field of a name, unless one is there whose name has another case. -/
theorem nodup_put_iff {name value : String} {headers : List Header} (h : (headers.map key).Nodup) :
    ((put name value headers).map key).Nodup ↔ ∀ f ∈ headers, f.key = Text.lower name → f.name = name := by
  by_cases hmem : ∃ f ∈ headers, f.name = name
  . have hkeys : (put name value headers).map key = headers.map key := by
      rw [put_of_mem hmem, List.map_map]
      apply List.map_congr_left
      intro f _
      by_cases hname : f.name = name
      . simp [key, hname]
      . simp [hname]
    rw [hkeys]
    refine iff_of_true h ?_
    obtain ⟨f, hf, rfl⟩ := hmem
    intro g hg hkey
    rw [List.inj_on_of_nodup_map h hg hf hkey]
  . have hne : ∀ f ∈ headers, f.name ≠ name := fun f hf hname => hmem ⟨f, hf, hname⟩
    rw [put_of_not_mem hne, List.map_append, List.map_singleton, List.nodup_append]
    constructor
    . rintro ⟨_, _, hapart⟩ f hf hkey
      exact absurd hkey (hapart _ (List.mem_map_of_mem hf) _ (List.mem_singleton_self _))
    . intro hspelled
      refine ⟨h, List.nodup_singleton _, ?_⟩
      intro k hk k' hk' heq
      obtain ⟨f, hf, rfl⟩ := List.mem_map.mp hk
      rw [List.mem_singleton] at hk'
      exact hne f hf (hspelled f hf (heq.trans hk'))

end Header

namespace Response

open Header (key)

/-- The length of the body, where the status lets a response tell it. -/
def lengthFields (status : Int) (body : String) : List Header :=
  if announcesLength status then [⟨"content-length", toString body.toUTF8.size⟩] else []

/-- The type of the body, unless the fields tell one. -/
def typeFields (mediaType : String) (fields : List Header) : List Header :=
  if fields.any (·.name == "content-type") then [] else [⟨"content-type", mediaType⟩]

/-- What a response tells of its body. -/
def bodyFields (mediaType body : String) : List Header :=
  [⟨"content-length", toString body.toUTF8.size⟩, ⟨"content-type", mediaType⟩]

theorem make_of_no_length {headers fields : List Header} (hfields : headers.mapM Header.encode = .ok fields)
    (hlength : ∀ f ∈ fields, f.name ≠ "content-length") (status : Int) (mediaType body : String) :
    make status headers mediaType body
      = .ok ⟨status, fields ++ lengthFields status body ++ typeFields mediaType fields, body⟩ := by
  have hnone : (fields.any (·.name == "content-length")) = false := by
    simpa using hlength
  unfold make
  rw [hfields]
  dsimp only [bind, Except.bind]
  simp only [hnone, Bool.not_false, Bool.and_true]
  rfl

theorem make_of_given {status : Int} (hstatus : announcesLength status = true) {headers fields : List Header}
    (hfields : headers.mapM Header.encode = .ok fields)
    (hgiven : ∀ f ∈ fields, f.name ≠ "content-length" ∧ f.name ≠ "content-type") (mediaType body : String) :
    make status headers mediaType body = .ok ⟨status, fields ++ bodyFields mediaType body, body⟩ := by
  have htype : (fields.any (·.name == "content-type")) = false := by
    simpa using fun f hf => (hgiven f hf).2
  rw [make_of_no_length hfields fun f hf => (hgiven f hf).1]
  unfold lengthFields typeFields
  rw [hstatus, htype, List.append_assoc]
  rfl

theorem make_error {headers : List Header} {f : Header} (hf : f ∈ headers) (h : ∃ e, f.encode = .error e)
    (status : Int) (mediaType body : String) : ∃ e, make status headers mediaType body = .error e := by
  obtain ⟨e, he⟩ := mapM_error hf h
  refine ⟨e, ?_⟩
  unfold make
  rw [he]
  rfl

/-- The fields that an answer to a failure is made with. -/
def errorFields (id : String) (headers : List Header) : List Header :=
  if id = "" then headers else Header.put Header.requestId id headers

theorem mem_errorFields_iff {id : String} {headers : List Header} {g : Header} :
    g ∈ errorFields id headers ↔
      id ≠ "" ∧ g = ⟨Header.requestId, id⟩ ∨ g ∈ headers ∧ (id = "" ∨ g.name ≠ Header.requestId) := by
  unfold errorFields
  by_cases hid : id = ""
  . rw [if_pos hid]
    simp [hid]
  . rw [if_neg hid, Header.mem_put_iff]
    simp [hid]

theorem error_eq {now : Instant} {time : String} (ht : now.text = .ok time) (status : Int) (code id : String)
    (headers : List Header) :
    error status code id headers now = (json status (errorFields id headers)
      (.obj [("error", .str code), ("time", .str time)])).mapError RenderError.header := by
  unfold error errorFields
  rw [ht]
  simp only [String.isEmpty_iff]
  rfl

theorem lower_requestId : Text.lower Header.requestId = "x-request-id" := by
  decide +kernel

theorem isLatin1_requestId : Text.IsLatin1 Header.requestId := by
  decide +kernel

theorem announcesLength_iff {status : Int} :
    announcesLength status = true ↔ 200 ≤ status ∧ status ≠ 204 ∧ status ≠ 304 := by
  unfold announcesLength
  simp only [Bool.not_eq_true', Bool.or_eq_false_iff, decide_eq_false_iff_not]
  omega

theorem announcesLength_eq_true {status : Int} (hstatus : 200 ≤ status) (h204 : status ≠ 204) (h304 : status ≠ 304) :
    announcesLength status = true :=
  announcesLength_iff.mpr ⟨hstatus, h204, h304⟩

theorem isLatin1_errorFields {id : String} {headers : List Header} (hlatin : ∀ f ∈ headers, f.IsLatin1)
    (hid : Text.IsLatin1 id) : ∀ f ∈ errorFields id headers, f.IsLatin1 := by
  intro f hf
  rcases mem_errorFields_iff.mp hf with ⟨_, rfl⟩ | ⟨hf, _⟩
  . exact ⟨isLatin1_requestId, hid⟩
  . exact hlatin f hf

theorem nodup_errorFields_iff {id : String} {headers : List Header} (hnames : (headers.map key).Nodup) :
    ((errorFields id headers).map key).Nodup ↔
      id = "" ∨ ∀ f ∈ headers, f.key = "x-request-id" → f.name = Header.requestId := by
  unfold errorFields
  by_cases hid : id = ""
  . simpa [hid] using hnames
  . rw [if_neg hid, Header.nodup_put_iff hnames, lower_requestId]
    simp [hid]

theorem key_ne_of_mem_errorFields {id : String} {headers : List Header}
    (hgiven : ∀ f ∈ headers, f.key ≠ "content-length" ∧ f.key ≠ "content-type") :
    ∀ f ∈ errorFields id headers, f.key ≠ "content-length" ∧ f.key ≠ "content-type" := by
  intro f hf
  rcases mem_errorFields_iff.mp hf with ⟨_, rfl⟩ | ⟨hf, _⟩
  . unfold key
    rw [lower_requestId]
    decide
  . exact hgiven f hf

section

variable {id : String} {headers : List Header} (hlatin : ∀ f ∈ headers, f.IsLatin1) (hid : Text.IsLatin1 id)

include hlatin hid

theorem error_of_given {status : Int} (hstatus : announcesLength status = true)
    (hgiven : ∀ f ∈ headers, f.key ≠ "content-length" ∧ f.key ≠ "content-type") {now : Instant} {time : String}
    (ht : now.text = .ok time) (code : String) :
    let body := (Json.obj [("error", .str code), ("time", .str time)]).toText Json.compact
    error status code id headers now = .ok {
      status
      headers := (errorFields id headers).map (fun f => ⟨f.key, f.value⟩) ++ bodyFields jsonUtf8 body
      body } := by
  intro body
  have hfields : (errorFields id headers).mapM Header.encode
      = .ok ((errorFields id headers).map fun f => ⟨f.key, f.value⟩) :=
    mapM_eq_map fun f hf => Header.encode_of_sendable (isLatin1_errorFields hlatin hid f hf).sendable
  have hnames : ∀ g ∈ (errorFields id headers).map (fun f => Header.mk f.key f.value),
      g.name ≠ "content-length" ∧ g.name ≠ "content-type" := by
    intro g hg
    obtain ⟨f, hf, rfl⟩ := List.mem_map.mp hg
    exact key_ne_of_mem_errorFields hgiven f hf
  rw [error_eq ht]
  unfold json
  rw [make_of_given hstatus hfields hnames]
  rfl

/-- Two fields have one name exactly if two of the given ones have, or the id comes on top of one. -/
theorem nodup_keys_iff (hnames : (headers.map key).Nodup)
    (hgiven : ∀ f ∈ headers, f.key ≠ "content-length" ∧ f.key ≠ "content-type") (mediaType body : String) :
    (((errorFields id headers).map (fun f => Header.mk f.key f.value) ++ bodyFields mediaType body).map key).Nodup ↔
      id = "" ∨ ∀ f ∈ headers, f.key = "x-request-id" → f.name = Header.requestId := by
  have hkeys : ((errorFields id headers).map fun f => Header.mk f.key f.value).map key
      = (errorFields id headers).map key := by
    rw [List.map_map]
    apply List.map_congr_left
    intro f hf
    exact Header.key_encoded (isLatin1_errorFields hlatin hid f hf).name f.value
  have hbody : (bodyFields mediaType body).map key = ["content-length", "content-type"] := by
    have hlower : Text.lower "content-length" = "content-length" ∧ Text.lower "content-type" = "content-type" := by
      decide +kernel
    simp [bodyFields, key, hlower]
  rw [List.map_append, hkeys, hbody, List.nodup_append, ← nodup_errorFields_iff hnames]
  constructor
  . exact fun h => h.1
  . intro h
    refine ⟨h, by decide, ?_⟩
    intro k hk k' hk'
    obtain ⟨f, hf, rfl⟩ := List.mem_map.mp hk
    have hne := key_ne_of_mem_errorFields hgiven f hf
    simp only [List.mem_cons, List.not_mem_nil, or_false] at hk'
    rcases hk' with rfl | rfl
    . exact hne.1
    . exact hne.2

end

theorem error_of_not_isLatin1 {id : String} (hid : ¬ Text.IsLatin1 id) {now : Instant} {time : String}
    (ht : now.text = .ok time) (status : Int) (code : String) (headers : List Header) :
    ∃ e, error status code id headers now = .error (.header e) := by
  have hne : id ≠ "" := by
    rintro rfl
    exact hid (by decide)
  have hmem : ⟨Header.requestId, id⟩ ∈ errorFields id headers := mem_errorFields_iff.mpr (.inl ⟨hne, rfl⟩)
  rw [error_eq ht]
  unfold json
  obtain ⟨e, he⟩ := make_error hmem (Header.encode_error fun hsend => hid hsend.value) status jsonUtf8
    ((Json.obj [("error", .str code), ("time", .str time)]).toText Json.compact)
  rw [he]
  exact ⟨e, rfl⟩

/--
The answer to a failure with fields whose names differ in more than case: it has the given fields, the id unless that is
empty, the length of the body and its type, and nothing else; the body tells the code and the time. No name is there
twice, unless an id comes on top of a given field that is its own but for the case of its name. An id that no field can
hold is refused.
-/
theorem error_well_formed {status : Int} (hstatus : 200 ≤ status) (h204 : status ≠ 204) (h304 : status ≠ 304)
    (code id : String) {headers : List Header} (hlatin : ∀ f ∈ headers, f.IsLatin1)
    (hnames : (headers.map key).Nodup)
    (hgiven : ∀ f ∈ headers, f.key ≠ "content-length" ∧ f.key ≠ "content-type") {now : Instant} {time : String}
    (ht : now.text = .ok time) :
    (Text.IsLatin1 id → ∃ r, error status code id headers now = .ok r ∧ r.status = status
        ∧ Json.parse? r.body = some (.obj [("error", .str code), ("time", .str time)])
        ∧ (∀ g, g ∈ r.headers ↔
            g = ⟨"content-length", toString r.body.toUTF8.size⟩
              ∨ g = ⟨"content-type", "application/json; charset=utf-8"⟩
              ∨ id ≠ "" ∧ g = ⟨"x-request-id", id⟩
              ∨ ∃ f ∈ headers, (id = "" ∨ f.name ≠ Header.requestId) ∧ g = ⟨f.key, f.value⟩)
        ∧ ((r.headers.map key).Nodup ↔
            id = "" ∨ ∀ f ∈ headers, f.key = "x-request-id" → f.name = Header.requestId))
      ∧ (¬ Text.IsLatin1 id → ∃ e, error status code id headers now = .error (.header e)) := by
  constructor
  . intro hid
    have hmade := error_of_given hlatin hid (announcesLength_eq_true hstatus h204 h304) hgiven ht code
    refine ⟨_, hmade, rfl, ?_, ?_, nodup_keys_iff hlatin hid hnames hgiven _ _⟩
    . exact Json.parse?_toText Json.standard_compact rfl
    . intro g
      dsimp only
      rw [List.mem_append, List.mem_map, bodyFields, List.mem_cons, List.mem_singleton]
      constructor
      . rintro (⟨f, hf, rfl⟩ | rfl | rfl)
        . rcases mem_errorFields_iff.mp hf with ⟨hne, rfl⟩ | ⟨hf, hkept⟩
          . unfold key
            rw [lower_requestId]
            exact .inr (.inr (.inl ⟨hne, rfl⟩))
          . exact .inr (.inr (.inr ⟨f, hf, hkept, rfl⟩))
        . exact .inl rfl
        . exact .inr (.inl rfl)
      . rintro (rfl | rfl | ⟨hne, rfl⟩ | ⟨f, hf, hkept, rfl⟩)
        . exact .inr (.inl rfl)
        . exact .inr (.inr rfl)
        . refine .inl ⟨_, mem_errorFields_iff.mpr (.inl ⟨hne, rfl⟩), ?_⟩
          unfold key
          rw [lower_requestId]
        . exact .inl ⟨f, mem_errorFields_iff.mpr (.inr ⟨hf, hkept⟩), rfl⟩
  . intro hid
    exact error_of_not_isLatin1 hid ht status code headers

/-- The id takes the place of a field that is its own. -/
theorem error_well_formed_replaced :
    let headers : List Header := [⟨"X-Request-Id", "old"⟩, ⟨"RETRY-AFTER", "\u00e9"⟩]
    (∀ f ∈ headers, f.IsLatin1) ∧ ∃ r, error 503 "\u4e2d" "new" headers ⟨0⟩ = .ok r ∧ (r.headers.map key).Nodup
      ∧ ⟨"x-request-id", "new"⟩ ∈ r.headers ∧ ⟨"retry-after", "\u00e9"⟩ ∈ r.headers
      ∧ Json.parse? r.body = some (.obj [("error", .str "\u4e2d"), ("time", .str "1970-01-01T00:00:00Z")]) := by
  intro headers
  have hlatin : ∀ f ∈ headers, f.IsLatin1 := by decide +kernel
  have ht : (Instant.mk 0).text = .ok "1970-01-01T00:00:00Z" := by decide +kernel
  have hstatus : (200 : Int) ≤ 503 := by decide
  obtain ⟨r, hr, _, hbody, hfields, hnodup⟩ :=
    (error_well_formed hstatus (by decide) (by decide) "\u4e2d" "new" hlatin (by decide +kernel) (by decide +kernel)
      ht).1 (by decide +kernel)
  refine ⟨hlatin, r, hr, hnodup.mpr (.inr (by decide +kernel)), ?_, ?_, hbody⟩
  . exact (hfields _).mpr (.inr (.inr (.inl ⟨by decide, rfl⟩)))
  . refine (hfields _).mpr (.inr (.inr (.inr ⟨⟨"RETRY-AFTER", "\u00e9"⟩, ?_, .inr (by decide), by decide +kernel⟩)))
    exact List.mem_cons_of_mem _ List.mem_cons_self

/-- A field with another spelling of its name stays beside the id. -/
theorem error_names_id_twice :
    let r := error 500 "internal_error" "AAAA" [⟨"x-request-id", "chosen"⟩] ⟨0⟩
    ((r.toOption.map Response.headers).getD []).filter (·.name = "x-request-id")
      = [⟨"x-request-id", "chosen"⟩, ⟨"x-request-id", "AAAA"⟩] := by
  decide +kernel

end Response
end Http
end Readiness
