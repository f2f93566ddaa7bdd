import Readiness.Http.Response
import Readiness.Proofs.Except
import Readiness.Proofs.Text.Case

/-!
This module contains the names of header fields as they are sent. They are in lower case, so that fields whose names
differ in case only are one field: giving that field a value leaves it once, with this value.
-/

namespace Readiness
namespace Http
namespace Header

/-- The name of the field is in lower case. -/
def IsLower (h : Header) : Prop :=
  Text.lowerAscii h.name = h.name

/-- The fields with the given name, in any case. -/
def named (name : String) (headers : List Header) : List Header :=
  headers.filter fun h => Text.lowerAscii h.name == name

theorem isLower_encode {h h' : Header} (he : h.encode = .ok h') : h'.IsLower := by
  obtain ⟨_, _, he⟩ := exists_of_bind_ok he
  obtain ⟨_, _, he⟩ := exists_of_bind_ok he
  cases he
  apply Text.lowerAscii_lower

theorem last?_eq (name : String) (headers : List Header) :
    last? name headers = (named name headers).getLast?.map (·.value) := by
  unfold last? named
  rw [← List.head?_filter, List.filter_reverse, List.head?_reverse]

theorem named_cons_of_eq {name : String} {f : Header} (h : Text.lowerAscii f.name = name) (headers : List Header) :
    named name (f :: headers) = f :: named name headers := by
  apply List.filter_cons_of_pos
  exact beq_iff_eq.mpr h

theorem named_cons_of_ne {name : String} {f : Header} (hf : f.IsLower) (h : f.name ≠ name) (headers : List Header) :
    named name (f :: headers) = named name headers := by
  apply List.filter_cons_of_neg
  rw [beq_iff_eq, show Text.lowerAscii f.name = f.name from hf]
  exact h

theorem named_append (name : String) (headers headers' : List Header) :
    named name (headers ++ headers') = named name headers ++ named name headers' :=
  List.filter_append headers headers'

theorem named_eq_nil {name : String} {headers : List Header} (hlower : ∀ f ∈ headers, f.IsLower)
    (h : ∀ f ∈ headers, f.name ≠ name) : named name headers = [] := by
  apply List.filter_eq_nil_iff.mpr
  intro f hf
  rw [beq_iff_eq, show Text.lowerAscii f.name = f.name from hlower f hf]
  exact h f hf

/-- Among names in lower case, the field that is given a value is the only one of its name. -/
theorem named_replace {name : String} (hname : Text.lowerAscii name = name) (value : String) {headers : List Header}
    (h : ∀ f ∈ headers, f.IsLower) : named name (replace name value headers) = [⟨name, value⟩] := by
  have hothers (headers : List Header) (h : ∀ f ∈ headers, f.IsLower) :
      named name (headers.filter (·.name != name)) = [] := by
    apply named_eq_nil
    . exact fun f hf => h f (List.mem_filter.mp hf).1
    . exact fun f hf => bne_iff_ne.mp (List.mem_filter.mp hf).2
  have hkept : Text.lowerAscii (Header.mk name value).name = name := hname
  induction headers with
  | nil => exact named_cons_of_eq hkept []
  | cons f headers ih =>
    rw [List.forall_mem_cons] at h
    unfold replace
    by_cases hf : f.name = name
    . rw [if_pos (beq_iff_eq.mpr hf), named_cons_of_eq hkept, hothers headers h.2]
    . rw [if_neg (fun hb => hf (beq_iff_eq.mp hb)), named_cons_of_ne h.1 hf]
      exact ih h.2

theorem named_cons (name : String) (f : Header) (headers : List Header) :
    named name (f :: headers) =
      if Text.lowerAscii f.name = name then f :: named name headers else named name headers := by
  simp [named, List.filter_cons]

/-- Fields of other names stay when a field is given a value. -/
theorem named_replace_of_ne {name other : String} (h : Text.lowerAscii name ≠ other) (value : String)
    (headers : List Header) : named other (replace name value headers) = named other headers := by
  have hothers (headers : List Header) : named other (headers.filter (·.name != name)) = named other headers := by
    unfold named
    rw [List.filter_filter]
    apply List.filter_congr
    intro f _
    by_cases hf : f.name = name
    . simp [hf, h]
    . simp [hf]
  induction headers with
  | nil =>
    rw [replace, named_cons, if_neg h]
  | cons f headers ih =>
    unfold replace
    by_cases hf : f.name = name
    . rw [if_pos (beq_iff_eq.mpr hf), named_cons, named_cons, if_neg h, if_neg (hf ▸ h), hothers]
    . rw [if_neg (fun hb => hf (beq_iff_eq.mp hb)), named_cons, named_cons, ih]

end Header

/-- The names of all fields are in lower case, as servers ask for. -/
def Response.IsLower (r : Response) : Prop :=
  ∀ h ∈ r.headers, h.IsLower

theorem Response.isLower_make {status : Int} {headers : List Header} {mediaType body : String} {r : Response}
    (h : make status headers mediaType body = .ok r) : r.IsLower := by
  obtain ⟨fields, hfields, h⟩ := exists_of_bind_ok h
  cases h
  intro f hf
  simp only [List.mem_append] at hf
  rcases hf with (hf | hf) | hf
  . obtain ⟨g, _, hg⟩ := exists_of_mem_mapM hfields f hf
    exact Header.isLower_encode hg
  . split at hf
    . rw [List.mem_singleton.mp hf]
      show Text.lowerAscii "content-length" = "content-length"
      decide +kernel
    . cases hf
  . split at hf
    . cases hf
    . rw [List.mem_singleton.mp hf]
      show Text.lowerAscii "content-type" = "content-type"
      decide +kernel

end Http
end Readiness
