import Mathlib.Algebra.Order.BigOperators.Group.List
import Mathlib.Algebra.Order.Ring.Int
import Mathlib.Data.List.Induction
import Readiness.AccessLog
import Readiness.Proofs.Clock
import Readiness.Proofs.Http.FieldNames

/-!
This module contains what an access record tells: what an application has sent up to the point where it ended or failed,
the state of the connection at that point and the time that it took.
-/

namespace Readiness

/-- A host with a colon is put in brackets. -/
theorem Http.Peer.text_address (host : String) (port : Json) :
    (Peer.address (.str host) port).text = .ok (String.ofList
      ((if ':' ∈ host.toList then '[' :: host.toList ++ [']'] else host.toList) ++ ':' :: port.displayBare)) := by
  have hcolon : Peer.hasColon (.str host) = .ok (decide (':' ∈ host.toList)) :=
    congrArg Except.ok String.contains_char_eq
  unfold text
  dsimp only
  rw [hcolon]
  by_cases h : ':' ∈ host.toList <;> simp [h, bind, Except.bind, pure_eq_ok, Json.displayBare]

theorem Http.Peer.exists_text {peer : Peer} (h : peer = .unknown ∨ ∃ host port, peer = .address (.str host) port) :
    ∃ text, peer.text = .ok text := by
  rcases h with rfl | ⟨host, port, rfl⟩
  . exact ⟨"", rfl⟩
  . exact ⟨_, text_address host port⟩

namespace AccessLog

open Http (Header Bytes Outgoing)

/-- The time between two finite readings is finite in milliseconds too. -/
theorem exists_milliseconds {start stop : Clock} (hstart : start.monotonic.isInfinite = false)
    (hstop : stop.monotonic.isInfinite = false) :
    ∃ s m k, stop.monotonic - start.monotonic = .finite s m
      ∧ (stop.monotonic - start.monotonic) * Double.ofInt 1000 = .finite s k ∧ (m.quanta = 0 → k.quanta = 0) := by
  have hstart := Clock.within_monotonic hstart
  have hstop := Clock.within_monotonic hstop
  have he := secondsExponent_eq
  obtain ⟨s, m, hm, hq⟩ := hstop.sub hstart (by omega)
  obtain ⟨k, hk, hzero⟩ := Double.exists_mul_ofInt s (n := 1000) (f := 10) hq (by decide) (by decide) (by omega)
  refine ⟨s, m, k, hm, ?_, hzero⟩
  rw [hm]
  exact hk

theorem exists_durationMs {start stop : Clock} (hstart : start.monotonic.isInfinite = false)
    (hstop : stop.monotonic.isInfinite = false) : ∃ ms, durationMs start stop = .ok ms := by
  obtain ⟨s, _, k, _, hproduct, _⟩ := exists_milliseconds hstart hstop
  unfold durationMs
  rw [hproduct]
  exact ⟨_, rfl⟩

/-- The starts of responses among the messages, each with its status and fields. -/
def starts (sent : List Outgoing) : List (Int × List Header) :=
  sent.filterMap fun m => match m.content with
    | .start status headers => some (status, headers.getD [])
    | _ => none

theorem starts_append (sent sent' : List Outgoing) : starts (sent ++ sent') = starts sent ++ starts sent' := by
  apply List.filterMap_append

/-- The times that pass in the actions. -/
def times (actions : List Action) : List Int :=
  actions.filterMap fun
    | .advance nanos => some nanos
    | _ => none

/-- What is sent has all fields that it has to have. -/
def Action.WellFormed : Action → Prop
  | .send m => ∀ missing, m.content ≠ .incomplete missing
  | _ => True

theorem idOf_eq {scope : Scope} {noted : Json} (h : scope.requestId = some noted) (o : Outcome) :
    idOf scope o = .ok (if o.requestId = "" then noted else .str o.requestId) := by
  unfold idOf
  rw [h]
  by_cases hid : o.requestId = ""
  . rw [if_pos hid, hid]
    rfl
  . rw [if_neg hid, if_neg (fun hempty => hid (String.isEmpty_iff.mp hempty))]
    rfl

/-- The value of the last field with the given name, in any case; empty if there is none. -/
def lastValue (name : String) (headers : List Header) : String :=
  ((Header.named name headers).getLast?.map (·.value)).getD ""

end AccessLog
end Readiness
