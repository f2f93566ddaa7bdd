import Mathlib.Algebra.Order.Ring.Int
import Readiness.Proofs.Service.Passage

/-!
This module contains what comes of reading a request body: it depends on the total size of what arrives and on whether
its last piece arrives, not on how the body is split.
-/

namespace Readiness
namespace Service

open Http (Incoming)
open Http.BodyLimit (Meter)

/-- Nothing of a body comes after the delivery: it is the last piece, or the client is gone. -/
def Delivery.isFinal (d : Delivery) : Bool :=
  match d.message.kind with
  | .request => !d.message.more.getD false
  | .disconnect => true
  | .other _ => false

/-- What arrives of a body: everything up to its last piece, or until the client is gone. -/
def arriving : List Delivery → List Delivery
  | [] => []
  | d :: ds => if d.isFinal then [d] else d :: arriving ds

/-- Whether the last piece of a body arrives. -/
def complete : List Delivery → Bool
  | [] => false
  | d :: ds => if d.isFinal then d.message.kind = .request else complete ds

/-- The number of bytes that arrive of a body. -/
def bodySize (ds : List Delivery) : Nat :=
  ((arriving ds).map (·.message.size)).sum

theorem bodySize_cons (d : Delivery) (ds : List Delivery) :
    bodySize (d :: ds) = d.message.size + if d.isFinal then 0 else bodySize ds := by
  unfold bodySize
  rw [arriving]
  split <;> simp

/-- So many more bytes would be too many for a meter. -/
def Over (meter : Option Meter) (size : Nat) : Prop :=
  ∃ m, meter = some m ∧ m.limit < m.received + size

theorem Over.mono {meter : Option Meter} {a b : Nat} (h : Over meter a) (hab : a ≤ b) : Over meter b := by
  obtain ⟨m, hm, hlt⟩ := h
  exact ⟨m, hm, by omega⟩

/-- More bytes arrive of a body than a limit allows. -/
def Exceeds (limit : Int) (ds : List Delivery) : Prop :=
  0 < limit ∧ limit < bodySize ds

instance (limit : Int) (ds : List Delivery) : Decidable (Exceeds limit ds) :=
  inferInstanceAs (Decidable (_ ∧ _))

theorem over_meter?_iff (limit : Int) (size : Nat) :
    Over (Http.BodyLimit.meter? .http limit) size ↔ 0 < limit ∧ limit < size := by
  unfold Over Http.BodyLimit.meter?
  by_cases h : 0 < limit <;> simp [h]

theorem not_over_meter?_zero (limit : Int) : ¬ Over (Http.BodyLimit.meter? .http limit) 0 := by
  rw [over_meter?_iff]
  omega

theorem read_of_over {meter : Option Meter} {msg : Incoming} (h : ¬ Over meter 0) (ho : Over meter msg.size) :
    ∃ e, (Http.BodyLimit.read meter msg).1 = .error e := by
  obtain ⟨m, rfl, hlt⟩ := ho
  have hreceived : ¬ m.limit < m.received := fun hm => h ⟨m, rfl, by omega⟩
  unfold Http.BodyLimit.read Meter.read
  cases hkind : msg.kind with
  | request =>
    simp only
    rw [if_pos (by omega)]
    exact ⟨_, rfl⟩
  | _ =>
    simp only [Incoming.size, hkind] at hlt
    omega

theorem read_of_not_over {meter : Option Meter} {msg : Incoming} (ho : ¬ Over meter msg.size) :
    ∃ meter', Http.BodyLimit.read meter msg = (.ok msg, meter')
      ∧ ∀ size, Over meter' size ↔ Over meter (msg.size + size) := by
  cases meter with
  | none => exact ⟨none, rfl, by simp [Over]⟩
  | some m =>
    have hle : ¬ m.limit < m.received + msg.size := fun hlt => ho ⟨m, rfl, hlt⟩
    unfold Http.BodyLimit.read Meter.read
    cases hkind : msg.kind with
    | request =>
      simp only
      rw [if_neg (by omega)]
      refine ⟨_, rfl, ?_⟩
      intro size
      simp [Over, Int.add_assoc]
    | _ =>
      refine ⟨_, rfl, ?_⟩
      intro size
      simp [Incoming.size, hkind]

namespace Exchange

variable {σ : Type} (tick : Clock → σ → σ)

theorem meter_await (ex : Exchange σ) (d : Delivery) : (ex.await tick d).meter = ex.meter := by
  unfold await
  cases d.delay <;> rfl

theorem receive_of_over {ex : Exchange σ} {d : Delivery} (rest : List Delivery) (h : ¬ Over ex.meter 0)
    (ho : Over ex.meter d.message.size) : ∃ e, (ex.receive tick d rest).2 = .error e := by
  obtain ⟨e, he⟩ := read_of_over h ho
  refine ⟨e, ?_⟩
  unfold receive
  dsimp only
  rw [meter_await]
  exact he

theorem receive_of_not_over {ex : Exchange σ} {d : Delivery} (rest : List Delivery)
    (ho : ¬ Over ex.meter d.message.size) :
    (ex.receive tick d rest).2 = .ok d.message
      ∧ ∀ size, Over (ex.receive tick d rest).1.meter size ↔ Over ex.meter (d.message.size + size) := by
  obtain ⟨meter', hread, hover⟩ := read_of_not_over ho
  unfold receive
  dsimp only
  rw [meter_await, hread]
  exact ⟨rfl, hover⟩

/-- What reading a body comes to, from a point where `size` bytes have been read of it. -/
structure Reads (ex : Exchange σ) (size : Nat) (ds : List Delivery) (r : Exchange σ × Except Fault Nat) : Prop where
  tooLarge : Over ex.meter (bodySize ds) → ∃ e, r.2 = .error (.tooLarge e)
  cut : ¬ Over ex.meter (bodySize ds) → complete ds = false → r.2 = .error (.defect .disconnected)
  whole : ¬ Over ex.meter (bodySize ds) → complete ds = true →
    r.2 = .ok (size + bodySize ds) ∧ ds = arriving ds ++ r.1.inbox

theorem Reads.more {ex ex' : Exchange σ} {size : Nat} {d : Delivery} {ds : List Delivery}
    {r : Exchange σ × Except Fault Nat} (hfinal : d.isFinal = false)
    (hover : ∀ n, Over ex'.meter n ↔ Over ex.meter (d.message.size + n))
    (h : Reads ex' (size + d.message.size) ds r) : Reads ex size (d :: ds) r := by
  have hsize : bodySize (d :: ds) = d.message.size + bodySize ds := by
    rw [bodySize_cons, hfinal]
    rfl
  constructor
  . rw [hsize, ← hover]
    exact h.tooLarge
  . rw [hsize, ← hover, complete, hfinal]
    exact h.cut
  . rw [hsize, ← hover, complete, hfinal, arriving, hfinal, ← Nat.add_assoc]
    intro hn hc
    obtain ⟨hok, hds⟩ := h.whole hn hc
    refine ⟨hok, ?_⟩
    simp only [Bool.false_eq_true, ↓reduceIte, List.cons_append]
    rw [← hds]

theorem reads_go (ds : List Delivery) (ex : Exchange σ) (size : Nat) (hinbox : ex.inbox = ds) (h : ¬ Over ex.meter 0) :
    Reads ex size ds (drain.go tick ex size ds) := by
  induction ds generalizing ex size with
  | nil =>
    refine ⟨fun ho => absurd ho h, fun _ _ => rfl, fun _ hc => ?_⟩
    cases hc
  | cons d ds ih =>
    have hsize := bodySize_cons d ds
    rw [drain.go]
    by_cases ho : Over ex.meter d.message.size
    . obtain ⟨e, he⟩ := receive_of_over tick ds h ho
      have hover : Over ex.meter (bodySize (d :: ds)) := ho.mono (by omega)
      generalize ex.receive tick d ds = received at he
      obtain ⟨ex', result⟩ := received
      dsimp only at he
      subst he
      exact ⟨fun _ => ⟨e, rfl⟩, fun hn => absurd hover hn, fun hn => absurd hover hn⟩
    . obtain ⟨hok, hover⟩ := receive_of_not_over tick ds ho
      have hinbox' := inbox_receive tick ex d ds
      generalize ex.receive tick d ds = received at hok hover hinbox'
      obtain ⟨ex', result⟩ := received
      dsimp only at hok hover hinbox'
      subst hok
      have hrest (size : Nat) : Reads ex' size ds (drain.go tick ex' size ds) :=
        ih ex' size hinbox' (by rwa [hover 0])
      have hnot (hfinal : d.isFinal = true) : ¬ Over ex.meter (bodySize (d :: ds)) := by
        rw [hsize, hfinal]
        exact ho
      -- the kind of the delivery tells whether more of the body can come
      dsimp only
      cases hkind : d.message.kind with
      | request =>
        cases hm : d.message.more.getD false with
        | true => exact (hrest _).more (by simp [Delivery.isFinal, hkind, hm]) hover
        | false =>
          have hfinal : d.isFinal = true := by simp [Delivery.isFinal, hkind, hm]
          refine ⟨fun hn => absurd hn (hnot hfinal), fun _ hc => ?_, fun _ _ => ?_⟩
          . simp [complete, hfinal, hkind] at hc
          . simp [hsize, hfinal, arriving, hinbox']
      | disconnect =>
        have hfinal : d.isFinal = true := by simp [Delivery.isFinal, hkind]
        refine ⟨fun hn => absurd hn (hnot hfinal), fun _ _ => rfl, fun _ hc => ?_⟩
        simp [complete, hfinal, hkind] at hc
      | other name =>
        have hnone : d.message.size = 0 := by simp [Incoming.size, hkind]
        have hreads := hrest (size + d.message.size)
        rw [hnone, Nat.add_zero] at hreads
        exact Reads.more (by simp [Delivery.isFinal, hkind]) hover (by rwa [hnone])

theorem reads_drain (ex : Exchange σ) (h : ¬ Over ex.meter 0) : Reads ex 0 ex.inbox (ex.drain tick) := by
  apply reads_go tick ex.inbox ex 0 rfl h

end Exchange
end Service
end Readiness
