import Mathlib.Algebra.Order.Ring.Int
import Mathlib.Data.List.Basic
import Readiness.Proofs.Gate.Outline

/-!
This module contains the timers that a gate starts over its life and what holds of a gate however it is used: every
reset takes the next generation and starts the one timer tagged with it, and a gate without a delay is achieved and
never starts any.
-/

namespace Readiness
namespace Gate

/-- How often the step resets the gate. -/
def Step.resetCount : Step → Nat
  | reset => 1
  | concurrentResets n => n
  | _ => 0

/-- The steps that the step consists of, with one reset each. -/
def Step.parts : Step → List Step
  | concurrentResets n => List.replicate n reset
  | s => [s]

namespace Bench

/-- The timers that a step starts: those that run after it beyond those that ran before. -/
def starts (b : Bench) (s : Step) : List Timer :=
  (b.step s).gate.timers.diff b.gate.timers

def runStarts (b : Bench) : List Step → List Timer
  | [] => []
  | s :: steps => b.starts s ++ runStarts (b.step s) steps

/--
All timers that a gate ever starts, the one of its construction included. Steps are taken apart here, since the timer of
one of many resets may be cancelled by the next.
-/
def issued (delay clock : Double) (works : Bool) (steps : List Step) : List Timer :=
  let b := start delay clock works
  b.gate.timers ++ b.runStarts (steps.flatMap Step.parts)

end Bench

theorem append_diff_of_sublist {α : Type} [DecidableEq α] {before kept new : List α} (hkept : kept.Sublist before)
    (hnew : ∀ a ∈ new, a ∉ before) : (kept ++ new).diff before = new := by
  induction before generalizing kept with
  | nil =>
    rw [List.sublist_nil.mp hkept]
    rfl
  | cons a before ih =>
    have herase : (kept ++ new).erase a = kept.erase a ++ new := by
      have ha : a ∉ new := by
        intro ha
        exact hnew a ha List.mem_cons_self
      rw [List.erase_append, List.erase_of_not_mem ha]
      split
      . rfl
      . next hnot => rw [List.erase_of_not_mem hnot]
    have hrest : (kept.erase a).Sublist before := by
      have := hkept.erase a
      rwa [List.erase_cons_head] at this
    rw [List.diff_cons, herase]
    apply ih hrest
    intro b hb hmem
    exact hnew b hb (List.mem_cons_of_mem a hmem)

theorem diff_eq_nil_of_sublist {α : Type} [DecidableEq α] {before kept : List α} (h : kept.Sublist before) :
    kept.diff before = [] := by
  have hnone : ∀ a ∈ ([] : List α), a ∉ before := by simp
  have := append_diff_of_sublist h hnone
  rwa [List.append_nil] at this

/-- The timer that a reset starts, unless there is no delay. -/
def resetTimers (g : Gate) (now : Double) : List Timer :=
  if g.delay ≤ .zero then [] else [⟨now + g.delay, g.generation + 1⟩]

theorem timers_reset (g : Gate) (now : Double) (works : Bool) :
    (g.reset now works).timers = (g.dropTimer works).timers ++ g.resetTimers now := by
  have hdrop := outline_dropTimer g works
  simp only [outline, Outline.mk.injEq] at hdrop
  unfold reset resetTimers
  dsimp only
  rw [hdrop.1, hdrop.2.1]
  split
  . rw [List.append_nil]
  . rfl

theorem timers_fireDue (g : Gate) (now : Double) : (g.fireDue now).timers = g.timers.filter (¬ ·.due ≤ now) := by
  rw [fireDue_eq]
  split <;> rfl

/-- The gate has this delay, and these are the timers that it has started so far. -/
structure Issued (delay : Double) (log : List Timer) (g : Gate) : Prop where
  sound : g.Sound
  delay_eq : g.delay = delay
  tags : log.map (·.generation) = if delay ≤ .zero then [] else List.range' 1 g.generation
  running : g.timers ⊆ log
  idle : delay ≤ .zero → g.deadline = none

namespace Issued

variable {delay : Double} {log : List Timer} {g : Gate}

theorem start (delay now : Double) : Issued delay (Gate.start delay now).timers (Gate.start delay now) := by
  constructor
  . apply sound_start
  . apply delay_reset
  . unfold Gate.start
    rw [timers_reset, generation_reset]
    by_cases hd : delay ≤ .zero <;> simp [resetTimers, dropTimer, hd]
  . exact List.Subset.refl _
  . intro hd
    unfold Gate.start
    rw [deadline_reset, if_pos hd]

theorem reset (h : Issued delay log g) (now : Double) (works : Bool) :
    Issued delay (log ++ (g.reset now works).timers.diff g.timers) (g.reset now works) := by
  have hkept := timers_dropTimer_sublist g works
  -- a new timer is not one of those that run, as their tags are not above the generation so far
  have hnew : ∀ t ∈ g.resetTimers now, t ∉ g.timers := by
    intro t ht hmem
    have hle := h.sound.tag_le t hmem
    unfold resetTimers at ht
    split at ht
    . cases ht
    . rw [List.mem_singleton.mp ht] at hle
      dsimp only at hle
      omega
  have htimers := timers_reset g now works
  constructor
  . apply sound_reset h.sound
  . rw [delay_reset, h.delay_eq]
  . rw [htimers, append_diff_of_sublist hkept hnew, List.map_append, h.tags, generation_reset, resetTimers, h.delay_eq]
    split
    . rfl
    . simp [List.range'_concat, Nat.add_comm]
  . rw [htimers, append_diff_of_sublist hkept hnew]
    apply List.append_subset.mpr
    constructor
    . exact fun t ht => List.mem_append_left _ (h.running (hkept.subset ht))
    . exact List.subset_append_right _ _
  . intro hd
    rw [deadline_reset, h.delay_eq, if_pos hd]

/-- Whatever happens to a gate apart from resets starts no timers. -/
theorem keep (h : Issued delay log g) {g' : Gate} (hsound : g'.Sound) (hdelay : g'.delay = g.delay)
    (hgeneration : g'.generation = g.generation) (htimers : g'.timers.Sublist g.timers)
    (hdeadline : g.deadline = none → g'.deadline = none) : Issued delay (log ++ g'.timers.diff g.timers) g' := by
  rw [diff_eq_nil_of_sublist htimers, List.append_nil]
  refine ⟨hsound, hdelay.trans h.delay_eq, ?_, ?_, ?_⟩
  . rw [hgeneration]
    exact h.tags
  . exact fun t ht => h.running (htimers.subset ht)
  . exact fun hd => hdeadline (h.idle hd)

theorem fire (h : Issued delay log g) (tag : Int) :
    Issued delay (log ++ (g.fire tag).timers.diff g.timers) (g.fire tag) := by
  have hsound := sound_fire h.sound tag
  unfold Gate.fire at hsound ⊢
  by_cases ht : tag = g.generation
  . simp only [ht, ↓reduceIte] at hsound ⊢
    exact h.keep hsound rfl rfl (List.Sublist.refl _) fun _ => rfl
  . simp only [ht, ↓reduceIte] at hsound ⊢
    exact h.keep hsound rfl rfl (List.Sublist.refl _) id

theorem fireDue (h : Issued delay log g) (now : Double) :
    Issued delay (log ++ (g.fireDue now).timers.diff g.timers) (g.fireDue now) := by
  apply h.keep (sound_fireDue h.sound now) (delay_fireDue g now) (generation_fireDue g now)
  . rw [timers_fireDue]
    exact List.filter_sublist
  . intro hnone
    rw [deadline_fireDue h.sound, hnone]
    rfl

theorem refl (h : Issued delay log g) : Issued delay (log ++ g.timers.diff g.timers) g := by
  exact h.keep h.sound rfl rfl (List.Sublist.refl _) id

theorem step {b : Bench} (h : Issued delay log b.gate) {s : Step} (hs : ∀ n, s ≠ .concurrentResets n) :
    Issued delay (log ++ b.starts s) (b.step s).gate := by
  cases s with
  | reset => exact h.reset b.clock b.cancelWorks
  | advance d => exact h.fireDue (b.clock + d)
  | tick d => exact h.refl
  | fireDue => exact h.fireDue b.clock
  | fire tag => exact h.fire tag
  | cancelWorks on => exact h.refl
  | assignDelay delay => exact h.refl
  | concurrentResets n => exact absurd rfl (hs n)

theorem run (steps : List Step) (hs : ∀ s ∈ steps, ∀ n, s ≠ .concurrentResets n) {log : List Timer} {b : Bench}
    (h : Issued delay log b.gate) : Issued delay (log ++ b.runStarts steps) (b.run steps).gate := by
  induction steps generalizing log b with
  | nil =>
    rw [Bench.runStarts, List.append_nil]
    exact h
  | cons s steps ih =>
    rw [List.forall_mem_cons] at hs
    rw [Bench.runStarts, ← List.append_assoc]
    exact ih hs.2 (h.step hs.1)

end Issued

theorem Step.ne_concurrentResets_of_mem_parts {s t : Step} (h : t ∈ s.parts) (n : Nat) : t ≠ concurrentResets n := by
  cases s with
  | concurrentResets m =>
    rw [List.eq_of_mem_replicate h]
    simp
  | _ =>
    rw [List.mem_singleton.mp h]
    simp

namespace Bench

theorem run_replicate_reset (b : Bench) (n : Nat) : b.run (List.replicate n .reset) = n.repeat reset b := by
  induction n with
  | zero => rfl
  | succ n ih =>
    rw [List.replicate_succ', run_append, ih]
    rfl

theorem run_parts (b : Bench) (s : Step) : b.run s.parts = b.step s := by
  cases s with
  | concurrentResets n => exact run_replicate_reset b n
  | _ => rfl

theorem run_flatMap_parts (b : Bench) (steps : List Step) : b.run (steps.flatMap Step.parts) = b.run steps := by
  induction steps generalizing b with
  | nil => rfl
  | cons s steps ih =>
    rw [List.flatMap_cons, run_append, run_parts, ih]
    rfl

theorem issued_run (delay clock : Double) (works : Bool) (steps : List Step) :
    Issued delay (issued delay clock works steps) ((start delay clock works).run steps).gate := by
  have hparts : ∀ s ∈ steps.flatMap Step.parts, ∀ n, s ≠ .concurrentResets n := by
    intro s hs
    obtain ⟨_, _, hmem⟩ := List.mem_flatMap.mp hs
    exact Step.ne_concurrentResets_of_mem_parts hmem
  have hrun := Issued.run (b := start delay clock works) _ hparts (Issued.start delay clock)
  rwa [run_flatMap_parts] at hrun

theorem generation_step (b : Bench) (s : Step) : (b.step s).gate.generation = b.gate.generation + s.resetCount := by
  cases s with
  | reset => apply generation_reset
  | advance d => apply generation_fireDue
  | tick d => rfl
  | fireDue => apply generation_fireDue
  | fire tag =>
    show (b.gate.fire tag).generation = _
    unfold Gate.fire
    split <;> rfl
  | cancelWorks on => rfl
  | assignDelay delay => rfl
  | concurrentResets n =>
    show (n.repeat reset b).gate.generation = b.gate.generation + n
    induction n with
    | zero => rfl
    | succ n ih =>
      have hreset := generation_reset (n.repeat reset b).gate (n.repeat reset b).clock (n.repeat reset b).cancelWorks
      rw [ih] at hreset
      exact hreset

theorem generation_run (b : Bench) (steps : List Step) :
    (b.run steps).gate.generation = b.gate.generation + (steps.map Step.resetCount).sum := by
  induction steps generalizing b with
  | nil => rfl
  | cons s steps ih =>
    have := ih (b.step s)
    rw [generation_step] at this
    rw [List.map_cons, List.sum_cons, ← Nat.add_assoc]
    exact this

/--
After every run a gate is achieved exactly if it has no deadline, its generation counts the resets and its delay is the
one from its construction. The timers that it has ever started have different tags up to the generation, one for each
reset. Without a delay the gate is achieved and has never started a timer.
-/
theorem gate_representation (delay clock : Double) (works : Bool) (steps : List Step) :
    let b := (start delay clock works).run steps
    let timers := issued delay clock works steps
    (b.gate.achieved = true ↔ b.gate.deadline = none)
      ∧ b.gate.generation = 1 + (steps.map Step.resetCount).sum
      ∧ b.gate.delay = delay
      ∧ (∀ t ∈ timers, 1 ≤ t.generation ∧ t.generation ≤ b.gate.generation)
      ∧ (timers.map (·.generation)).Nodup
      ∧ b.gate.timers ⊆ timers
      ∧ (¬ delay ≤ .zero → timers.length = b.gate.generation)
      ∧ (delay ≤ .zero → b.gate.achieved = true ∧ timers = []) := by
  intro b timers
  have h : Issued delay timers b.gate := issued_run delay clock works steps
  have hachieved : b.gate.achieved = true ↔ b.gate.deadline = none := by
    rw [h.sound.achieved_eq, Option.isNone_iff_eq_none]
  refine ⟨hachieved, ?_, h.delay_eq, ?_, ?_, h.running, ?_, ?_⟩
  . have hstart : (start delay clock works).gate.generation = 1 := by apply generation_reset
    rw [← hstart]
    apply generation_run
  . intro t ht
    have hmem : t.generation ∈ timers.map (·.generation) := List.mem_map_of_mem ht
    rw [h.tags] at hmem
    split at hmem
    . cases hmem
    . rw [List.mem_range'_1] at hmem
      omega
  . rw [h.tags]
    split
    . exact List.nodup_nil
    . exact List.nodup_range' 1
  . intro hd
    have hlength := congrArg List.length h.tags
    rwa [if_neg hd, List.length_map, List.length_range'] at hlength
  . intro hd
    have htags := h.tags
    rw [if_pos hd] at htags
    exact ⟨hachieved.mpr (h.idle hd), List.map_eq_nil_iff.mp htags⟩

/-- Callbacks by hand, of tags that were and were not issued, leave a gate without a delay as it is. -/
theorem gate_representation_no_delay :
    let steps := [.fire 1, .concurrentResets 2, .tick (.ofInt (-5)), .fire 7, .reset]
    let b := (start .zero (.ofInt 1000) false).run steps
    Double.zero ≤ .zero ∧ b.gate.generation = 4 ∧ b.gate.achieved = true
      ∧ issued .zero (.ofInt 1000) false steps = [] := by
  intro steps b
  have hd : Double.zero ≤ .zero := by decide
  obtain ⟨_, hgeneration, _, _, _, _, _, hidle⟩ := gate_representation .zero (.ofInt 1000) false steps
  exact ⟨hd, hgeneration, hidle hd⟩

end Bench
end Gate
end Readiness
