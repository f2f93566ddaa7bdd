import Readiness.Gate.Bench
import Readiness.Proofs.Double.Order

/-!
This module contains gates without timers. The outline of a gate is what can be told of it from outside. A gate is sound
if the timers of its current generation go off at its deadline and at no other time; then every operation does to the
outline what it says here, whichever other timers are running.
-/

namespace Readiness
namespace Gate

structure Outline where
  delay : Double
  generation : Nat
  deadline : Option Double
deriving DecidableEq, Repr

def outline (g : Gate) : Outline :=
  ⟨g.delay, g.generation, g.deadline⟩

namespace Outline

def reset (o : Outline) (now : Double) : Outline :=
  { o with
    generation := o.generation + 1
    deadline := if o.delay ≤ .zero then none else some (now + o.delay) }

/-- The deadline goes once the clock has reached it. -/
def expire (o : Outline) (now : Double) : Outline :=
  { o with deadline := o.deadline.filter (¬ · ≤ now) }

def fire (o : Outline) (tag : Int) : Outline :=
  if tag = o.generation then { o with deadline := none } else o

end Outline

structure Sound (g : Gate) : Prop where
  achieved_eq : g.achieved = g.deadline.isNone
  tag_le : ∀ t ∈ g.timers, t.generation ≤ g.generation
  running : ∀ due, g.deadline = some due → ⟨due, g.generation⟩ ∈ g.timers
  due_eq : ∀ due, g.deadline = some due → ∀ t ∈ g.timers, t.generation = g.generation → t.due = due

@[simp]
theorem outline_generation (g : Gate) : g.outline.generation = g.generation := rfl

theorem timers_dropTimer_sublist (g : Gate) (works : Bool) : (g.dropTimer works).timers.Sublist g.timers := by
  unfold dropTimer
  split
  . exact List.Sublist.refl _
  . dsimp only
    split
    . exact List.filter_sublist
    . exact List.Sublist.refl _

theorem outline_dropTimer (g : Gate) (works : Bool) : (g.dropTimer works).outline = g.outline := by
  unfold dropTimer
  split <;> rfl

theorem outline_reset (g : Gate) (now : Double) (works : Bool) :
    (g.reset now works).outline = g.outline.reset now := by
  have hdrop := outline_dropTimer g works
  rw [← hdrop]
  unfold reset Outline.reset
  dsimp only
  split
  . next h => simp [outline, h]
  . next h => simp [outline, h]

theorem delay_reset (g : Gate) (now : Double) (works : Bool) : (g.reset now works).delay = g.delay := by
  exact congrArg Outline.delay (outline_reset g now works)

theorem generation_reset (g : Gate) (now : Double) (works : Bool) :
    (g.reset now works).generation = g.generation + 1 := by
  exact congrArg Outline.generation (outline_reset g now works)

theorem deadline_reset (g : Gate) (now : Double) (works : Bool) :
    (g.reset now works).deadline = if g.delay ≤ .zero then none else some (now + g.delay) := by
  exact congrArg Outline.deadline (outline_reset g now works)

theorem sound_reset {g : Gate} (h : g.Sound) (now : Double) (works : Bool) : (g.reset now works).Sound := by
  have hdrop := outline_dropTimer g works
  simp only [outline, Outline.mk.injEq] at hdrop
  have htag : ∀ t ∈ (g.dropTimer works).timers, t.generation ≤ (g.dropTimer works).generation := by
    intro t ht
    rw [hdrop.2.1]
    exact h.tag_le t ((timers_dropTimer_sublist g works).subset ht)
  unfold reset
  dsimp only
  split
  . constructor
    . rfl
    . intro t ht
      have := htag t ht
      dsimp only
      omega
    . simp
    . simp
  . constructor
    . rfl
    . intro t ht
      simp only [List.mem_append, List.mem_singleton] at ht
      rcases ht with ht | ht
      . have := htag t ht
        dsimp only
        omega
      . simp [ht]
    . simp
    . -- the timers from before have tags that are too small
      intro due hdue t ht hgen
      simp only [List.mem_append, List.mem_singleton] at ht
      simp only [Option.some.injEq] at hdue
      rcases ht with ht | ht
      . have := htag t ht
        dsimp only at hgen
        omega
      . rw [ht, ← hdue]

theorem sound_start (delay now : Double) : (start delay now).Sound := by
  -- the gate before its first reset is not sound, but nothing is told of it that a reset keeps
  unfold start reset dropTimer
  by_cases hd : delay ≤ .zero
  . simp only [hd, ↓reduceIte]
    constructor <;> simp
  . simp only [hd, ↓reduceIte]
    constructor <;> simp

theorem outline_fire (g : Gate) (tag : Int) : (g.fire tag).outline = g.outline.fire tag := by
  unfold fire Outline.fire
  rw [outline_generation]
  by_cases ht : tag = g.generation <;> simp [ht, outline]

theorem sound_fire {g : Gate} (h : g.Sound) (tag : Int) : (g.fire tag).Sound := by
  unfold fire
  split
  . constructor
    . rfl
    . exact h.tag_le
    . simp
    . simp
  . exact h

theorem foldl_fire (ts : List Timer) (g : Gate) :
    ts.foldl (fun g t => g.fire t.generation) g =
      if ts.any (·.generation = g.generation) then
        { g with achieved := true, deadline := none, handle := none }
      else
        g := by
  -- of timers that go off one after another only one of the current generation tells
  induction ts generalizing g with
  | nil => simp
  | cons t ts ih =>
    rw [List.foldl_cons, ih]
    unfold fire
    by_cases ht : t.generation = g.generation
    . simp [ht]
    . have : ¬ (t.generation : Int) = g.generation := by omega
      simp [ht, this]

/-- Whether a timer of the current generation is due. -/
def isDue (g : Gate) (now : Double) : Bool :=
  g.timers.any fun t => t.due ≤ now ∧ t.generation = g.generation

theorem fireDue_eq (g : Gate) (now : Double) :
    g.fireDue now =
      if g.isDue now then
        { g with achieved := true, deadline := none, handle := none, timers := g.timers.filter (¬ ·.due ≤ now) }
      else
        { g with timers := g.timers.filter (¬ ·.due ≤ now) } := by
  unfold fireDue isDue
  dsimp only
  rw [foldl_fire]
  simp [List.any_filter]

theorem isDue_iff {g : Gate} (h : g.Sound) {due : Double} (hdue : g.deadline = some due) (now : Double) :
    g.isDue now = true ↔ due ≤ now := by
  unfold isDue
  simp only [List.any_eq_true, decide_eq_true_eq]
  constructor
  . rintro ⟨t, ht, hle, hgen⟩
    rwa [← h.due_eq due hdue t ht hgen]
  . intro hle
    exact ⟨_, h.running due hdue, hle, rfl⟩

theorem outline_fireDue {g : Gate} (h : g.Sound) (now : Double) :
    (g.fireDue now).outline = g.outline.expire now := by
  rw [fireDue_eq]
  unfold Outline.expire
  cases hdue : g.deadline with
  | none => split <;> simp [outline, hdue]
  | some due =>
    have := isDue_iff h hdue now
    by_cases hle : due ≤ now <;> simp [outline, hdue, this, hle, Option.filter]

theorem delay_fireDue (g : Gate) (now : Double) : (g.fireDue now).delay = g.delay := by
  rw [fireDue_eq]
  split <;> rfl

theorem generation_fireDue (g : Gate) (now : Double) : (g.fireDue now).generation = g.generation := by
  rw [fireDue_eq]
  split <;> rfl

theorem deadline_fireDue {g : Gate} (h : g.Sound) (now : Double) :
    (g.fireDue now).deadline = g.deadline.filter (¬ · ≤ now) := by
  exact congrArg Outline.deadline (outline_fireDue h now)

theorem sound_fireDue {g : Gate} (h : g.Sound) (now : Double) : (g.fireDue now).Sound := by
  rw [fireDue_eq]
  split
  . constructor
    . rfl
    . intro t ht
      exact h.tag_le t (List.mem_filter.mp ht).1
    . simp
    . simp
  . next hnot =>
    constructor
    . exact h.achieved_eq
    . intro t ht
      exact h.tag_le t (List.mem_filter.mp ht).1
    . intro due hdue
      have := isDue_iff h hdue now
      simp only [List.mem_filter]
      exact ⟨h.running due hdue, by simpa [this] using hnot⟩
    . intro due hdue t ht
      exact h.due_eq due hdue t (List.mem_filter.mp ht).1

namespace Bench

/-- What can be told of a bench from outside. -/
structure Outline where
  gate : Gate.Outline
  clock : Double
deriving DecidableEq, Repr

def outline (b : Bench) : Outline :=
  ⟨b.gate.outline, b.clock⟩

namespace Outline

def reset (o : Outline) : Outline :=
  { o with gate := o.gate.reset o.clock }

def expire (o : Outline) : Outline :=
  { o with gate := o.gate.expire o.clock }

def step (o : Outline) : Step → Outline
  | .reset => o.reset
  | .advance d => { o with clock := o.clock + d }.expire
  | .tick d => { o with clock := o.clock + d }
  | .fireDue => o.expire
  | .fire tag => { o with gate := o.gate.fire tag }
  | .cancelWorks _ => o
  | .assignDelay _ => o
  | .concurrentResets n => n.repeat reset o

end Outline

theorem run_append (b : Bench) (steps steps' : List Step) : b.run (steps ++ steps') = (b.run steps).run steps' := by
  apply List.foldl_append

theorem clock_repeat_reset (b : Bench) (n : Nat) : (n.repeat reset b).clock = b.clock := by
  induction n with
  | zero => rfl
  | succ n ih => exact ih

theorem sound_start (delay clock : Double) (works : Bool) : (start delay clock works).gate.Sound := by
  apply Gate.sound_start

theorem sound_repeat_reset {b : Bench} (h : b.gate.Sound) (n : Nat) : (n.repeat reset b).gate.Sound := by
  induction n with
  | zero => exact h
  | succ n ih => exact sound_reset ih _ _

theorem sound_step {b : Bench} (h : b.gate.Sound) (s : Step) : (b.step s).gate.Sound := by
  cases s with
  | reset => exact sound_reset h _ _
  | advance d => exact sound_fireDue h _
  | tick d => exact h
  | fireDue => exact sound_fireDue h _
  | fire tag => exact sound_fire h tag
  | cancelWorks on => exact h
  | assignDelay delay => exact h
  | concurrentResets n => exact sound_repeat_reset h n

theorem sound_run (steps : List Step) {b : Bench} (h : b.gate.Sound) : (b.run steps).gate.Sound := by
  induction steps generalizing b with
  | nil => exact h
  | cons s steps ih => exact ih (sound_step h s)

theorem outline_reset (b : Bench) : b.reset.outline = b.outline.reset := by
  unfold reset Outline.reset outline
  dsimp only
  rw [Gate.outline_reset]

theorem outline_fireDue {b : Bench} (h : b.gate.Sound) : b.fireDue.outline = b.outline.expire := by
  unfold fireDue Outline.expire outline
  dsimp only
  rw [Gate.outline_fireDue h]

theorem outline_repeat_reset (b : Bench) (n : Nat) :
    (n.repeat reset b).outline = n.repeat Outline.reset b.outline := by
  induction n with
  | zero => rfl
  | succ n ih =>
    simp only [Nat.repeat]
    rw [outline_reset, ih]

theorem outline_step {b : Bench} (h : b.gate.Sound) (s : Step) : (b.step s).outline = b.outline.step s := by
  cases s with
  | reset => exact outline_reset b
  | advance d => exact outline_fireDue (b := { b with clock := b.clock + d }) h
  | tick d => rfl
  | fireDue => exact outline_fireDue h
  | fire tag =>
    unfold step Outline.step outline
    dsimp only
    rw [outline_fire]
  | cancelWorks on => rfl
  | assignDelay delay => rfl
  | concurrentResets n => exact outline_repeat_reset b n

end Bench
end Gate
end Readiness
