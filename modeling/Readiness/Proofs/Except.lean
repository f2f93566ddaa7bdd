/-!
This module contains what is known of computations that can fail once one has succeeded: all of its steps have. And if
one has failed, there is a cause in one of its steps.
-/

namespace Readiness

variable {α β ε δ : Type}

theorem ok_of_mapError {x : Except ε α} {f : ε → δ} {a : α} (h : x.mapError f = .ok a) : x = .ok a := by
  cases x with
  | error e => cases h
  | ok b =>
    cases h
    rfl

theorem exists_of_bind_ok {x : Except ε α} {f : α → Except ε β} {b : β} (h : x >>= f = .ok b) :
    ∃ a, x = .ok a ∧ f a = .ok b := by
  cases x with
  | error e => cases h
  | ok a => exact ⟨a, rfl, h⟩

theorem eq_ok_of_toOption {x : Except ε α} {a : α} (h : x.toOption = some a) : x = .ok a := by
  cases x with
  | error e => cases h
  | ok b =>
    cases h
    rfl

theorem throw_eq_error (e : ε) : (throw e : Except ε α) = .error e :=
  rfl

theorem pure_eq_ok (a : α) : (pure a : Except ε α) = .ok a :=
  rfl

theorem bind_eq_ok_iff {x : Except ε α} {f : α → Except ε β} {b : β} :
    x >>= f = .ok b ↔ ∃ a, x = .ok a ∧ f a = .ok b := by
  constructor
  . exact exists_of_bind_ok
  . rintro ⟨a, rfl, h⟩
    exact h

theorem bind_eq_error_iff {x : Except ε α} {f : α → Except ε β} {e : ε} :
    x >>= f = .error e ↔ x = .error e ∨ ∃ a, x = .ok a ∧ f a = .error e := by
  cases x with
  | error e' => simp [bind, Except.bind]
  | ok a => simp [bind, Except.bind]

theorem mapM_ok {f : α → Except ε β} {as : List α} (h : ∀ a ∈ as, ∃ b, f a = .ok b) : ∃ bs, as.mapM f = .ok bs := by
  induction as with
  | nil => exact ⟨[], rfl⟩
  | cons a as ih =>
    obtain ⟨b, hb⟩ := h a List.mem_cons_self
    obtain ⟨bs, hbs⟩ := ih fun a' ha' => h a' (List.mem_cons_of_mem a ha')
    refine ⟨b :: bs, ?_⟩
    rw [List.mapM_cons, hb, hbs]
    rfl

theorem mapM_error {f : α → Except ε β} {as : List α} {a : α} (ha : a ∈ as) (h : ∃ e, f a = .error e) :
    ∃ e, as.mapM f = .error e := by
  cases has : as.mapM f with
  | error e => exact ⟨e, rfl⟩
  | ok bs =>
    obtain ⟨e, he⟩ := h
    induction as generalizing bs with
    | nil => cases ha
    | cons a' as ih =>
      rw [List.mapM_cons] at has
      obtain ⟨b, hb, has⟩ := exists_of_bind_ok has
      obtain ⟨bs', hbs, _⟩ := exists_of_bind_ok has
      rcases List.mem_cons.mp ha with rfl | ha
      . rw [he] at hb
        cases hb
      . obtain ⟨e', he'⟩ := ih ha bs' hbs
        cases he'

theorem mapM_eq_map {f : α → Except ε β} {g : α → β} {as : List α} (h : ∀ a ∈ as, f a = .ok (g a)) :
    as.mapM f = .ok (as.map g) := by
  induction as with
  | nil => rfl
  | cons a as ih =>
    rw [List.forall_mem_cons] at h
    rw [List.mapM_cons, h.1, ih h.2]
    rfl

theorem exists_of_mem_mapM {f : α → Except ε β} {as : List α} {bs : List β} (h : as.mapM f = .ok bs) :
    ∀ b ∈ bs, ∃ a ∈ as, f a = .ok b := by
  induction as generalizing bs with
  | nil =>
    cases h
    exact fun b hb => absurd hb List.not_mem_nil
  | cons a as ih =>
    rw [List.mapM_cons] at h
    obtain ⟨b, hb, h⟩ := exists_of_bind_ok h
    obtain ⟨bs', hbs, h⟩ := exists_of_bind_ok h
    cases h
    rw [List.forall_mem_cons]
    refine ⟨⟨a, List.mem_cons_self, hb⟩, ?_⟩
    intro b' hb'
    obtain ⟨a', ha', hb'⟩ := ih hbs b' hb'
    exact ⟨a', List.mem_cons_of_mem a ha', hb'⟩

/-- A failure is a cause that there is, and there is none of them after a success. -/
structure Explains (x : Except ε α) (Cause : ε → Prop) : Prop where
  error : ∀ e, x = .error e → Cause e
  ok : ∀ a, x = .ok a → ∀ e, ¬ Cause e

theorem Explains.congr {x : Except ε α} {P Q : ε → Prop} (h : Explains x P) (hpq : ∀ e, P e ↔ Q e) : Explains x Q where
  error e he := (hpq e).mp (h.error e he)
  ok a ha e he := h.ok a ha e ((hpq e).mpr he)

/-- More causes do not matter if none of them comes alone. -/
theorem Explains.weaken {x : Except ε α} {P Q : ε → Prop} (h : Explains x P) (hpq : ∀ e, P e → Q e)
    (hqp : ∀ e, Q e → ∃ e', P e') : Explains x Q where
  error e he := hpq e (h.error e he)
  ok a ha e he := by
    obtain ⟨e', he'⟩ := hqp e he
    exact h.ok a ha e' he'

theorem explains_ok (a : α) : Explains (.ok a : Except ε α) fun _ => False where
  error := nofun
  ok _ _ _ := id

theorem explains_error (e : ε) : Explains (.error e : Except ε α) (· = e) where
  error := by
    rintro _ ⟨rfl⟩
    rfl
  ok := nofun

theorem explains_guard (p : Prop) [Decidable p] (e : ε) (a : α) :
    Explains (if p then .error e else .ok a) fun e' => p ∧ e' = e := by
  split
  . next h => exact (explains_error e).congr fun e' => by simp [h]
  . next h => exact (explains_ok a).congr fun e' => by simp [h]

theorem Explains.bind {x : Except ε α} {f : α → Except ε β} {P Q : ε → Prop} (h : Explains x P)
    (hf : ∀ a, Explains (f a) Q) : Explains (x >>= f) fun e => P e ∨ Q e where
  error e he := by
    rcases bind_eq_error_iff.mp he with he | ⟨a, _, he⟩
    . exact .inl (h.error e he)
    . exact .inr ((hf a).error e he)
  ok b hb e he := by
    obtain ⟨a, ha, hb⟩ := bind_eq_ok_iff.mp hb
    rcases he with he | he
    . exact h.ok a ha e he
    . exact (hf a).ok b hb e he

theorem Explains.mapError {x : Except ε α} {P : ε → Prop} (h : Explains x P) (f : ε → δ) :
    Explains (x.mapError f) fun d => ∃ e, P e ∧ f e = d where
  error d hd := by
    cases x with
    | error e =>
      cases hd
      exact ⟨e, h.error e rfl, rfl⟩
    | ok a => cases hd
  ok a ha := by
    rintro _ ⟨e, he, _⟩
    exact h.ok a (ok_of_mapError ha) e he

theorem explains_mapM {f : α → Except ε β} {P : α → ε → Prop} {as : List α} (h : ∀ a ∈ as, Explains (f a) (P a)) :
    Explains (as.mapM f) fun e => ∃ a ∈ as, P a e := by
  induction as with
  | nil => exact (explains_ok []).congr fun e => by simp
  | cons a as ih =>
    rw [List.forall_mem_cons] at h
    rw [List.mapM_cons]
    have hbind := h.1.bind fun b => (ih h.2).bind fun bs => explains_ok (b :: bs)
    exact hbind.congr fun e => by simp

theorem explains_forM {f : α → Except ε PUnit} {P : α → ε → Prop} {as : List α} (h : ∀ a ∈ as, Explains (f a) (P a)) :
    Explains (as.forM f) fun e => ∃ a ∈ as, P a e := by
  induction as with
  | nil => exact (explains_ok ()).congr fun e => by simp
  | cons a as ih =>
    rw [List.forall_mem_cons] at h
    have hbind := h.1.bind fun _ => ih h.2
    exact hbind.congr fun e => by simp

end Readiness
