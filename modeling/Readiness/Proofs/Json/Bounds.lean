import Readiness.Json.Bounds
import Readiness.Proofs.Except

/-!
This module contains what can keep a value from being written: one of the integers in it, at any depth, or its depth. A
check of the value fails for such a cause only, and it fails if there is one.
-/

namespace Readiness
namespace Json

mutual

/-- The integers in a value, at any depth. -/
def integers : Json → List Int
  | int n => [n]
  | arr items => integersOfItems items
  | obj fields => integersOfFields fields
  | _ => []

def integersOfItems : List Json → List Int
  | [] => []
  | j :: js => integers j ++ integersOfItems js

def integersOfFields : List (String × Json) → List Int
  | [] => []
  | (_, j) :: fs => integers j ++ integersOfFields fs

end

mutual

/-- How deep lists and objects are nested, where an empty one counts as `hollow` levels. -/
def depth (hollow : Nat) : Json → Nat
  | arr [] | obj [] => hollow
  | arr (j :: js) => depthOfItems hollow (j :: js) + 1
  | obj (f :: fs) => depthOfFields hollow (f :: fs) + 1
  | _ => 0

def depthOfItems (hollow : Nat) : List Json → Nat
  | [] => 0
  | j :: js => max (depth hollow j) (depthOfItems hollow js)

def depthOfFields (hollow : Nat) : List (String × Json) → Nat
  | [] => 0
  | (_, j) :: fs => max (depth hollow j) (depthOfFields hollow fs)

end

/-- What keeps values with these integers and of this depth from being written. -/
inductive Hinders (numbers : List Int) (levels room : Nat) : WriteError → Prop where
  | tooLong {n : Int} (hn : n ∈ numbers) (h : 4300 < (Nat.toDigits 10 n.natAbs).length) :
    Hinders numbers levels room .tooLong
  | tooDeep (h : room < levels) : Hinders numbers levels room .tooDeep

section Causes

variable {numbers numbers' : List Int} {levels levels' room : Nat} {e : WriteError}

theorem hinders_tooLong_iff :
    Hinders numbers levels room .tooLong ↔ ∃ n ∈ numbers, 4300 < (Nat.toDigits 10 n.natAbs).length := by
  constructor
  . rintro (⟨hn, h⟩ | _)
    exact ⟨_, hn, h⟩
  . rintro ⟨n, hn, h⟩
    exact .tooLong hn h

theorem hinders_tooDeep_iff : Hinders numbers levels room .tooDeep ↔ room < levels := by
  constructor
  . rintro (_ | h)
    exact h
  . exact .tooDeep

theorem not_hinders_flat : ¬ Hinders [] 0 room e := by
  cases e with
  | tooLong => simp [hinders_tooLong_iff]
  | tooDeep => simp [hinders_tooDeep_iff]

theorem hinders_append_iff : Hinders (numbers ++ numbers') (max levels levels') room e ↔
    Hinders numbers levels room e ∨ Hinders numbers' levels' room e := by
  cases e with
  | tooLong =>
    simp only [hinders_tooLong_iff, List.mem_append]
    grind
  | tooDeep =>
    simp only [hinders_tooDeep_iff]
    omega

theorem hinders_succ_iff (h : room ≠ 0) :
    Hinders numbers (levels + 1) room e ↔ Hinders numbers levels (room - 1) e := by
  cases e with
  | tooLong => simp only [hinders_tooLong_iff]
  | tooDeep =>
    simp only [hinders_tooDeep_iff]
    omega

end Causes

theorem explains_flat (room : Nat) : Explains (.ok ()) (Hinders [] 0 room) :=
  (explains_ok ()).congr fun _ => ⟨False.elim, not_hinders_flat⟩

theorem explains_integer (n : Int) (room : Nat) :
    Explains (if Text.Integer.isWritable n then .ok () else .error .tooLong) (Hinders [n] 0 room) := by
  have hlong : ¬ Text.Integer.isWritable n = true ↔ 4300 < (Nat.toDigits 10 n.natAbs).length := by
    rw [← Nat.not_le]
    exact not_congr decide_eq_true_iff
  rw [← ite_not]
  refine (explains_guard _ _ _).congr fun e => ?_
  cases e with
  | tooLong => simp [hinders_tooLong_iff, hlong]
  | tooDeep => simp [hinders_tooDeep_iff]

theorem explains_hollow (hollow room : Nat) :
    Explains (if room < hollow then .error .tooDeep else .ok ()) (Hinders [] hollow room) := by
  refine (explains_guard _ _ _).congr fun e => ?_
  cases e with
  | tooLong => simp [hinders_tooLong_iff]
  | tooDeep => simp [hinders_tooDeep_iff]

/-- A check one level further in. -/
theorem explains_nested {check : Except WriteError Unit} {numbers : List Int} {levels room : Nat}
    (h : Explains check (Hinders numbers levels (room - 1))) :
    Explains (if room = 0 then .error .tooDeep else check) (Hinders numbers (levels + 1) room) := by
  split
  . next hroom =>
    refine ⟨?_, nofun⟩
    rintro _ ⟨rfl⟩
    exact .tooDeep (hroom ▸ Nat.succ_pos levels)
  . next hroom => exact h.congr fun e => (hinders_succ_iff hroom).symm

/-- One check after the other. -/
theorem explains_both {check check' : Except WriteError Unit} {numbers numbers' : List Int} {levels levels' room : Nat}
    (h : Explains check (Hinders numbers levels room)) (h' : Explains check' (Hinders numbers' levels' room)) :
    Explains (check >>= fun _ => check') (Hinders (numbers ++ numbers') (max levels levels') room) :=
  (h.bind fun _ => h').congr fun _ => hinders_append_iff.symm

mutual

/-- What keeps a value from being written are its integers and its depth. -/
theorem explains_check (hollow room : Nat) (j : Json) :
    Explains (j.check hollow room) (Hinders j.integers (j.depth hollow) room) := by
  match j with
  | null | bool _ | real _ | str _ => exact explains_flat room
  | int n => exact explains_integer n room
  | arr [] | obj [] => exact explains_hollow hollow room
  | arr (j :: js) => exact explains_nested (explains_checkItems hollow (room - 1) (j :: js))
  | obj (f :: fs) => exact explains_nested (explains_checkFields hollow (room - 1) (f :: fs))

theorem explains_checkItems (hollow room : Nat) (js : List Json) :
    Explains (checkItems hollow room js) (Hinders (integersOfItems js) (depthOfItems hollow js) room) := by
  match js with
  | [] => exact explains_flat room
  | j :: js => exact explains_both (explains_check hollow room j) (explains_checkItems hollow room js)

theorem explains_checkFields (hollow room : Nat) (fs : List (String × Json)) :
    Explains (checkFields hollow room fs) (Hinders (integersOfFields fs) (depthOfFields hollow fs) room) := by
  match fs with
  | [] => exact explains_flat room
  | (_, j) :: fs => exact explains_both (explains_check hollow room j) (explains_checkFields hollow room fs)

end

end Json
end Readiness
