import Readiness.Json.Parser
import Readiness.Json.Printer

/-!
This module contains the reading of printed strings: in either style every character comes back as it was.
-/

namespace Readiness

namespace Text

theorem hex_one {n : Nat} (h : n < 16) : hex 1 n = [n.digitChar] := by
  unfold hex
  rw [Nat.toDigits_of_lt_base h]
  rfl

theorem hex_succ (width n : Nat) : hex (width + 2) n = hex (width + 1) (n / 16) ++ [(n % 16).digitChar] := by
  unfold hex List.leftpad
  by_cases h : n < 16
  . rw [Nat.toDigits_of_lt_base h, Nat.div_eq_of_lt h, Nat.mod_eq_of_lt h, Nat.toDigits_zero]
    simp only [List.length_singleton, Nat.add_sub_cancel, Nat.add_succ_sub_one]
    rw [List.replicate_succ']
  . rw [Nat.toDigits_of_base_le (by omega) (by omega), List.length_append, List.length_singleton]
    rw [Nat.add_sub_add_right (width + 1) 1, List.append_assoc]

theorem hex_four {n : Nat} (h : n < 0x10000) :
    hex 4 n =
      [(n / 4096).digitChar, (n / 256 % 16).digitChar, (n / 16 % 16).digitChar, (n % 16).digitChar] := by
  rw [hex_succ, hex_succ, hex_succ, hex_one (by omega)]
  simp [Nat.div_div_eq_div_mul]

end Text

namespace Json
namespace Parser

theorem hexDigit?_digitChar : ∀ n < 16, hexDigit? n.digitChar = some n := by
  decide

theorem exists_unitEscape {n : Nat} (h : n < 0x10000) :
    ∃ a b c d, unitEscape n = ['\\', 'u', a, b, c, d] ∧ unit? a b c d = some n := by
  unfold unitEscape
  rw [Text.hex_four h]
  refine ⟨_, _, _, _, rfl, ?_⟩
  unfold unit?
  rw [hexDigit?_digitChar _ (by omega), hexDigit?_digitChar _ (by omega), hexDigit?_digitChar _ (by omega),
    hexDigit?_digitChar _ (by omega)]
  have : ((n / 4096 * 16 + n / 256 % 16) * 16 + n / 16 % 16) * 16 + n % 16 = n := by omega
  simp only [Option.bind_eq_bind, Option.bind_some, Option.pure_def, this]

theorem character?_unitEscape {n : Nat} (h : n < 0x10000) (rest : List Char) :
    character? (unitEscape n ++ rest) = some (ofUnit n rest) := by
  obtain ⟨a, b, c, d, hescape, hunit⟩ := exists_unitEscape h
  rw [hescape]
  simp only [List.cons_append, List.nil_append, character?]
  rw [hunit]
  rfl

theorem lowSurrogate?_unitEscape {n : Nat} (h : 0xDC00 ≤ n ∧ n < 0xE000) (rest : List Char) :
    lowSurrogate? (unitEscape n ++ rest) = some (n, rest) := by
  obtain ⟨a, b, c, d, hescape, hunit⟩ := exists_unitEscape (n := n) (by omega)
  rw [hescape]
  simp only [List.cons_append, List.nil_append, lowSurrogate?]
  rw [hunit]
  simp only [h, and_self, ↓reduceIte]

theorem toNat_cases (c : Char) : c.toNat < 0xD800 ∨ 0xDFFF < c.toNat ∧ c.toNat < 0x110000 := by
  exact c.valid

theorem character?_unicodeEscape (c : Char) (rest : List Char) :
    character? (unicodeEscape c.toNat ++ rest) = some (c, rest) := by
  have hc := toNat_cases c
  have hback := Char.ofNat_toNat c
  generalize c.toNat = n at hc hback
  subst hback
  unfold unicodeEscape
  split
  . next h =>
    rw [character?_unitEscape h]
    unfold ofUnit
    rw [if_neg (by omega), if_neg (by omega)]
  . next h =>
    rw [List.append_assoc, character?_unitEscape (by omega)]
    unfold ofUnit
    rw [if_pos (by omega), lowSurrogate?_unitEscape (by omega)]
    have : 0x10000 + (0xD800 + (n - 0x10000) / 0x400 - 0xD800) * 0x400
        + (0xDC00 + (n - 0x10000) % 0x400 - 0xDC00) = n := by omega
    simp only [ofSurrogates, this]

theorem character?_letter {l : Char} (h : l ≠ 'u') (rest : List Char) :
    character? ('\\' :: l :: rest) = (unletter? l).map (·, rest) := by
  unfold character?
  split
  . next heq =>
    cases heq
    exact absurd rfl h
  . next heq =>
    cases heq
    rfl
  . next heq => cases heq
  . next hne _ heq =>
    cases heq
    exact (hne _ _ rfl rfl).elim
  . next heq => cases heq

theorem character?_plain {c : Char} (hc : c ≠ '\\') (hspace : ¬ c.toNat < 0x20) (rest : List Char) :
    character? (c :: rest) = some (c, rest) := by
  unfold character?
  split
  . next heq =>
    cases heq
    exact absurd rfl hc
  . next heq =>
    cases heq
    exact absurd rfl hc
  . next heq =>
    cases heq
    exact absurd rfl hc
  . next heq =>
    cases heq
    rw [if_neg hspace]
  . next heq => cases heq

theorem unletter?_of_letterEscape? {c l : Char} (h : letterEscape? c = some l) : l ≠ 'u' ∧ unletter? l = some c := by
  unfold letterEscape? at h
  repeat' split at h
  all_goals first
    | cases h
      subst_vars
      decide
    | cases h

theorem character?_renderChar (ascii : Bool) (c : Char) (rest : List Char) :
    character? (renderChar ascii c ++ rest) = some (c, rest) := by
  unfold renderChar
  cases hl : letterEscape? c with
  | some l =>
    obtain ⟨hu, hletter⟩ := unletter?_of_letterEscape? hl
    simp only [List.cons_append, List.nil_append]
    rw [character?_letter hu, hletter]
    rfl
  | none =>
    dsimp only
    split
    . apply character?_unicodeEscape c rest
    . next h =>
      have hc : c ≠ '\\' := by
        rintro rfl
        cases hl
      apply character?_plain hc
      simp only [Bool.or_eq_true, decide_eq_true_eq] at h
      omega

theorem head?_unicodeEscape (n : Nat) (rest : List Char) : (unicodeEscape n ++ rest).head? = some '\\' := by
  unfold unicodeEscape
  split <;> rfl

theorem head?_renderChar (ascii : Bool) (c : Char) (rest : List Char) :
    (renderChar ascii c ++ rest).head? ≠ some '"' := by
  unfold renderChar
  cases hl : letterEscape? c with
  | some l => simp
  | none =>
    dsimp only
    split
    . rw [head?_unicodeEscape]
      decide
    . have hc : c ≠ '"' := by
        rintro rfl
        cases hl
      simpa using hc

theorem string?_of_character? {l r : List Char} {c : Char} (hq : l.head? ≠ some '"') (h : character? l = some (c, r)) :
    string? l = (string? r).map fun (s, r) => (c :: s, r) := by
  rw [string?, if_neg hq]
  split
  . next hnone =>
    rw [h] at hnone
    cases hnone
  . next hsome =>
    rw [h] at hsome
    cases hsome
    rfl

theorem string?_renderChars (ascii : Bool) (cs rest : List Char) :
    string? (cs.flatMap (renderChar ascii) ++ '"' :: rest) = some (cs, rest) := by
  induction cs with
  | nil =>
    rw [string?, if_pos (by rfl)]
    rfl
  | cons c cs ih =>
    rw [List.flatMap_cons, List.append_assoc]
    rw [string?_of_character? (head?_renderChar ascii c _) (character?_renderChar ascii c _), ih]
    rfl

end Parser
end Json
end Readiness
