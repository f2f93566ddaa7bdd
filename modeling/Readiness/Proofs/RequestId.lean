import Mathlib.Algebra.Order.Ring.Nat
import Mathlib.Data.List.DropRight
import Readiness.Proofs.Text.Latin1
import Readiness.RequestId

/-!
This module contains what request ids keep of the bytes they were made from: all of them, so that different bytes make
different ids. An id is the text of its bytes in base 64 without the equals signs at its end, of which there are none
for the number of bytes that are drawn. It also contains that every character of an id can stand in a header field.
-/

namespace Readiness

namespace RequestId

theorem unletter?_letter {n : Nat} (h : n < 64) : unletter? (letter n) = some n := by
  revert n
  decide

/-- The characters of URL-safe base 64. -/
def IsUrlSafe (c : Char) : Prop :=
  'A' ≤ c ∧ c ≤ 'Z' ∨ 'a' ≤ c ∧ c ≤ 'z' ∨ '0' ≤ c ∧ c ≤ '9' ∨ c = '-' ∨ c = '_'

instance (c : Char) : Decidable (IsUrlSafe c) :=
  inferInstanceAs (Decidable (_ ∨ _))

theorem letter_of_le {n : Nat} (h : 63 ≤ n) : letter n = '_' := by
  unfold letter
  rw [if_neg (by omega), if_neg (by omega), if_neg (by omega), if_neg (by omega)]

theorem isUrlSafe_letter (n : Nat) : IsUrlSafe (letter n) := by
  have hsmall : ∀ k < 63, IsUrlSafe (letter k) := by decide
  by_cases h : n < 63
  . exact hsmall n h
  . rw [letter_of_le (by omega)]
    decide

theorem IsUrlSafe.isLatin1 {c : Char} (h : IsUrlSafe c) : Text.isLatin1 c = true := by
  have hle (d : Char) (hd : d.toNat < 256) (hc : c ≤ d) : c.toNat < 256 :=
    Nat.lt_of_le_of_lt hc hd
  unfold Text.isLatin1
  rw [decide_eq_true_iff]
  rcases h with ⟨_, h⟩ | ⟨_, h⟩ | ⟨_, h⟩ | rfl | rfl
  . exact hle 'Z' (by decide) h
  . exact hle 'z' (by decide) h
  . exact hle '9' (by decide) h
  . decide
  . decide

theorem IsUrlSafe.ne_pad {c : Char} (h : IsUrlSafe c) : c ≠ '=' := by
  rintro rfl
  revert h
  decide

theorem decode_encode (bytes : List UInt8) : decode (encode bytes) = some bytes := by
  -- the bytes of a group come back from the six bits that each of its letters holds
  have hbyte (b : UInt8) (n : Nat) (h : n = b.toNat) : UInt8.ofNat n = b := by
    rw [h, UInt8.ofNat_toNat]
  induction bytes using encode.induct with
  | case1 => rfl
  | case2 a =>
    have ha := a.toNat_lt
    rw [encode, decode, unletter?_letter (by omega), unletter?_letter (by omega)]
    simp only [Option.bind_eq_bind, Option.bind_some, Option.pure_def, Option.some.injEq, List.cons.injEq, and_true]
    exact hbyte a _ (by omega)
  | case3 a b =>
    have ha := a.toNat_lt
    have hb := b.toNat_lt
    rw [encode, decode, unletter?_letter (by omega), unletter?_letter (by omega), unletter?_letter (by omega)]
    simp only [Option.bind_eq_bind, Option.bind_some, Option.pure_def, Option.some.injEq, List.cons.injEq, and_true]
    exact ⟨hbyte a _ (by omega), hbyte b _ (by omega)⟩
  | case4 a b c r ih =>
    have ha := a.toNat_lt
    have hb := b.toNat_lt
    have hc := c.toNat_lt
    rw [encode, decode, unletter?_letter (by omega), unletter?_letter (by omega), unletter?_letter (by omega),
      unletter?_letter (by omega), ih]
    simp only [Option.bind_eq_bind, Option.bind_some, Option.pure_def, Option.some.injEq, List.cons.injEq, and_true]
    exact ⟨hbyte a _ (by omega), hbyte b _ (by omega), hbyte c _ (by omega)⟩

theorem ofBytes_inj {a b : List UInt8} (h : ofBytes a = ofBytes b) : a = b := by
  have hencode := congrArg String.toList h
  unfold ofBytes at hencode
  rw [String.toList_ofList, String.toList_ofList] at hencode
  have hdecode := congrArg decode hencode
  rwa [decode_encode, decode_encode, Option.some.injEq] at hdecode

theorem ofBytes_ne_empty {bytes : List UInt8} (h : bytes ≠ []) : ofBytes bytes ≠ "" := by
  intro hempty
  have : ofBytes bytes = ofBytes [] := hempty
  exact h (ofBytes_inj this)

theorem isUrlSafe_of_mem_encode (bytes : List UInt8) : ∀ c ∈ encode bytes, IsUrlSafe c := by
  induction bytes using encode.induct with
  | case1 => exact fun c hc => absurd hc List.not_mem_nil
  | case2 a =>
    simp only [encode, List.forall_mem_cons]
    exact ⟨isUrlSafe_letter _, isUrlSafe_letter _, fun c hc => absurd hc List.not_mem_nil⟩
  | case3 a b =>
    simp only [encode, List.forall_mem_cons]
    exact ⟨isUrlSafe_letter _, isUrlSafe_letter _, isUrlSafe_letter _, fun c hc => absurd hc List.not_mem_nil⟩
  | case4 a b c r ih =>
    simp only [encode, List.forall_mem_cons]
    exact ⟨isUrlSafe_letter _, isUrlSafe_letter _, isUrlSafe_letter _, isUrlSafe_letter _, ih⟩

theorem checkLatin1_ofBytes (bytes : List UInt8) : Text.checkLatin1 (ofBytes bytes) = .ok () := by
  apply Text.checkLatin1_ok
  unfold Text.IsLatin1 ofBytes
  rw [String.toList_ofList]
  exact fun c hc => (isUrlSafe_of_mem_encode bytes c hc).isLatin1

theorem length_encode (bytes : List UInt8) : (encode bytes).length = (bytes.length * 4 + 2) / 3 := by
  induction bytes using encode.induct with
  | case1 => rfl
  | case2 a => simp [encode]
  | case3 a b => simp [encode]
  | case4 a b c r ih =>
    simp only [encode, List.length_cons]
    omega

/-- A digit of the number that three bytes make in base 64, counted from its end. -/
def sextet (a b c : UInt8) (i : Nat) : Nat :=
  (a.toNat * 65536 + b.toNat * 256 + c.toNat) / 64 ^ i % 64

/--
The text of bytes in base 64, four digits to a group of three bytes. A group at the end that is not full is filled up
with zeros, and digits that hold nothing else are written as equals signs.
-/
def padded : List UInt8 → List Char
  | [] => []
  | [a] => [letter (sextet a 0 0 3), letter (sextet a 0 0 2), '=', '=']
  | [a, b] => [letter (sextet a b 0 3), letter (sextet a b 0 2), letter (sextet a b 0 1), '=']
  | a :: b :: c :: r =>
    letter (sextet a b c 3) :: letter (sextet a b c 2) :: letter (sextet a b c 1) :: letter (sextet a b c 0) :: padded r

/-- The text without the equals signs at its end. -/
def stripPadding (l : List Char) : List Char :=
  l.rdropWhile (· == '=')

section

variable (a b c : UInt8)

theorem sextet_three : sextet a b c 3 = a.toNat / 4 := by
  have ha := a.toNat_lt
  have hb := b.toNat_lt
  have hc := c.toNat_lt
  unfold sextet
  omega

theorem sextet_two : sextet a b c 2 = a.toNat % 4 * 16 + b.toNat / 16 := by
  have hb := b.toNat_lt
  have hc := c.toNat_lt
  unfold sextet
  omega

theorem sextet_one : sextet a b c 1 = b.toNat % 16 * 4 + c.toNat / 64 := by
  have hc := c.toNat_lt
  unfold sextet
  omega

theorem sextet_zero : sextet a b c 0 = c.toNat % 64 := by
  unfold sextet
  omega

end

/-- Only a group at the end that is not full is filled up. -/
theorem padded_eq (bytes : List UInt8) :
    padded bytes = encode bytes ++ List.replicate ((3 - bytes.length % 3) % 3) '=' := by
  -- the zeros that fill up a group add nothing to the digits before them
  induction bytes using encode.induct with
  | case1 => rfl
  | case2 a =>
    rw [padded, encode, sextet_three, sextet_two]
    rfl
  | case3 a b =>
    rw [padded, encode, sextet_three, sextet_two, sextet_one]
    rfl
  | case4 a b c r ih =>
    have hlength : (a :: b :: c :: r).length % 3 = r.length % 3 := by
      simp only [List.length_cons]
      omega
    rw [padded, encode, sextet_three, sextet_two, sextet_one, sextet_zero, ih, hlength]
    rfl

theorem stripPadding_append_replicate {l : List Char} (h : ∀ c ∈ l, c ≠ '=') (n : Nat) :
    stripPadding (l ++ List.replicate n '=') = l := by
  unfold stripPadding
  induction n with
  | zero =>
    rw [List.replicate_zero, List.append_nil, List.rdropWhile_eq_self_iff]
    intro hl
    simpa using h _ (List.getLast_mem hl)
  | succ n ih =>
    rw [List.replicate_succ', ← List.append_assoc, List.rdropWhile_concat_pos _ _ _ (by decide)]
    exact ih

theorem stripPadding_padded (bytes : List UInt8) : stripPadding (padded bytes) = encode bytes := by
  rw [padded_eq]
  apply stripPadding_append_replicate
  exact fun c hc => (isUrlSafe_of_mem_encode bytes c hc).ne_pad

/--
An id has 24 characters, each of them safe in an address. It is what is left of the padded text of its bytes, which is
all of it, and the bytes can be read back from it, so that no other bytes have this id.
-/
theorem ofBytes_keeps_entropy {bytes : List UInt8} (h : bytes.length = entropy) :
    (ofBytes bytes).length = 24
      ∧ (∀ c ∈ (ofBytes bytes).toList, IsUrlSafe c)
      ∧ (ofBytes bytes).toList = stripPadding (padded bytes)
      ∧ stripPadding (padded bytes) = padded bytes
      ∧ decode (ofBytes bytes).toList = some bytes
      ∧ ∀ other, ofBytes other = ofBytes bytes ↔ other = bytes := by
  have hlist : (ofBytes bytes).toList = encode bytes := String.toList_ofList
  refine ⟨?_, ?_, ?_, ?_, ?_, ?_⟩
  . rw [← String.length_toList, hlist, length_encode, h]
    rfl
  . rw [hlist]
    apply isUrlSafe_of_mem_encode
  . rw [hlist, stripPadding_padded]
  . rw [stripPadding_padded, padded_eq, h]
    exact (List.append_nil _).symm
  . rw [hlist, decode_encode]
  . intro other
    exact ⟨ofBytes_inj, congrArg ofBytes⟩

/-- Both characters that ordinary base 64 writes in another way can occur. -/
theorem ofBytes_keeps_entropy_marks :
    let bytes : List UInt8 := [251, 239, 190, 255, 255, 255, 0, 16, 131, 105, 183, 29, 211, 93, 183, 247, 253, 1]
    bytes.length = entropy ∧ ofBytes bytes = "----____ABCDabcd01239_0B" ∧ decode (ofBytes bytes).toList = some bytes
      ∧ ∀ other, ofBytes other = "----____ABCDabcd01239_0B" ↔ other = bytes := by
  intro bytes
  have hlength : bytes.length = entropy := rfl
  have htext : ofBytes bytes = "----____ABCDabcd01239_0B" := by decide +kernel
  obtain ⟨_, _, _, _, hdecode, hinj⟩ := ofBytes_keeps_entropy hlength
  exact ⟨hlength, htext, hdecode, htext ▸ hinj⟩

end RequestId
end Readiness
