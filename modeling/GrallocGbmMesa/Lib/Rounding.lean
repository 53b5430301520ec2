import Mathlib.Algebra.Order.Floor.Div

/-!
# Rounding up

When a quotient that is rounded up reaches a number, and when multiplying back
does not exceed what was divided.  On machine words the sum that rounds may wrap
around, and then the quotient is zero.  Alignment clears the low bits of such a sum.
-/

namespace Rounding

variable {a b c : Nat}

theorem le_ceilDiv_iff (positive : 0 < b) (some : 1 ≤ c) :
    c ≤ a ⌈/⌉ b ↔ b * (c - 1) < a := by
  have below : a ⌈/⌉ b ≤ c - 1 ↔ a ≤ b * (c - 1) := ceilDiv_le_iff_le_mul positive
  have above : c ≤ a ⌈/⌉ b ↔ ¬ a ⌈/⌉ b ≤ c - 1 := by omega
  rw [above, below, Nat.not_le]

theorem ceilDiv_mul_le_iff (positive : 0 < b) : a ⌈/⌉ b * b ≤ a ↔ b ∣ a := by
  constructor
  · intro fits
    have covers : a ≤ b * (a ⌈/⌉ b) := (ceilDiv_le_iff_le_mul positive).mp le_rfl
    refine ⟨a ⌈/⌉ b, Nat.le_antisymm covers ?_⟩
    rwa [Nat.mul_comm]
  · rintro ⟨k, rfl⟩
    rw [Nat.mul_comm b k]
    refine Nat.mul_le_mul_right b ((ceilDiv_le_iff_le_mul positive).mpr ?_)
    rw [Nat.mul_comm]

theorem ceilDiv_le (positive : 0 < b) : a ⌈/⌉ b ≤ a :=
  (ceilDiv_le_iff_le_mul positive).mpr (Nat.le_mul_of_pos_left a positive)

/-- A proper divisor makes every number from two on smaller. -/
theorem ceilDiv_eq_self_iff (proper : 2 ≤ b) : a ⌈/⌉ b = a ↔ a ≤ 1 := by
  have positive : 0 < b := by omega
  constructor
  · intro same
    by_contra large
    have shrinks : a ⌈/⌉ b ≤ a - 1 := by
      apply (ceilDiv_le_iff_le_mul positive).mpr
      have double := Nat.mul_le_mul_right (a - 1) proper
      omega
    omega
  · intro small
    have below := ceilDiv_le (a := a) positive
    have reaches := le_ceilDiv_iff (a := a) positive (Nat.le_refl 1)
    rw [Nat.sub_self, Nat.mul_zero] at reaches
    omega

/-- The sum `n + d - 1` on words. -/
theorem toNat_add_sub_one {w : Nat} {n d : BitVec w} (positive : 0 < d.toNat) :
    (n + d - 1#w).toNat = (n.toNat + d.toNat - 1) % 2 ^ w := by
  have hd := d.isLt
  have one : 1 % 2 ^ w = 1 := Nat.mod_eq_of_lt (by omega)
  have shifted : 2 ^ w - 1 + (n.toNat + d.toNat) = 2 ^ w + (n.toNat + d.toNat - 1) := by omega
  rw [BitVec.toNat_sub, BitVec.toNat_add, BitVec.toNat_ofNat, one, Nat.add_mod_mod, shifted,
    Nat.add_mod_left]

/-- The quotient `(n + d - 1) / d` on words. -/
theorem toNat_roundUp {w : Nat} {n d : BitVec w} (positive : 0 < d.toNat) :
    ((n + d - 1#w) / d).toNat =
      if n.toNat + d.toNat ≤ 2 ^ w then n.toNat ⌈/⌉ d.toNat else 0 := by
  have hn := n.isLt
  have hd := d.isLt
  rw [BitVec.toNat_udiv, toNat_add_sub_one positive]
  by_cases fits : n.toNat + d.toNat ≤ 2 ^ w
  · rw [if_pos fits, Nat.mod_eq_of_lt (by omega), Nat.ceilDiv_eq_add_pred_div]
  · rw [if_neg fits, Nat.mod_eq_sub_mod (by omega), Nat.mod_eq_of_lt (by omega)]
    exact Nat.div_eq_of_lt (by omega)

/-- Clearing the low bits of a word. -/
theorem and_not_mask {w : Nat} (x : BitVec w) (k : Nat) :
    x &&& ~~~BitVec.ofNat w (2 ^ k - 1) = (x >>> k) <<< k := by
  apply BitVec.eq_of_getLsbD_eq
  intro i hi
  rw [BitVec.getLsbD_and, BitVec.getLsbD_not, BitVec.getLsbD_ofNat, BitVec.getLsbD_shiftLeft,
    BitVec.getLsbD_ushiftRight, Nat.testBit_two_pow_sub_one]
  by_cases low : i < k
  · simp [low]
  · have back : k + (i - k) = i := by omega
    simp [low, hi, back]

theorem toNat_and_not_mask {w : Nat} (x : BitVec w) (k : Nat) :
    (x &&& ~~~BitVec.ofNat w (2 ^ k - 1)).toNat = x.toNat / 2 ^ k * 2 ^ k := by
  have below : x.toNat / 2 ^ k * 2 ^ k < 2 ^ w :=
    Nat.lt_of_le_of_lt (Nat.div_mul_le_self ..) x.isLt
  rw [and_not_mask, BitVec.toNat_shiftLeft, BitVec.toNat_ushiftRight, Nat.shiftLeft_eq,
    Nat.shiftRight_eq_div_pow, Nat.mod_eq_of_lt below]

/-- The mask of an alignment to a power of two. -/
theorem alignMask {w : Nat} {b : BitVec w} {k : Nat} (power : b.toNat = 2 ^ k) :
    b - 1#w = BitVec.ofNat w (2 ^ k - 1) := by
  have positive := Nat.two_pow_pos k
  have sum := toNat_add_sub_one (n := 0#w) (d := b) (by omega)
  rw [BitVec.zero_add, BitVec.toNat_ofNat, Nat.zero_mod, Nat.zero_add, power] at sum
  apply BitVec.eq_of_toNat_eq
  rw [sum, BitVec.toNat_ofNat]

/-- The alignment `(a + b - 1) & ~(b - 1)` on words, to a power of two. -/
theorem toNat_alignUp {w : Nat} {a b : BitVec w} {k : Nat} (power : b.toNat = 2 ^ k) :
    ((a + b - 1#w) &&& ~~~(b - 1#w)).toNat =
      if a.toNat + 2 ^ k ≤ 2 ^ w then a.toNat ⌈/⌉ 2 ^ k * 2 ^ k else 0 := by
  have positive := Nat.two_pow_pos k
  have ha := a.isLt
  have hb := b.isLt
  rw [alignMask power, toNat_and_not_mask, toNat_add_sub_one (by omega), power]
  by_cases fits : a.toNat + 2 ^ k ≤ 2 ^ w
  · rw [if_pos fits, Nat.mod_eq_of_lt (by omega), Nat.ceilDiv_eq_add_pred_div]
  · rw [if_neg fits, Nat.mod_eq_sub_mod (by omega), Nat.mod_eq_of_lt (by omega),
      Nat.div_eq_of_lt (by omega), Nat.zero_mul]

/-- Rounding up loses nothing. -/
theorem le_ceilDiv_mul (a : Nat) (positive : 0 < b) : a ≤ a ⌈/⌉ b * b := by
  rw [Nat.mul_comm]
  exact (ceilDiv_le_iff_le_mul positive).mp (Nat.le_refl _)

end Rounding
