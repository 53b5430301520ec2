import GrallocGbmMesa.Core.AllocateImport
import GrallocGbmMesa.Lib.Rounding

/-!
# Sizes as numbers

What the 32-bit arithmetic on the sizes of a buffer computes, and when it is what the
same arithmetic on numbers computes.
-/

namespace GrallocGbmMesa.Core

open Rounding
open GrallocGbmMesa.Platform

theorem align_toNat {a b : Word} {k : Nat} (power : b.toNat = 2 ^ k) :
    (align a b).toNat = if a.toNat + 2 ^ k ≤ 2 ^ 32 then a.toNat ⌈/⌉ 2 ^ k * 2 ^ k else 0 :=
  toNat_alignUp power

theorem wordMax_toNat (a b : Word) : (wordMax a b).toNat = max a.toNat b.toNat := by
  unfold wordMax
  by_cases larger : a > b
  · rw [if_pos larger, Nat.max_eq_left (Nat.le_of_lt larger)]
  · have smaller : a.toNat ≤ b.toNat := Nat.not_lt.mp larger
    rw [if_neg larger, Nat.max_eq_right smaller]

/-! ## Cursors -/

/-- The padding of a cursor, without a bound. -/
def cursorExtent (size : Nat) : Nat := max size 64 ⌈/⌉ 16 * 16

theorem cursorSize_toNat (size : Word) :
    (cursorSize size).toNat =
      if size.toNat + 16 ≤ 2 ^ 32 then cursorExtent size.toNat else 0 := by
  have least : (64 : Word).toNat = 64 := rfl
  have room : max size.toNat 64 + 2 ^ 4 ≤ 2 ^ 32 ↔ size.toNat + 16 ≤ 2 ^ 32 := by omega
  unfold cursorSize
  rw [align_toNat (show (16 : Word).toNat = 2 ^ 4 by rfl), wordMax_toNat, least]
  exact if_congr room rfl rfl

/-- A padded size is no less than the size, no less than 64 and a multiple of 16. -/
theorem cursorExtent_bounds (size : Nat) :
    size ≤ cursorExtent size ∧ 64 ≤ cursorExtent size ∧ 16 ∣ cursorExtent size := by
  have covers := le_ceilDiv_mul (max size 64) (show 0 < 16 by decide)
  exact ⟨Nat.le_trans (Nat.le_max_left ..) covers, Nat.le_trans (Nat.le_max_right ..) covers,
    Nat.dvd_mul_left ..⟩

theorem cursorSize_eq_extent_iff (size : Word) :
    (cursorSize size).toNat = cursorExtent size.toNat ↔ size.toNat + 16 ≤ 2 ^ 32 := by
  rw [cursorSize_toNat]
  by_cases room : size.toNat + 16 ≤ 2 ^ 32
  · rw [if_pos room]
    exact iff_of_true rfl room
  · rw [if_neg room]
    have bounds := cursorExtent_bounds size.toNat
    exact iff_of_false (by omega) room

/-! ## Planes below each other -/

theorem planarWidth_toNat (width : Word) :
    (align width 32 / 2).toNat =
      if width.toNat + 32 ≤ 2 ^ 32 then width.toNat ⌈/⌉ 32 * 32 / 2 else 0 := by
  have aligned := align_toNat (a := width) (show (32 : Word).toNat = 2 ^ 5 by rfl)
  rw [BitVec.toNat_udiv, aligned]
  by_cases room : width.toNat + 32 ≤ 2 ^ 32
  · rw [if_pos room, if_pos (show width.toNat + 2 ^ 5 ≤ 2 ^ 32 from room)]
    rfl
  · rw [if_neg room, if_neg (show ¬ width.toNat + 2 ^ 5 ≤ 2 ^ 32 from room)]
    rfl

/-- The planes of a height that is small enough are below each other. -/
theorem planarHeight_toNat {height : Word} (room : 3 * height.toNat < 2 ^ 33) :
    (height + align height 2 / 2).toNat = height.toNat + height.toNat ⌈/⌉ 2 := by
  have aligned := align_toNat (a := height) (show (2 : Word).toNat = 2 ^ 1 by rfl)
  have half : height.toNat ⌈/⌉ 2 = (height.toNat + 2 - 1) / 2 := Nat.ceilDiv_eq_add_pred_div ..
  have two : (2 : Word).toNat = 2 := rfl
  rw [BitVec.toNat_add, BitVec.toNat_udiv, aligned, if_pos (by omega), two, pow_one,
    Nat.mul_div_cancel _ (by decide), Nat.mod_eq_of_lt (by omega)]

end GrallocGbmMesa.Core
