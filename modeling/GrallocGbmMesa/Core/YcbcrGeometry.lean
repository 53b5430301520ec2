import GrallocGbmMesa.Core.Runs
import GrallocGbmMesa.Core.Sizes
import GrallocGbmMesa.Core.YcbcrLocks
import GrallocGbmMesa.Lib.Grid
import Mathlib.GroupTheory.GroupAction.Ring
import Mathlib.Tactic.Ring

/-!
# The planes that a lock gives out

Where the samples are that a client reads through `android_ycbcr`, and when they are apart
from each other and inside the mapping.  The offsets are computed again from the words of
the handle, while the BO was sized by other formulas.
-/

namespace GrallocGbmMesa.Core

open Bits Checked Rounding TransitionSystem
open GrallocGbmMesa.Platform

/-! ## Samples -/

/-- The strides and the offsets of the planes. -/
structure PlaneOffsets where
  ystride : ℕ
  cstride : ℕ
  cr : ℕ
  cb : ℕ

/-- What the offsets of an image are over the numbers. -/
def planeOffsets (format : Word) (width height : ℕ) : PlaneOffsets :=
  if format = halPixelFormatYv12 then
    { ystride := width
      cstride := width / 2 ⌈/⌉ 16 * 16
      cr := width * height
      cb := width * height + width / 2 ⌈/⌉ 16 * 16 * height / 2 }
  else
    { ystride := width ⌈/⌉ 16 * 16
      cstride := width ⌈/⌉ 16 * 16
      cr := width ⌈/⌉ 16 * 16 * height
      cb := width ⌈/⌉ 16 * 16 * height + 1 }

/-- Nothing has wrapped around on the way to what a lock gives out. -/
structure OffsetsExact (ycbcr : AndroidYcbcr) (offsets : PlaneOffsets) : Prop where
  ystride : ycbcr.ystride.toNat = offsets.ystride
  cstride : ycbcr.cstride.toNat = offsets.cstride
  cr : ycbcr.cr = ycbcr.y + offsets.cr
  cb : ycbcr.cb = ycbcr.y + offsets.cb

def lumaBytes (ycbcr : AndroidYcbcr) (width height : ℕ) : Set ℕ :=
  Grid.bytes ycbcr.y ycbcr.ystride.toNat 1 width height

def chromaBytes (ycbcr : AndroidYcbcr) (base : Ptr) (width height : ℕ) : Set ℕ :=
  Grid.bytes base ycbcr.cstride.toNat ycbcr.chromaStep.toNat (width ⌈/⌉ 2) (height ⌈/⌉ 2)

/-- The samples of the planes are apart, and inside so many bytes. -/
structure SamplesSound (ycbcr : AndroidYcbcr) (width height size : ℕ) : Prop where
  lumaCr : Disjoint (lumaBytes ycbcr width height) (chromaBytes ycbcr ycbcr.cr width height)
  lumaCb : Disjoint (lumaBytes ycbcr width height) (chromaBytes ycbcr ycbcr.cb width height)
  crCb : Disjoint (chromaBytes ycbcr ycbcr.cr width height)
    (chromaBytes ycbcr ycbcr.cb width height)
  inside : ∀ address, address ∈ lumaBytes ycbcr width height ∨
      address ∈ chromaBytes ycbcr ycbcr.cr width height ∨
      address ∈ chromaBytes ycbcr ycbcr.cb width height →
    ycbcr.y ≤ address ∧ address < ycbcr.y + size

/-! ## Offsets without a bound -/

section Offsets

variable {w h : ℕ}

theorem ceilDiv_two (n : ℕ) : n ⌈/⌉ 2 = (n + 1) / 2 := Nat.ceilDiv_eq_add_pred_div ..

/-- The two chroma planes of a YV12 image are apart. -/
theorem planar_apart_iff (width : 1 ≤ w) (height : 1 ≤ h) :
    w / 2 ⌈/⌉ 16 * 16 * (h ⌈/⌉ 2 - 1) + w ⌈/⌉ 2 ≤ w / 2 ⌈/⌉ 16 * 16 * h / 2 ↔
      (2 ∣ h → w % 32 ≠ 1) ∧ (¬ 2 ∣ h → 2 ≤ w ∧ w ≤ 16) := by
  have quotient : w / 2 ⌈/⌉ 16 = (w / 2 + 15) / 16 := Nat.ceilDiv_eq_add_pred_div ..
  rw [ceilDiv_two, ceilDiv_two, quotient]
  generalize hq : (w / 2 + 15) / 16 = q
  obtain ⟨k, rfl | rfl⟩ : ∃ k, h = 2 * k ∨ h = 2 * k + 1 := ⟨h / 2, by omega⟩
  · have rows : q * 16 * (2 * k) / 2 = q * 16 * (k - 1) + q * 16 := by
      obtain ⟨k, rfl⟩ : ∃ k', k = k' + 1 := ⟨k - 1, by omega⟩
      rw [Nat.add_sub_cancel, ← Nat.mul_succ, Nat.mul_left_comm,
        Nat.mul_div_cancel_left _ (by decide)]
    have last : (2 * k + 1) / 2 - 1 = k - 1 := by omega
    rw [rows, last]
    omega
  · have rows : q * 16 * (2 * k + 1) / 2 = q * 16 * k + q * 8 := by
      have double : q * 16 * (2 * k + 1) = 2 * (q * 16 * k + q * 8) := by ring
      rw [double, Nat.mul_div_cancel_left _ (by decide)]
    have last : (2 * k + 1 + 1) / 2 - 1 = k := by omega
    rw [rows, last]
    omega

/-- A YV12 image has room in the rows that its BO has. -/
theorem planar_room : w * h + w / 2 ⌈/⌉ 16 * 16 * h ≤ w ⌈/⌉ 32 * 32 * (h + h ⌈/⌉ 2) := by
  have covers := le_ceilDiv_mul w (show 0 < 32 by decide)
  have half : 2 * (w / 2 ⌈/⌉ 16 * 16) ≤ w ⌈/⌉ 32 * 32 := by
    have quotient : w / 2 ⌈/⌉ 16 = (w / 2 + 15) / 16 := Nat.ceilDiv_eq_add_pred_div ..
    have quotient' : w ⌈/⌉ 32 = (w + 31) / 32 := Nat.ceilDiv_eq_add_pred_div ..
    rw [quotient, quotient']
    omega
  have rows : h ≤ 2 * (h ⌈/⌉ 2) := by
    rw [ceilDiv_two]
    omega
  calc w * h + w / 2 ⌈/⌉ 16 * 16 * h
      ≤ w ⌈/⌉ 32 * 32 * h + w / 2 ⌈/⌉ 16 * 16 * (2 * (h ⌈/⌉ 2)) :=
        Nat.add_le_add (Nat.mul_le_mul_right h covers) (Nat.mul_le_mul_left _ rows)
    _ = w ⌈/⌉ 32 * 32 * h + 2 * (w / 2 ⌈/⌉ 16 * 16) * (h ⌈/⌉ 2) := by ring
    _ ≤ w ⌈/⌉ 32 * 32 * h + w ⌈/⌉ 32 * 32 * (h ⌈/⌉ 2) :=
        Nat.add_le_add_left (Nat.mul_le_mul_right _ half) _
    _ = w ⌈/⌉ 32 * 32 * (h + h ⌈/⌉ 2) := (Nat.mul_add ..).symm

end Offsets

/-! ## Offsets on words -/

section Words

variable {x y width height : Word} {n : ℕ}

/-- A stride survives its way through `int` if it is not negative there. -/
theorem toNat_signExtend_eq_iff (small : n < 2 ^ 63) :
    (x.signExtend 64).toNat = n ↔ x.toNat = n ∧ n < 2 ^ 31 := by
  have below := x.isLt
  have wide : (x.setWidth 64).toNat = x.toNat := by
    rw [BitVec.toNat_setWidth, Nat.mod_eq_of_lt (by omega)]
  rw [BitVec.toNat_signExtend, wide, BitVec.msb_eq_decide]
  by_cases negative : 2 ^ 31 ≤ x.toNat
  · rw [if_pos (by simpa using negative)]
    omega
  · rw [if_neg (by simpa using negative)]
    omega

theorem toNat_signExtend_of_small (small : x.toNat < 2 ^ 31) :
    (x.signExtend 64).toNat = x.toNat :=
  (toNat_signExtend_eq_iff (by omega)).mpr ⟨rfl, small⟩

theorem mul_exact_iff : (x * y).toNat = x.toNat * y.toNat ↔ x.toNat * y.toNat < 2 ^ 32 := by
  rw [BitVec.toNat_mul]
  constructor
  · intro exact
    rw [← exact]
    exact Nat.mod_lt _ (Nat.two_pow_pos 32)
  · exact Nat.mod_eq_of_lt

theorem mul_half_exact_iff :
    (x * y / 2).toNat = x.toNat * y.toNat / 2 ↔ x.toNat * y.toNat < 2 ^ 32 := by
  have two : (2 : Word).toNat = 2 := rfl
  rw [BitVec.toNat_udiv, two]
  constructor
  · intro exact
    have below := (x * y).isLt
    omega
  · intro room
    rw [mul_exact_iff.mpr room]

theorem toNat_sdiv_two (small : width.toNat < 2 ^ 31) : (width.sdiv 2).toNat = width.toNat / 2 := by
  have positive : width.msb = false := by
    rw [BitVec.msb_eq_decide, decide_eq_false_iff_not]
    omega
  have two : (2 : Word).msb = false := rfl
  rw [BitVec.sdiv_eq, positive, two]
  exact BitVec.toNat_udiv

theorem chromaStride_toNat (small : width.toNat < 2 ^ 31) :
    (align (width.sdiv 2) 16).toNat = width.toNat / 2 ⌈/⌉ 16 * 16 := by
  rw [align_toNat (show (16 : Word).toNat = 2 ^ 4 by rfl), toNat_sdiv_two small, if_pos (by omega)]
  rfl

theorem ycbcrLayout_planar (addr : Ptr) (width height : Word) :
    ycbcrLayout addr halPixelFormatYv12 width height = some
      { y := addr
        cr := addr + (width * height).toNat
        cb := addr + (width * height).toNat + (align (width.sdiv 2) 16 * height / 2).toNat
        ystride := width.signExtend 64
        cstride := (align (width.sdiv 2) 16).signExtend 64
        chromaStep := 1 } := by
  unfold ycbcrLayout
  rw [if_neg (by decide), if_pos rfl]

theorem ycbcrLayout_semiPlanar (addr : Ptr) (width height : Word) :
    ycbcrLayout addr halPixelFormatYCrCb420Sp width height = some
      { y := addr
        cr := addr + (align width 16 * height).toNat
        cb := addr + (align width 16 * height).toNat + 1
        ystride := (align width 16).signExtend 64
        cstride := (align width 16).signExtend 64
        chromaStep := 2 } := by
  unfold ycbcrLayout
  rw [if_pos rfl]

theorem planar_exact_iff {addr : Ptr} {ycbcr : AndroidYcbcr}
    (layout : ycbcrLayout addr halPixelFormatYv12 width height = some ycbcr) :
    OffsetsExact ycbcr (planeOffsets halPixelFormatYv12 width.toNat height.toNat) ↔
      width.toNat < 2 ^ 31 ∧ width.toNat * height.toNat < 2 ^ 32 ∧
        width.toNat / 2 ⌈/⌉ 16 * 16 * height.toNat < 2 ^ 32 := by
  rw [ycbcrLayout_planar] at layout
  cases layout
  have bound := width.isLt
  unfold planeOffsets
  rw [if_pos rfl]
  constructor
  · rintro ⟨ystride, -, cr, cb⟩
    dsimp only at ystride cr cb
    have small := ((toNat_signExtend_eq_iff (by omega)).mp ystride).2
    have luma := Nat.add_left_cancel cr
    rw [luma, Nat.add_assoc] at cb
    have chroma := Nat.add_left_cancel (Nat.add_left_cancel cb)
    rw [← chromaStride_toNat small] at chroma ⊢
    exact ⟨small, mul_exact_iff.mp luma, mul_half_exact_iff.mp chroma⟩
  · rintro ⟨small, luma, chroma⟩
    have narrow : (align (width.sdiv 2) 16).toNat < 2 ^ 31 := by
      rw [chromaStride_toNat small, Nat.ceilDiv_eq_add_pred_div]
      omega
    rw [← chromaStride_toNat small] at chroma ⊢
    refine ⟨toNat_signExtend_of_small small, toNat_signExtend_of_small narrow, ?_, ?_⟩
    · dsimp only
      rw [mul_exact_iff.mpr luma]
    · dsimp only
      rw [mul_exact_iff.mpr luma, mul_half_exact_iff.mpr chroma, Nat.add_assoc]

theorem semiPlanar_exact_iff {addr : Ptr} {ycbcr : AndroidYcbcr}
    (layout : ycbcrLayout addr halPixelFormatYCrCb420Sp width height = some ycbcr) :
    OffsetsExact ycbcr (planeOffsets halPixelFormatYCrCb420Sp width.toNat height.toNat) ↔
      width.toNat ⌈/⌉ 16 * 16 < 2 ^ 31 ∧
        width.toNat ⌈/⌉ 16 * 16 * height.toNat < 2 ^ 32 := by
  rw [ycbcrLayout_semiPlanar] at layout
  cases layout
  have bound := width.isLt
  have aligned := align_toNat (a := width) (show (16 : Word).toNat = 2 ^ 4 by rfl)
  have quotient : width.toNat ⌈/⌉ 16 = (width.toNat + 15) / 16 := Nat.ceilDiv_eq_add_pred_div ..
  unfold planeOffsets
  rw [if_neg (by decide)]
  constructor
  · rintro ⟨ystride, -, cr, -⟩
    dsimp only at ystride cr
    obtain ⟨exact, small⟩ := (toNat_signExtend_eq_iff (by omega)).mp ystride
    have luma := Nat.add_left_cancel cr
    rw [← exact] at luma ⊢
    exact ⟨exact ▸ small, mul_exact_iff.mp luma⟩
  · rintro ⟨small, luma⟩
    rw [if_pos (by omega)] at aligned
    have exact : (align width 16).toNat = width.toNat ⌈/⌉ 16 * 16 := aligned
    rw [← exact] at luma small ⊢
    have stride := toNat_signExtend_of_small small
    refine ⟨stride, stride, ?_, ?_⟩
    · dsimp only
      rw [mul_exact_iff.mpr luma]
    · dsimp only
      rw [mul_exact_iff.mpr luma, Nat.add_assoc]

end Words

/-! ## Samples at exact offsets -/

section Samples

variable {ycbcr : AndroidYcbcr} {w h size : ℕ}

theorem ceilDiv_two_pos {n : ℕ} (positive : 1 ≤ n) : 0 < n ⌈/⌉ 2 := by
  rw [ceilDiv_two]
  omega

/-- The samples of three planes are inside if the last of each is. -/
theorem samplesInside_iff (width : 1 ≤ w) (height : 1 ≤ h) {offsets : PlaneOffsets}
    (exact : OffsetsExact ycbcr offsets) {step : ℕ} (hstep : ycbcr.chromaStep.toNat = step) :
    (∀ address, address ∈ lumaBytes ycbcr w h ∨ address ∈ chromaBytes ycbcr ycbcr.cr w h ∨
        address ∈ chromaBytes ycbcr ycbcr.cb w h →
      ycbcr.y ≤ address ∧ address < ycbcr.y + size) ↔
      Grid.extent offsets.ystride 1 w h < size ∧
        offsets.cr + Grid.extent offsets.cstride step (w ⌈/⌉ 2) (h ⌈/⌉ 2) < size ∧
        offsets.cb + Grid.extent offsets.cstride step (w ⌈/⌉ 2) (h ⌈/⌉ 2) < size := by
  have below (offset rowStride step : ℕ) {columns rows : ℕ} (hcolumns : 0 < columns)
      (hrows : 0 < rows) :
      (∀ address ∈ Grid.bytes (ycbcr.y + offset) rowStride step columns rows,
          address < ycbcr.y + size) ↔
        offset + Grid.extent rowStride step columns rows < size := by
    rw [Grid.below_iff hcolumns hrows, Nat.add_assoc, Nat.add_lt_add_iff_left]
  have luma := below 0 offsets.ystride 1 width height
  have chroma (offset : ℕ) := below offset offsets.cstride step (ceilDiv_two_pos width)
    (ceilDiv_two_pos height)
  rw [Nat.add_zero, Nat.zero_add] at luma
  unfold lumaBytes chromaBytes
  rw [exact.ystride, exact.cstride, exact.cr, exact.cb, hstep]
  rw [← luma, ← chroma, ← chroma]
  constructor
  · intro inside
    exact ⟨fun address hmem => (inside address (.inl hmem)).2,
      fun address hmem => (inside address (.inr (.inl hmem))).2,
      fun address hmem => (inside address (.inr (.inr hmem))).2⟩
  · rintro ⟨luma, red, blue⟩ address (hmem | hmem | hmem)
    · exact ⟨Grid.le_of_mem hmem, luma address hmem⟩
    · exact ⟨Nat.le_trans (Nat.le_add_right ..) (Grid.le_of_mem hmem), red address hmem⟩
    · exact ⟨Nat.le_trans (Nat.le_add_right ..) (Grid.le_of_mem hmem), blue address hmem⟩

/-- The luma samples end before a plane that begins below their rows. -/
theorem luma_disjoint (width : 1 ≤ w) (height : 1 ≤ h) {base offset : ℕ}
    (narrow : w ≤ ycbcr.ystride.toNat) (below : ycbcr.ystride.toNat * h ≤ offset)
    (hbase : base = ycbcr.y + offset) :
    Disjoint (lumaBytes ycbcr w h) (chromaBytes ycbcr base w h) := by
  have luma := Grid.extent_lt_rows width height narrow
  subst hbase
  exact Grid.disjoint_of_before (Nat.add_lt_add_left (Nat.lt_of_lt_of_le luma below) _)

theorem planar_crCb_iff (exact : OffsetsExact ycbcr (planeOffsets halPixelFormatYv12 w h))
    (step : ycbcr.chromaStep = 1) (width : 1 ≤ w) (height : 1 ≤ h) :
    Disjoint (chromaBytes ycbcr ycbcr.cr w h) (chromaBytes ycbcr ycbcr.cb w h) ↔
      (2 ∣ h → w % 32 ≠ 1) ∧ (¬ 2 ∣ h → 2 ≤ w ∧ w ≤ 16) := by
  rw [planeOffsets, if_pos rfl] at exact
  obtain ⟨-, cstride, cr, cb⟩ := exact
  dsimp only at cstride cr cb
  have shift : ycbcr.cb = ycbcr.cr + w / 2 ⌈/⌉ 16 * 16 * h / 2 := by
    rw [cb, cr, Nat.add_assoc]
  have later : w / 2 ⌈/⌉ 16 * 16 * (h ⌈/⌉ 2 - 1) ≤ w / 2 ⌈/⌉ 16 * 16 * h / 2 := by
    rw [Nat.le_div_iff_mul_le (by decide), Nat.mul_assoc, ceilDiv_two]
    exact Nat.mul_le_mul_left _ (by omega)
  unfold chromaBytes
  rw [← planar_apart_iff width height, cstride, step, shift]
  refine Grid.disjoint_shift_iff ?_ ?_ later <;>
    rw [ceilDiv_two] <;> omega

theorem planar_sound (exact : OffsetsExact ycbcr (planeOffsets halPixelFormatYv12 w h))
    (step : ycbcr.chromaStep = 1) (width : 1 ≤ w) (height : 1 ≤ h)
    (apart : (2 ∣ h → w % 32 ≠ 1) ∧ (¬ 2 ∣ h → 2 ≤ w ∧ w ≤ 16))
    (room : w ⌈/⌉ 32 * 32 * (h + h ⌈/⌉ 2) ≤ size) : SamplesSound ycbcr w h size := by
  have crCb := (planar_crCb_iff exact step width height).mpr apart
  have fits := @planar_room w h
  have luma := Grid.extent_lt_rows width height (Nat.le_refl w)
  have columns := ceilDiv_two_pos width
  have one : ycbcr.chromaStep.toNat = 1 := by
    rw [step]
    rfl
  have inside := @samplesInside_iff _ _ _ size width height _ exact _ one
  rw [← planar_apart_iff width height] at apart
  rw [planeOffsets, if_pos rfl] at exact inside
  have narrow : w ≤ ycbcr.ystride.toNat := Nat.le_of_eq exact.ystride.symm
  have rows : ycbcr.ystride.toNat * h ≤ w * h := Nat.le_of_eq (by rw [exact.ystride])
  refine ⟨luma_disjoint width height narrow rows exact.cr,
    luma_disjoint width height narrow (Nat.le_trans rows (Nat.le_add_right ..)) exact.cb, crCb, ?_⟩
  rw [inside]
  dsimp only
  unfold Grid.extent at luma ⊢
  omega

theorem semiPlanar_sound_iff
    (exact : OffsetsExact ycbcr (planeOffsets halPixelFormatYCrCb420Sp w h))
    (step : ycbcr.chromaStep = 2) (width : 1 ≤ w) (height : 1 ≤ h) :
    SamplesSound ycbcr w h size ↔
      w ⌈/⌉ 16 * 16 * h + w ⌈/⌉ 16 * 16 * (h ⌈/⌉ 2 - 1) + 2 * (w ⌈/⌉ 2) ≤ size := by
  have two : ycbcr.chromaStep.toNat = 2 := by
    rw [step]
    rfl
  have covers := le_ceilDiv_mul w (show 0 < 16 by decide)
  have luma := Grid.extent_lt_rows width height covers
  have columns := ceilDiv_two_pos width
  have inside := @samplesInside_iff _ _ _ size width height _ exact _ two
  rw [planeOffsets, if_neg (by decide)] at exact inside
  dsimp only at inside
  constructor
  · rintro ⟨-, -, -, sound⟩
    obtain ⟨-, -, blue⟩ := inside.mp sound
    unfold Grid.extent at blue
    omega
  · intro fits
    have narrow : w ≤ ycbcr.ystride.toNat := by rwa [exact.ystride]
    have rows : ycbcr.ystride.toNat * h ≤ w ⌈/⌉ 16 * 16 * h :=
      Nat.le_of_eq (by rw [exact.ystride])
    refine ⟨luma_disjoint width height narrow rows exact.cr,
      luma_disjoint width height narrow (Nat.le_trans rows (Nat.le_add_right ..)) exact.cb, ?_, ?_⟩
    · -- the samples of one plane are between those of the other
      unfold chromaBytes
      rw [exact.cstride, two, exact.cr, exact.cb]
      have even : 2 ∣ w ⌈/⌉ 16 * 16 := ⟨w ⌈/⌉ 16 * 8, by ring⟩
      refine Grid.disjoint_of_mod even (Nat.dvd_refl 2) ?_
      dsimp only
      rw [← Nat.add_assoc]
      exact fun same => absurd same (by omega)
    · rw [inside]
      unfold Grid.extent at luma ⊢
      omega

end Samples

/-! ## Locks -/

/-- A lock of the planes that succeeds gives out their layout, relative to the address of
the mapping if there is CPU access. -/
theorem lockYcbcr_success {s s' : Process} {handle p : Ptr} {bo : GbmBo} {words : GrallocHandle}
    {hold : Hold} (buffer : Buffer s handle p bo) (placed : s.handles handle = some words.native)
    (represents : Represents bo hold) {answer : GbmMapResult} (valid : answer.Valid) {usage : Word}
    {stored : Option AndroidYcbcr}
    (locked : grallocGbmBoLockYcbcr answer s handle usage = .ok (0, stored, s')) :
    ∃ ycbcr bo', stored = some ycbcr ∧ Buffer s' handle p bo' ∧ SameImage bo bo' ∧
      ycbcrLayout ycbcr.y words.format words.width words.height = some ycbcr ∧
      ((∃ mapping ∈ bo'.mappings, mapping.addr = ycbcr.y) ↔ CpuUsage usage) := by
  have live : ∀ q, s.gbmBoHandleMap handle = some q → s.bos q ≠ none := by
    intro q registered
    cases buffer.1.symm.trans registered
    rw [buffer.2]
    exact nofun
  rw [grallocGbmBoLockYcbcr_eq live placed (.native words),
    grallocGbmBoLock_eq buffer.1 placed rfl buffer.2] at locked
  obtain ⟨⟨err, addr, s₁⟩, inner, outer⟩ := map_eq_ok.mp locked
  obtain ⟨⟨err', addr', bo', calls⟩, hlock, same⟩ := map_eq_ok.mp inner
  cases same
  unfold ycbcrResult at outer
  dsimp only at outer
  by_cases failed : err ≠ 0
  · rw [if_pos failed] at outer
    exact absurd (congrArg Prod.fst outer) failed
  rw [if_neg failed] at outer
  cases layout : ycbcrLayout (addr.getD 0) words.format words.width words.height with
  | none =>
      rw [layout] at outer
      exact absurd (congrArg Prod.fst outer) (show -einval ≠ 0 by decide)
  | some ycbcr =>
      rw [layout] at outer
      cases outer
      have base := ycbcrLayout_y layout
      have returns := lockBo_returns hlock
      obtain ⟨-, hold', locks, after⟩ :=
        (represents.lock valid returns).resolve_left fun refused => failed refused.1
      refine ⟨ycbcr, bo', rfl, ⟨buffer.1, putBo_bos_self ..⟩, returns.sameImage, base ▸ layout, ?_⟩
      rw [after.mappings, base]
      cases locks with
      | share noCpu => exact iff_of_false nofun noCpu
      | join within =>
          rename_i noCpu
          exact iff_of_false nofun fun cpu => noCpu (within.meets cpu)
      | map cpu => exact iff_of_true ⟨_, List.mem_singleton_self _, rfl⟩ cpu

/-- The bytes of a pixel in the first plane of the BO, for a format whose planes a lock
gives out. -/
def firstPlaneBytes (format : Word) : ℕ :=
  if grallocGmAndroidFormatToGbmFormat format = gbmFormatGr88 then 2 else 1

/-- No two samples of a plane share a byte. -/
structure SamplesDistinct (ycbcr : AndroidYcbcr) (width : ℕ) : Prop where
  luma : ∀ i j i' j', i < width → i' < width →
    Grid.sample ycbcr.y ycbcr.ystride.toNat 1 i j =
      Grid.sample ycbcr.y ycbcr.ystride.toNat 1 i' j' → i = i' ∧ j = j'
  chroma : ∀ base i j i' j', i < width ⌈/⌉ 2 → i' < width ⌈/⌉ 2 →
    Grid.sample base ycbcr.cstride.toNat ycbcr.chromaStep.toNat i j =
      Grid.sample base ycbcr.cstride.toNat ycbcr.chromaStep.toNat i' j' → i = i' ∧ j = j'

/-- What a client may rely on when it reads or writes through the planes. -/
structure YcbcrSound (ycbcr : AndroidYcbcr) (desc : GrallocBufferDesc) (bo : GbmBo) : Prop where
  mapped : ∃ mapping ∈ bo.mappings, mapping.addr = ycbcr.y
  exact : OffsetsExact ycbcr
    (planeOffsets desc.androidFormat desc.width.toNat desc.height.toNat)
  samples : SamplesSound ycbcr desc.width.toNat desc.height.toNat
    (bo.stride.toNat * bo.height.toNat)
  distinct : SamplesDistinct ycbcr desc.width.toNat

/-- The image is one whose planes are laid out inside its BO. -/
def PlanesFit (desc : GrallocBufferDesc) (stride : Word) : Prop :=
  let w := desc.width.toNat
  let h := desc.height.toNat
  if desc.androidFormat = halPixelFormatYv12 then
    w * h < 2 ^ 32 ∧ w / 2 ⌈/⌉ 16 * 16 * h < 2 ^ 32 ∧
      (2 ∣ h → w % 32 ≠ 1) ∧ (¬ 2 ∣ h → 2 ≤ w ∧ w ≤ 16)
  else
    w ⌈/⌉ 16 * 16 < 2 ^ 31 ∧ w ⌈/⌉ 16 * 16 * h < 2 ^ 32 ∧
      w ⌈/⌉ 16 * 16 * h + w ⌈/⌉ 16 * 16 * (h ⌈/⌉ 2 - 1) + 2 * (w ⌈/⌉ 2) ≤ stride.toNat * h

section Image

variable {ycbcr : AndroidYcbcr} {desc : GrallocBufferDesc} {bo : GbmBo}

theorem planarImage_iff (planar : desc.androidFormat = halPixelFormatYv12)
    (layout : ycbcrLayout ycbcr.y desc.androidFormat desc.width desc.height = some ycbcr)
    (width : 1 ≤ desc.width.toNat) (height : 1 ≤ desc.height.toNat)
    (boWidth : bo.width = align desc.width 32 / 2)
    (boHeight : bo.height = desc.height + align desc.height 2 / 2)
    (row : firstPlaneBytes desc.androidFormat * bo.width.toNat ≤ bo.stride.toNat) :
    OffsetsExact ycbcr (planeOffsets desc.androidFormat desc.width.toNat desc.height.toNat) ∧
        SamplesSound ycbcr desc.width.toNat desc.height.toNat
          (bo.stride.toNat * bo.height.toNat) ↔
      PlanesFit desc bo.stride := by
  have step : ycbcr.chromaStep = 1 := by
    rw [planar, ycbcrLayout_planar] at layout
    rw [← Option.some.inj layout]
  have two : firstPlaneBytes halPixelFormatYv12 = 2 := by decide
  unfold PlanesFit
  dsimp only
  rw [planar] at layout row ⊢
  rw [if_pos rfl, planar_exact_iff layout]
  constructor
  · rintro ⟨⟨small, luma, chroma⟩, samples⟩
    have exact := (planar_exact_iff layout).mpr ⟨small, luma, chroma⟩
    exact ⟨luma, chroma, (planar_crCb_iff exact step width height).mp samples.crCb⟩
  · rintro ⟨luma, chroma, apart⟩
    -- a width of one is no width of such an image
    have wide : 2 ≤ desc.width.toNat := by omega
    have rows := Nat.mul_le_mul_right desc.height.toNat wide
    have columns := Nat.mul_le_mul_left desc.width.toNat height
    have small : desc.width.toNat < 2 ^ 31 := by
      by_cases even : 2 ∣ desc.height.toNat
      · have tall := Nat.mul_le_mul_left desc.width.toNat (Nat.le_of_dvd height even)
        omega
      · have narrow := apart.2 even
        omega
    have exact := (planar_exact_iff layout).mpr ⟨small, luma, chroma⟩
    refine ⟨⟨small, luma, chroma⟩, planar_sound exact step width height apart ?_⟩
    have aligned := planarWidth_toNat desc.width
    rw [if_pos (by omega)] at aligned
    rw [two, boWidth, aligned] at row
    rw [boHeight, planarHeight_toNat (by omega)]
    exact Nat.mul_le_mul_right _ (by omega)

theorem semiPlanarImage_iff (semiPlanar : desc.androidFormat = halPixelFormatYCrCb420Sp)
    (layout : ycbcrLayout ycbcr.y desc.androidFormat desc.width desc.height = some ycbcr)
    (width : 1 ≤ desc.width.toNat) (height : 1 ≤ desc.height.toNat)
    (boHeight : bo.height = desc.height) :
    OffsetsExact ycbcr (planeOffsets desc.androidFormat desc.width.toNat desc.height.toNat) ∧
        SamplesSound ycbcr desc.width.toNat desc.height.toNat
          (bo.stride.toNat * bo.height.toNat) ↔
      PlanesFit desc bo.stride := by
  have step : ycbcr.chromaStep = 2 := by
    rw [semiPlanar, ycbcrLayout_semiPlanar] at layout
    rw [← Option.some.inj layout]
  unfold PlanesFit
  dsimp only
  rw [semiPlanar] at layout ⊢
  rw [if_neg (by decide), boHeight, ← and_assoc, ← semiPlanar_exact_iff layout]
  exact and_congr_right fun exact => semiPlanar_sound_iff exact step width height

/-- Samples are apart in rows that do not reach into each other. -/
theorem SamplesDistinct.of_narrow {w : ℕ} (width : 1 ≤ w) (luma : w ≤ ycbcr.ystride.toNat)
    (step : 0 < ycbcr.chromaStep.toNat)
    (chroma : ycbcr.chromaStep.toNat * (w ⌈/⌉ 2 - 1) < ycbcr.cstride.toNat) :
    SamplesDistinct ycbcr w where
  luma i j i' j' left right :=
    Grid.sample_injective Nat.one_pos (show 1 * (w - 1) < _ by omega) left right
  chroma base i j i' j' left right := Grid.sample_injective step chroma left right

theorem samplesDistinct_of_fit {stride : Word}
    (layout : ycbcrLayout ycbcr.y desc.androidFormat desc.width desc.height = some ycbcr)
    (width : 1 ≤ desc.width.toNat)
    (exact : OffsetsExact ycbcr
      (planeOffsets desc.androidFormat desc.width.toNat desc.height.toNat))
    (fit : PlanesFit desc stride) : SamplesDistinct ycbcr desc.width.toNat := by
  have covers := le_ceilDiv_mul desc.width.toNat (show 0 < 16 by decide)
  have half : desc.width.toNat / 2 ⌈/⌉ 16 = (desc.width.toNat / 2 + 15) / 16 :=
    Nat.ceilDiv_eq_add_pred_div ..
  unfold PlanesFit at fit
  dsimp only at fit
  by_cases planar : desc.androidFormat = halPixelFormatYv12
  · rw [if_pos planar] at fit
    obtain ⟨-, -, even, odd⟩ := fit
    rw [planar, ycbcrLayout_planar] at layout
    have step : ycbcr.chromaStep.toNat = 1 := by
      rw [← Option.some.inj layout]
      rfl
    rw [planeOffsets, if_pos planar] at exact
    refine .of_narrow width (Nat.le_of_eq exact.ystride.symm) (by omega) ?_
    rw [step, exact.cstride, ceilDiv_two]
    dsimp only
    rw [half]
    by_cases rows : 2 ∣ desc.height.toNat
    · have unaligned := even rows
      omega
    · have small := odd rows
      omega
  · have semiPlanar : desc.androidFormat = halPixelFormatYCrCb420Sp := by
      by_contra other
      rw [(ycbcrLayout_eq_none_iff ..).mpr (by simp [ycbcrFormats, other, planar])] at layout
      cases layout
    rw [semiPlanar, ycbcrLayout_semiPlanar] at layout
    have step : ycbcr.chromaStep.toNat = 2 := by
      rw [← Option.some.inj layout]
      rfl
    rw [planeOffsets, if_neg planar] at exact
    refine .of_narrow width (by rwa [exact.ystride]) (by omega) ?_
    rw [step, exact.cstride, ceilDiv_two]
    dsimp only
    omega

end Image

/-- A lock of the planes that succeeds gives out planes that are apart and inside the mapping
exactly if it has CPU access and the image is one whose planes fit. -/
theorem lockYcbcr_sound_iff {first s s' : Process} {labels : List CoreEvent}
    (initial : coreSystem.initial first) (run : Run coreSystem first labels s) {handle p : Ptr}
    {bo : GbmBo} {desc : GrallocBufferDesc} (created : createdFor labels handle = some desc)
    (buffer : Buffer s handle p bo) (width : 1 ≤ desc.width.toNat)
    (height : 1 ≤ desc.height.toNat)
    (row : firstPlaneBytes desc.androidFormat * bo.width.toNat ≤ bo.stride.toNat)
    {answer : GbmMapResult} (valid : answer.Valid) {usage : Word} {stored : Option AndroidYcbcr}
    (locked : grallocGbmBoLockYcbcr answer s handle usage = .ok (0, stored, s')) :
    ∃ ycbcr bo', stored = some ycbcr ∧ Buffer s' handle p bo' ∧
      (YcbcrSound ycbcr desc bo' ↔ CpuUsage usage ∧ PlanesFit desc bo.stride) := by
  obtain ⟨bo₀, hold, native, registered⟩ := (CoreInv.of_run initial run).holds _ p buffer.1
  cases buffer.2.symm.trans registered.live
  obtain ⟨env, new, rfl, boWidth, boHeight⟩ := registered.made desc created
  obtain ⟨ycbcr, bo', rfl, buffer', image, layout, mapped⟩ :=
    lockYcbcr_success buffer registered.placed registered.represents valid locked
  have layout' : ycbcrLayout ycbcr.y desc.androidFormat desc.width desc.height = some ycbcr :=
    layout
  have sizes := createArgs_eq (createdHandle env desc)
  rw [sizes] at boWidth boHeight
  have fits : OffsetsExact ycbcr
        (planeOffsets desc.androidFormat desc.width.toNat desc.height.toNat) ∧
      SamplesSound ycbcr desc.width.toNat desc.height.toNat
        (bo.stride.toNat * bo.height.toNat) ↔ PlanesFit desc bo.stride := by
    have format : desc.androidFormat ∈ ycbcrFormats := by
      by_contra other
      rw [(ycbcrLayout_eq_none_iff ..).mpr other] at layout'
      cases layout'
    rcases List.mem_cons.mp format with semiPlanar | planar
    · refine semiPlanarImage_iff semiPlanar layout' width height ?_
      have plain : (createdHandle env desc).format ≠ halPixelFormatYv12 ∧
          (createdHandle env desc).format ≠ halPixelFormatBgra8888 := by
        have same : (createdHandle env desc).format = desc.androidFormat := rfl
        rw [same, semiPlanar]
        decide
      rw [boHeight]
      dsimp only
      rw [if_neg plain.1, if_neg fun cursor => plain.2 cursor.2]
      rfl
    · have planar := List.mem_singleton.mp planar
      have format : (createdHandle env desc).format = halPixelFormatYv12 := planar
      refine planarImage_iff planar layout' width height ?_ ?_ row
      · rw [boWidth]
        exact if_pos format
      · rw [boHeight]
        exact if_pos format
  refine ⟨ycbcr, bo', rfl, buffer', ?_⟩
  rw [← mapped]
  constructor
  · rintro ⟨mapping, exact, samples, -⟩
    rw [image.2.1, image.2.2] at samples
    exact ⟨mapping, fits.mp ⟨exact, samples⟩⟩
  · rintro ⟨mapping, fit⟩
    obtain ⟨exact, samples⟩ := fits.mpr fit
    refine ⟨mapping, exact, ?_, samplesDistinct_of_fit layout' width exact fit⟩
    rwa [image.2.1, image.2.2]

/-- A YV12 image that the CPU reads. -/
def planarDesc (width height : Word) : GrallocBufferDesc where
  width := width
  height := height
  androidFormat := halPixelFormatYv12
  androidUsage := grallocUsageSwReadOften

theorem planarDesc_fit : PlanesFit (planarDesc 64#32 32#32) 256#32 := by
  have quotient : 64 / 2 ⌈/⌉ 16 = 2 := rfl
  have exact : 64 * 32 < 2 ^ 32 ∧ 64 / 2 ⌈/⌉ 16 * 16 * 32 < 2 ^ 32 ∧
      (2 ∣ 32 → 64 % 32 ≠ 1) ∧ (¬ 2 ∣ 32 → 2 ≤ 64 ∧ 64 ≤ 16) := by
    rw [quotient]
    decide
  exact exact

theorem lockYcbcr_sound_iff_planar :
    ∃ ycbcr s' bo', grallocGbmBoLockYcbcr (.mapped 4096 7 256#32)
        (allocatedProcess (planarDesc 64#32 32#32)) 16 grallocUsageSwReadOften =
          .ok (0, some ycbcr, s') ∧
      Buffer s' 16 32 bo' ∧ YcbcrSound ycbcr (planarDesc 64#32 32#32) bo' := by
  obtain ⟨bo, stored, s', buffer, stride, row, locked⟩ : ∃ bo stored s',
      Buffer (allocatedProcess (planarDesc 64#32 32#32)) 16 32 bo ∧ bo.stride = 256#32 ∧
        firstPlaneBytes halPixelFormatYv12 * bo.width.toNat ≤ bo.stride.toNat ∧
        grallocGbmBoLockYcbcr (.mapped 4096 7 256#32)
          (allocatedProcess (planarDesc 64#32 32#32)) 16 grallocUsageSwReadOften =
            .ok (0, stored, s') := ⟨_, _, _, ⟨rfl, rfl⟩, rfl, by decide, rfl⟩
  have valid : (GbmMapResult.mapped 4096 7 256#32).Valid := by decide
  obtain ⟨ycbcr, bo', rfl, buffer', sound⟩ :=
    lockYcbcr_sound_iff closedProcess_initial (allocatedProcess_run _) rfl buffer (by decide)
      (by decide) row valid locked
  refine ⟨ycbcr, s', bo', locked, buffer', sound.mpr ⟨by decide, ?_⟩⟩
  rw [stride]
  exact planarDesc_fit

/-- In an image of 33 rows the second chroma plane begins before the first has ended, and
a lock without CPU access gives out no address. -/
theorem lockYcbcr_unsound :
    ∃ s ycbcr s' bo', Run coreSystem closedProcess (allocatedLabels (planarDesc 64#32 33#32)) s ∧
      createdFor (allocatedLabels (planarDesc 64#32 33#32)) 16 = some (planarDesc 64#32 33#32) ∧
      grallocGbmBoLockYcbcr (.mapped 4096 7 256#32) s 16 grallocUsageSwReadOften =
        .ok (0, some ycbcr, s') ∧
      Buffer s' 16 32 bo' ∧ bo'.width = 32#32 ∧ bo'.height = 50#32 ∧ bo'.stride = 256#32 ∧
      Grid.sample ycbcr.cr ycbcr.cstride.toNat ycbcr.chromaStep.toNat 16 16 = ycbcr.cb ∧
      ¬ YcbcrSound ycbcr (planarDesc 64#32 33#32) bo' ∧
      (∃ ycbcr t, grallocGbmBoLockYcbcr .null s 16 0#32 = .ok (0, some ycbcr, t) ∧
        ycbcr.y = 0) := by
  refine ⟨_, _, _, _, allocatedProcess_run _, rfl, rfl, ⟨rfl, rfl⟩, rfl, rfl, rfl, rfl, ?_,
    ⟨_, _, rfl, rfl⟩⟩
  rintro ⟨-, -, ⟨-, -, apart, -⟩, -⟩
  refine Set.disjoint_left.mp apart ⟨16, 16, ?_, ?_, rfl⟩ ⟨0, 0, ?_, ?_, rfl⟩ <;>
    rw [ceilDiv_two] <;> decide

end GrallocGbmMesa.Core
