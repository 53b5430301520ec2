import GrallocGbmMesa.Core.Sizes

/-!
# The stride in pixels

A client steps from row to row by the pixel stride times the size of a sample of
the first plane.  The stride divides by a size of the whole pixel, rounded up,
and by four for what the size table has not.
-/

namespace GrallocGbmMesa.Core

open Bits Rounding
open GrallocGbmMesa.Platform

/-- The bytes of a sample in the first plane of a BO. -/
def gbmSampleTable : List (Word × Nat) :=
  [(gbmFormatR8, 1), (gbmFormatYuv420, 1), (gbmFormatYuv422, 1),
   (gbmFormatR16, 2), (gbmFormatGr88, 2), (gbmFormatBgr565, 2),
   (gbmFormatBgr888, 3),
   (gbmFormatAbgr8888, 4), (gbmFormatXbgr8888, 4), (gbmFormatArgb8888, 4),
   (gbmFormatAbgr2101010, 4),
   (gbmFormatAbgr16161616F, 8)]

def boSampleBytes (gbmFormat : Word) : Nat := (gbmSampleTable.lookup gbmFormat).getD 0

/-- The bytes of a sample in the first plane of a buffer: the BO of a YV12 buffer
packs two of them. -/
def sampleBytes (androidFormat : Word) : Nat :=
  if androidFormat = halPixelFormatYv12 then 1
  else boSampleBytes (grallocGmAndroidFormatToGbmFormat androidFormat)

/-- The bytes of a row of the BO that is asked for. -/
def rowBytes (args : CreateArgs) : Nat := args.width.toNat * boSampleBytes args.format

/-- Every pixel of a row lies within a step, and a step within the byte stride. -/
def PixelStrideSound (androidFormat width stride : Word) : Prop :=
  let pixelStride := (grallocGmAndroidCaculatePixelStride androidFormat stride).toNat
  width.toNat ≤ pixelStride ∧ pixelStride * sampleBytes androidFormat ≤ stride.toNat

/-- Formats of one byte that the size table has not. -/
def unlistedFormats : List Word := [halPixelFormatY8, halPixelFormatBlob]

/-- Formats with a luma plane, whose pixels take two bytes by the size table. -/
def lumaFormats : List Word :=
  [halPixelFormatYv12, halPixelFormatYCbCr422Sp, halPixelFormatYCbCr420888,
    halPixelFormatYCrCb420Sp]

def PixelStrideSoundWhen (androidFormat width stride : Word) : Prop :=
  if androidFormat ∈ unlistedFormats then
    4 * (width.toNat - 1) < stride.toNat ∧ stride.toNat + 4 ≤ 2 ^ 32
  else if androidFormat ∈ lumaFormats then
    2 * (width.toNat - 1) < stride.toNat ∧ stride.toNat + 2 ≤ 2 ^ 32
  else
    sampleBytes androidFormat ∣ stride.toNat ∧
      stride.toNat + sampleBytes androidFormat ≤ 2 ^ 32 ∧ width.toNat + 16 ≤ 2 ^ 32

instance (androidFormat width stride : Word) :
    Decidable (PixelStrideSoundWhen androidFormat width stride) := by
  unfold PixelStrideSoundWhen
  infer_instance

/-- How the size of a pixel relates to that of a sample. -/
inductive PixelClass (androidFormat : Word) : Prop where
  | unlisted (listed : androidFormat ∈ unlistedFormats)
      (pixel : grallocGmGetBytesPerPixelFromAndroidFormat androidFormat = 4)
      (sample : sampleBytes androidFormat = 1)
  | luma (listed : androidFormat ∉ unlistedFormats) (planar : androidFormat ∈ lumaFormats)
      (pixel : grallocGmGetBytesPerPixelFromAndroidFormat androidFormat = 2)
      (sample : sampleBytes androidFormat = 1)
  | packed (listed : androidFormat ∉ unlistedFormats) (planar : androidFormat ∉ lumaFormats)
      (pixel : grallocGmGetBytesPerPixelFromAndroidFormat androidFormat =
        sampleBytes androidFormat)
      (bounds : 2 ≤ sampleBytes androidFormat ∧ sampleBytes androidFormat ≤ 8)

/-- A format with a code of gbm's own is of one of the classes. -/
theorem pixelClass {androidFormat : Word}
    (named : grallocGmAndroidFormatToGbmFormat androidFormat ∈ gbmFormats) :
    PixelClass androidFormat := by
  have classes : ∀ entry ∈ androidFormatTable, entry.2 ∈ gbmFormats →
      (entry.1 ∈ unlistedFormats ∧ grallocGmGetBytesPerPixelFromAndroidFormat entry.1 = 4 ∧
          sampleBytes entry.1 = 1) ∨
        (entry.1 ∉ unlistedFormats ∧ entry.1 ∈ lumaFormats ∧
          grallocGmGetBytesPerPixelFromAndroidFormat entry.1 = 2 ∧ sampleBytes entry.1 = 1) ∨
        (entry.1 ∉ unlistedFormats ∧ entry.1 ∉ lumaFormats ∧
          grallocGmGetBytesPerPixelFromAndroidFormat entry.1 = sampleBytes entry.1 ∧
          2 ≤ sampleBytes entry.1 ∧ sampleBytes entry.1 ≤ 8) :=
    PartialMap.forall_mem_of_all (by decide +kernel)
  unfold grallocGmAndroidFormatToGbmFormat at named
  cases found : androidFormatTable.lookup androidFormat with
  | none =>
      rw [found] at named
      exact absurd named (by decide)
  | some gbmFormat =>
      rw [found, Option.getD_some] at named
      rcases classes _ (PartialMap.lookup_mem found) named with
        ⟨listed, pixel, sample⟩ | ⟨listed, planar, pixel, sample⟩ |
        ⟨listed, planar, pixel, bounds⟩
      · exact .unlisted listed pixel sample
      · exact .luma listed planar pixel sample
      · exact .packed listed planar pixel bounds

/-- The pixel stride as a quotient of numbers. -/
theorem pixelStride_toNat {androidFormat : Word} {bytes : Nat}
    (pixel : grallocGmGetBytesPerPixelFromAndroidFormat androidFormat = bytes)
    (positive : 0 < bytes) (small : bytes ≤ 8) (stride : Word) :
    (grallocGmAndroidCaculatePixelStride androidFormat stride).toNat =
      if stride.toNat + bytes ≤ 2 ^ 32 then stride.toNat ⌈/⌉ bytes else 0 := by
  have fits : (BitVec.ofNat 32 bytes).toNat = bytes := by
    rw [BitVec.toNat_ofNat, Nat.mod_eq_of_lt (by omega)]
  unfold grallocGmAndroidCaculatePixelStride
  rw [pixel]
  have quotient := toNat_roundUp (n := stride) (d := BitVec.ofNat 32 bytes) (by omega)
  rw [fits] at quotient
  exact quotient

theorem pixelStrideSound_iff {androidFormat width : Word} {bytes : Nat}
    (pixel : grallocGmGetBytesPerPixelFromAndroidFormat androidFormat = bytes)
    (positive : 0 < bytes) (small : bytes ≤ 8) (some : 1 ≤ width.toNat) (stride : Word) :
    PixelStrideSound androidFormat width stride ↔
      stride.toNat + bytes ≤ 2 ^ 32 ∧ bytes * (width.toNat - 1) < stride.toNat ∧
        stride.toNat ⌈/⌉ bytes * sampleBytes androidFormat ≤ stride.toNat := by
  unfold PixelStrideSound
  simp only [pixelStride_toNat pixel positive small]
  by_cases room : stride.toNat + bytes ≤ 2 ^ 32
  · rw [if_pos room, le_ceilDiv_iff positive some]
    exact (and_iff_right room).symm
  · rw [if_neg room]
    refine iff_of_false ?_ fun h => room h.1
    rintro ⟨none, -⟩
    omega

/-! ## Rows -/

/-- Outside the planar formats, the BO that is asked for is no narrower than the
buffer, unless the padding of a cursor wraps around. -/
theorem le_createArgs_width {handle : GrallocHandle}
    (packed : handle.format ≠ halPixelFormatYv12) (room : handle.width.toNat + 16 ≤ 2 ^ 32) :
    handle.width.toNat ≤ (createArgs handle).width.toNat := by
  rw [createArgs_eq]
  simp only [if_neg packed]
  split
  · rw [cursorSize_toNat, if_pos room]
    exact (cursorExtent_bounds handle.width.toNat).1
  · exact Nat.le_refl _

/-- A packed format is sound exactly for strides of whole samples. -/
theorem pixelStrideSound_packed {handle : GrallocHandle}
    (planar : handle.format ∉ lumaFormats)
    (pixel : grallocGmGetBytesPerPixelFromAndroidFormat handle.format =
      sampleBytes handle.format)
    (bounds : 2 ≤ sampleBytes handle.format ∧ sampleBytes handle.format ≤ 8)
    (some : 1 ≤ handle.width.toNat) {stride : Word}
    (row : rowBytes (createArgs handle) ≤ stride.toNat) :
    PixelStrideSound handle.format handle.width stride ↔
      sampleBytes handle.format ∣ stride.toNat ∧
        stride.toNat + sampleBytes handle.format ≤ 2 ^ 32 ∧ handle.width.toNat + 16 ≤ 2 ^ 32 := by
  have positive : 0 < sampleBytes handle.format := by omega
  have notYv12 : handle.format ≠ halPixelFormatYv12 := by
    intro same
    rw [same] at planar
    exact planar (by decide)
  have sample : boSampleBytes (createArgs handle).format = sampleBytes handle.format := by
    rw [sampleBytes, if_neg notYv12, createArgs_eq]
  rw [rowBytes, sample] at row
  rw [pixelStrideSound_iff pixel positive bounds.2 some, ceilDiv_mul_le_iff positive]
  have step : sampleBytes handle.format * (handle.width.toNat - 1) + sampleBytes handle.format =
      sampleBytes handle.format * handle.width.toNat := by
    rw [Nat.mul_sub, Nat.mul_one]
    exact Nat.sub_add_cancel (Nat.le_mul_of_pos_right _ some)
  constructor
  · rintro ⟨room, reaches, whole⟩
    have double : 2 * (handle.width.toNat - 1) ≤
        sampleBytes handle.format * (handle.width.toNat - 1) := Nat.mul_le_mul_right _ bounds.1
    have below := stride.isLt
    exact ⟨whole, room, by omega⟩
  · rintro ⟨whole, room, fits⟩
    have covers : handle.width.toNat * sampleBytes handle.format ≤
        (createArgs handle).width.toNat * sampleBytes handle.format :=
      Nat.mul_le_mul_right _ (le_createArgs_width notYv12 fits)
    rw [Nat.mul_comm] at covers
    exact ⟨room, by omega, whole⟩

/-- The pixel stride of a format of gbm's own is sound exactly under its condition. -/
theorem pixelStride_sound_iff {handle : GrallocHandle}
    (named : grallocGmAndroidFormatToGbmFormat handle.format ∈ gbmFormats)
    (some : 1 ≤ handle.width.toNat) {stride : Word}
    (row : rowBytes (createArgs handle) ≤ stride.toNat) :
    PixelStrideSound handle.format handle.width stride ↔
      PixelStrideSoundWhen handle.format handle.width stride := by
  unfold PixelStrideSoundWhen
  cases pixelClass named with
  | unlisted listed pixel sample =>
      rw [if_pos listed, pixelStrideSound_iff pixel (by decide) (by decide) some, sample,
        Nat.mul_one]
      constructor
      · rintro ⟨room, reaches, -⟩
        exact ⟨reaches, room⟩
      · rintro ⟨reaches, room⟩
        exact ⟨room, reaches, ceilDiv_le (by decide)⟩
  | luma listed planar pixel sample =>
      rw [if_neg listed, if_pos planar, pixelStrideSound_iff pixel (by decide) (by decide) some,
        sample, Nat.mul_one]
      constructor
      · rintro ⟨room, reaches, -⟩
        exact ⟨reaches, room⟩
      · rintro ⟨reaches, room⟩
        exact ⟨room, reaches, ceilDiv_le (by decide)⟩
  | packed listed planar pixel bounds =>
      rw [if_neg listed, if_neg planar]
      exact pixelStrideSound_packed planar pixel bounds some row

/-- A handle of a width and a format, as an allocation creates it. -/
def stridedHandle (width format : Word) : GrallocHandle :=
  grallocHandleCreate ⟨0, 0, 0, 0, 0, 0, 0, 0, 0, 0, 0⟩ width 64 format grallocUsageHwTexture

theorem pixelStride_sound_iff_rgba : PixelStrideSound halPixelFormatRgba8888 64 256 :=
  (@pixelStride_sound_iff (stridedHandle 64 halPixelFormatRgba8888) (by decide) (by decide) 256
    (by decide)).mpr (by decide)

/-- Rows of one-byte and of luma samples are cut short, and a stride that is no
multiple of three bytes is exceeded. -/
theorem pixelStride_unsound :
    rowBytes (createArgs (stridedHandle 64 halPixelFormatBlob)) ≤ 64 ∧
      ¬ PixelStrideSound halPixelFormatBlob 64 64 ∧
      rowBytes (createArgs (stridedHandle 64 halPixelFormatYv12)) ≤ 64 ∧
      ¬ PixelStrideSound halPixelFormatYv12 64 64 ∧
      rowBytes (createArgs (stridedHandle 64 halPixelFormatRgb888)) ≤ 256 ∧
      ¬ PixelStrideSound halPixelFormatRgb888 64 256 := by
  unfold PixelStrideSound
  decide +kernel

end GrallocGbmMesa.Core
