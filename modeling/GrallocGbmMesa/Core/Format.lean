import GrallocGbmMesa.Lib.Bits
import GrallocGbmMesa.Platform.Constants

/-!
# Formats, usage flags and sizes

The pure part of the core library: the translation of Android pixel formats and
usage flags to GBM, the size of a pixel, and the arithmetic macros.  A `switch`
is a table; a format that is missing from the table takes the default branch.
-/

namespace GrallocGbmMesa.Core

open Bits
open GrallocGbmMesa.Platform

/-- The macro `ALIGN(A, B)` on `uint32_t`. -/
def align (a b : Word) : Word := (a + b - 1) &&& ~~~(b - 1)

/-- The macro `MAX(A, B)` on `uint32_t`. -/
def wordMax (a b : Word) : Word := if a > b then a else b

/-- The macro `DIV_ROUND_UP(n, d)` on `uint32_t`. -/
def divRoundUp (n d : Word) : Word := (n + d - 1) / d

/-! ## Pixel formats -/

def androidFormatTable : List (Word × Word) :=
  [(halPixelFormatRgba8888, gbmFormatAbgr8888),
   (halPixelFormatRgbx8888, gbmFormatXbgr8888),
   (halPixelFormatRgb888, gbmFormatBgr888),
   (halPixelFormatRgb565, gbmFormatBgr565),
   (halPixelFormatBgra8888, gbmFormatArgb8888),
   (halPixelFormatRaw16, gbmFormatR16),
   -- YV12 is planar, but must be a single buffer
   (halPixelFormatYv12, gbmFormatGr88),
   (halPixelFormatY8, gbmFormatR8),
   (halPixelFormatY16, gbmFormatR16),
   (halPixelFormatRgbaFp16, gbmFormatAbgr16161616F),
   (halPixelFormatRgba1010102, gbmFormatAbgr2101010),
   (halPixelFormatYCbCr422Sp, gbmFormatYuv422),
   (halPixelFormatYCbCr420888, gbmFormatYuv420),
   (halPixelFormatYCrCb420Sp, gbmFormatYuv420),
   (halPixelFormatYCbCrP010, gbmFourccCode 'P' '0' '1' '0'),
   (halPixelFormatBlob, gbmFormatR8),
   (halPixelFormatImplementationDefined, gbmFourccCode '9' '9' '9' '8')]

def grallocGmAndroidFormatToGbmFormat (androidFormat : Word) : Word :=
  (androidFormatTable.lookup androidFormat).getD 0

def grallocGmGetGbmFlagsFromAndroidUsage (usage androidFormat : Word) : Word :=
  let gbmFormat := grallocGmAndroidFormatToGbmFormat androidFormat
  let flags : Word := 0
  let flags := if Meets usage (grallocUsageSwReadOften ||| grallocUsageSwWriteOften) then
    flags ||| gbmBoUseLinear else flags
  let flags := if Meets usage grallocUsageCursor then
    (if gbmFormat = gbmFormatArgb8888 then flags ||| gbmBoUseCursor else flags) else flags
  let flags := if Meets usage (grallocUsageHwRender ||| grallocUsageHwTexture) then
    flags ||| gbmBoUseRendering else flags
  let flags := if Meets usage grallocUsageHwFb then flags ||| gbmBoUseScanout else flags
  let flags := if Meets usage grallocUsageHwComposer then
    flags ||| (gbmBoUseScanout ||| gbmBoUseRendering) else flags
  let flags := if Meets usage grallocUsageHwRender then flags ||| gbmBoUseRendering else flags
  if Meets usage grallocUsageProtected then flags ||| gbmBoUseProtected else flags

/-- The cursor flag is requested for one format only. -/
theorem flags_cursor_iff (usage androidFormat : Word) :
    Meets (grallocGmGetGbmFlagsFromAndroidUsage usage androidFormat) gbmBoUseCursor ↔
      Meets usage grallocUsageCursor ∧
        grallocGmAndroidFormatToGbmFormat androidFormat = gbmFormatArgb8888 := by
  have others : ¬ Meets gbmBoUseLinear gbmBoUseCursor ∧
      ¬ Meets gbmBoUseRendering gbmBoUseCursor ∧ ¬ Meets gbmBoUseScanout gbmBoUseCursor ∧
      ¬ Meets (gbmBoUseScanout ||| gbmBoUseRendering) gbmBoUseCursor ∧
      ¬ Meets gbmBoUseProtected gbmBoUseCursor := by decide
  obtain ⟨linear, rendering, scanout, composer, protect⟩ := others
  have cursor : Meets gbmBoUseCursor gbmBoUseCursor := by decide
  unfold grallocGmGetGbmFlagsFromAndroidUsage
  simp only [meets_ite_or, rendering, scanout, composer, protect, and_false, or_false]
  by_cases hcursor : Meets usage grallocUsageCursor
  · simp only [hcursor, if_true, meets_ite_or, linear, cursor, and_false, and_true, or_false,
      true_and]
    exact or_iff_right (not_meets_zero _)
  · simp only [hcursor, if_false, meets_ite_or, linear, and_false, or_false, false_and, iff_false]
    exact not_meets_zero _

/-- Linear storage is requested for two kinds of CPU access. -/
theorem flags_linear_iff (usage androidFormat : Word) :
    Meets (grallocGmGetGbmFlagsFromAndroidUsage usage androidFormat) gbmBoUseLinear ↔
      Meets usage (grallocUsageSwReadOften ||| grallocUsageSwWriteOften) := by
  have others : ¬ Meets gbmBoUseCursor gbmBoUseLinear ∧
      ¬ Meets gbmBoUseRendering gbmBoUseLinear ∧ ¬ Meets gbmBoUseScanout gbmBoUseLinear ∧
      ¬ Meets (gbmBoUseScanout ||| gbmBoUseRendering) gbmBoUseLinear ∧
      ¬ Meets gbmBoUseProtected gbmBoUseLinear := by decide
  obtain ⟨cursor, rendering, scanout, composer, protect⟩ := others
  have linear : Meets gbmBoUseLinear gbmBoUseLinear := by decide
  unfold grallocGmGetGbmFlagsFromAndroidUsage
  simp only [meets_ite_or, rendering, scanout, composer, protect, and_false, or_false]
  by_cases hcursor : Meets usage grallocUsageCursor
  · simp only [hcursor, if_true, meets_ite_or, cursor, linear, and_false, and_true, or_false]
    exact or_iff_right (not_meets_zero _)
  · simp only [hcursor, if_false, meets_ite_or, linear, and_true]
    exact or_iff_right (not_meets_zero _)

/-! ## Pixel sizes -/

def gbmBppTable : List (Word × Nat) :=
  [(gbmFormatC8, 8), (gbmFormatRgb332, 8), (gbmFormatBgr233, 8),
   (gbmFormatYuv420, 12), (gbmFormatNv12, 12), (gbmFormatNv21, 12), (gbmFormatYvu420, 12),
   (gbmFormatXrgb4444, 16), (gbmFormatXbgr4444, 16), (gbmFormatRgbx4444, 16),
   (gbmFormatBgrx4444, 16), (gbmFormatArgb4444, 16), (gbmFormatAbgr4444, 16),
   (gbmFormatRgba4444, 16), (gbmFormatBgra4444, 16), (gbmFormatXrgb1555, 16),
   (gbmFormatXbgr1555, 16), (gbmFormatRgbx5551, 16), (gbmFormatBgrx5551, 16),
   (gbmFormatArgb1555, 16), (gbmFormatAbgr1555, 16), (gbmFormatRgba5551, 16),
   (gbmFormatBgra5551, 16), (gbmFormatRgb565, 16), (gbmFormatBgr565, 16),
   (gbmFormatYuyv, 16), (gbmFormatYvyu, 16), (gbmFormatUyvy, 16), (gbmFormatVyuy, 16),
   (gbmFormatYuv422, 16),
   (gbmFormatR16, 16), (gbmFormatGr88, 16),
   (gbmFormatRgb888, 24), (gbmFormatBgr888, 24),
   (gbmFormatYuv444, 24),
   (gbmFormatXrgb8888, 32), (gbmFormatXbgr8888, 32), (gbmFormatRgbx8888, 32),
   (gbmFormatBgrx8888, 32), (gbmFormatArgb8888, 32), (gbmFormatAbgr8888, 32),
   (gbmFormatRgba8888, 32), (gbmFormatBgra8888, 32), (gbmFormatXrgb2101010, 32),
   (gbmFormatXbgr2101010, 32), (gbmFormatArgb2101010, 32), (gbmFormatAbgr2101010, 32),
   (gbmFormatRg1616, 32),
   (gbmFormatXbgr16161616, 64), (gbmFormatAbgr16161616, 64),
   (gbmFormatXbgr16161616F, 64), (gbmFormatAbgr16161616F, 64)]

def grallocGmGetBppFromGbmFormat (gbmFormat : Word) : Nat :=
  (gbmBppTable.lookup gbmFormat).getD 0

def grallocGmGetBytesPerPixelFromGbmFormat (gbmFormat : Word) : Nat :=
  let bpp := grallocGmGetBppFromGbmFormat gbmFormat
  if bpp > 0 then (bpp + 7) / 8 else 4

def grallocGmGetBytesPerPixelFromAndroidFormat (androidFormat : Word) : Nat :=
  grallocGmGetBytesPerPixelFromGbmFormat (grallocGmAndroidFormatToGbmFormat androidFormat)

def grallocGmAndroidCaculatePixelStride (androidFormat stride : Word) : Word :=
  let bytesPerPixel := grallocGmGetBytesPerPixelFromAndroidFormat androidFormat
  divRoundUp stride (BitVec.ofNat 32 bytesPerPixel)

end GrallocGbmMesa.Core
