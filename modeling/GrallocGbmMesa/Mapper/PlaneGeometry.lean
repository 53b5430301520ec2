import GrallocGbmMesa.Core.YcbcrLocks
import GrallocGbmMesa.Mapper.BufferSizes

/-!
# Planes of an imported buffer

What a client may take from `PLANE_LAYOUTS`: where the samples of each plane are, and that
they are inside the buffer.  The table has no planes for most of the formats that have more
than one.
-/

namespace GrallocGbmMesa.Mapper

open Bits Checked TransitionSystem
open GrallocGbmMesa.Platform GrallocGbmMesa.Core

/-! ## Samples -/

/-- Two components share no bit of a sample. -/
def BitsApart (first second : PlaneLayoutComponent) : Prop :=
  first.offsetInBits.toInt + first.sizeInBits.toInt ≤ second.offsetInBits.toInt ∨
    second.offsetInBits.toInt + second.sizeInBits.toInt ≤ first.offsetInBits.toInt

instance (first second : PlaneLayoutComponent) : Decidable (BitsApart first second) :=
  inferInstanceAs (Decidable (_ ∨ _))

/-- The component lies inside the sample. -/
def BitsInside (increment : BitVec 64) (component : PlaneLayoutComponent) : Prop :=
  0 ≤ component.offsetInBits.toInt ∧ 0 < component.sizeInBits.toInt ∧
    component.offsetInBits.toInt + component.sizeInBits.toInt ≤ increment.toInt

instance (increment : BitVec 64) (component : PlaneLayoutComponent) :
    Decidable (BitsInside increment component) :=
  inferInstanceAs (Decidable (_ ∧ _))

/-- The components of a sample are inside it and apart from each other. -/
def SampleSound (plane : PlaneLayout) : Prop :=
  (∀ component ∈ plane.components, BitsInside plane.sampleIncrementInBits component) ∧
    plane.components.Pairwise BitsApart

instance (plane : PlaneLayout) : Decidable (SampleSound plane) :=
  inferInstanceAs (Decidable (_ ∧ _))

/-- The samples of every plane of the table are sound. -/
theorem planeLayoutsMap_sound : ∀ entry ∈ planeLayoutsMap, ∀ plane ∈ entry.2, SampleSound plane :=
  PartialMap.forall_mem_of_all (by decide +kernel)

/-! ## Planes -/

/-- The bytes of a plane end here. -/
def planeEnd (plane : PlaneLayout) : Int :=
  plane.offsetInBytes.toInt + plane.strideInBytes.toInt * plane.heightInSamples.toInt

/-- Two planes share no byte. -/
def PlanesApart (first second : PlaneLayout) : Prop :=
  planeEnd first ≤ second.offsetInBytes.toInt ∨ planeEnd second ≤ first.offsetInBytes.toInt

/-- The byte of a component in its plane. -/
def componentOffset (plane : PlaneLayout) (component : PlaneLayoutComponent) : Int :=
  plane.offsetInBytes.toInt + component.offsetInBits.toInt / 8

/-- One of the planes has the component. -/
def HasComponent (planes : List PlaneLayout) (type : ExtendableType) (plane : PlaneLayout)
    (component : PlaneLayoutComponent) : Prop :=
  plane ∈ planes ∧ component ∈ plane.components ∧ component.type = type

/-- The planes say where a lock finds the samples. -/
def YcbcrOfPlanes (planes : List PlaneLayout) (ycbcr : AndroidYcbcr) : Prop :=
  ∃ luma y blue cb red cr, HasComponent planes planeLayoutComponentTypeY luma y ∧
    HasComponent planes planeLayoutComponentTypeCb blue cb ∧
    HasComponent planes planeLayoutComponentTypeCr red cr ∧
    componentOffset luma y = 0 ∧ (ycbcr.cb : Int) = ycbcr.y + componentOffset blue cb ∧
    (ycbcr.cr : Int) = ycbcr.y + componentOffset red cr ∧
    ycbcr.ystride = luma.strideInBytes ∧ ycbcr.cstride = blue.strideInBytes ∧
    ycbcr.cstride = red.strideInBytes ∧
    8 * ycbcr.chromaStep.toInt = blue.sampleIncrementInBits.toInt ∧
    8 * ycbcr.chromaStep.toInt = red.sampleIncrementInBits.toInt

/-- The reported planes describe the buffer. -/
structure PlanesDescribe (s : Process) (p : Ptr) (handle : GrallocHandle) (bo : GbmBo) :
    Prop where
  nonempty : reportedPlanes handle ≠ []
  samples : ∀ plane ∈ reportedPlanes handle, SampleSound plane
  inside : ∀ plane ∈ reportedPlanes handle,
    0 ≤ plane.offsetInBytes.toInt ∧ planeEnd plane ≤ bo.stride.toNat * bo.height.toNat
  rows : ∀ plane ∈ reportedPlanes handle,
    plane.widthInSamples.toInt * plane.sampleIncrementInBits.toInt ≤ 8 * plane.strideInBytes.toInt
  disjoint : (reportedPlanes handle).Pairwise PlanesApart
  covers : ∀ plane ∈ reportedPlanes handle,
    handle.width.toNat ≤ plane.widthInSamples.toInt * plane.horizontalSubsampling.toInt ∧
      handle.height.toNat ≤ plane.heightInSamples.toInt * plane.verticalSubsampling.toInt
  locks : ∀ {answer : GbmMapResult} {usage : Word} {ycbcr : AndroidYcbcr} {s' : Process},
    grallocGbmBoLockYcbcr answer s p usage = .ok (0, some ycbcr, s') →
      YcbcrOfPlanes (reportedPlanes handle) ycbcr

/-! ## When they do -/

theorem sampleSound_of_format {androidFormat : Word} {layout : PlaneLayout}
    (only : getPlaneLayouts (grallocGmAndroidFormatToGbmFormat androidFormat) = [layout]) :
    SampleSound layout := by
  unfold getPlaneLayouts at only
  cases found : planeLayoutsMap.lookup (grallocGmAndroidFormatToGbmFormat androidFormat) with
  | none =>
      rw [found] at only
      cases only
  | some layouts =>
      rw [found, Option.getD_some] at only
      refine planeLayoutsMap_sound _ (PartialMap.lookup_mem found) layout ?_
      rw [only]
      exact List.mem_singleton_self layout

/-- A listed format has samples of whole bytes, and is not one of those locked with planes. -/
theorem planeFormats_sample {androidFormat : Word} (listed : androidFormat ∈ planeFormats) :
    0 < sampleBytes androidFormat ∧ sampleBytes androidFormat ≤ 8 ∧
      androidFormat ∉ ycbcrFormats := by
  have known : (planeFormats.all fun format =>
      0 < sampleBytes format ∧ sampleBytes format ≤ 8 ∧ format ∉ ycbcrFormats) = true := by
    decide +kernel
  exact of_decide_eq_true (List.all_eq_true.mp known androidFormat listed)

/-- The increment of a plane of whole pixels. -/
theorem WholePlane.increment {androidFormat : Word} {layout : PlaneLayout}
    (whole : WholePlane androidFormat layout) (small : sampleBytes androidFormat ≤ 8) :
    layout.sampleIncrementInBits.toInt = 8 * sampleBytes androidFormat := by
  have value : layout.sampleIncrementInBits.toNat = 8 * sampleBytes androidFormat := by
    rw [whole.2.2, BitVec.toNat_ofNat, Nat.mod_eq_of_lt (by omega)]
  rw [BitVec.toInt_eq_toNat_of_lt (by omega), value]
  rfl

section Describe

variable {s : Process} {p : Ptr} {handle : GrallocHandle} {bo : GbmBo}

/-- The planes describe a buffer with rows of its stride exactly if the table has its format
and the padding of a cursor does not wrap around. -/
theorem planesDescribe_iff (imported : ImportedBuffer s p handle bo)
    (sized : ImportSized handle.native bo) (stride : bo.stride = handle.stride)
    (width : 1 ≤ handle.width.toNat) (height : 1 ≤ handle.height.toNat)
    (row : handle.width.toNat * sampleBytes handle.format ≤ handle.stride.toNat) :
    PlanesDescribe s p handle bo ↔ handle.format ∈ planeFormats ∧ PaddingFits handle := by
  rcases planes_of_format handle.format with ⟨unlisted, none⟩ | ⟨listed, layout, whole, only⟩
  · refine iff_of_false (fun h => h.nonempty ?_) fun h => unlisted h.1
    unfold reportedPlanes
    rw [none]
    rfl
  have planes : reportedPlanes handle =
      [sizedPlane handle.stride handle.width handle.height layout] := by
    unfold reportedPlanes
    rw [only]
    rfl
  obtain ⟨positive, small, other⟩ := planeFormats_sample listed
  have increment := whole.increment small
  have sample := sampleSound_of_format only
  have resized := whole.sized handle.stride handle.width handle.height
  obtain ⟨q, hbuffer⟩ := imported.registered
  have live (q' : Ptr) (registered : s.gbmBoHandleMap p = some q') : s.bos q' ≠ .none := by
    cases hbuffer.1.symm.trans registered
    rw [hbuffer.2]
    exact nofun
  rw [and_iff_right listed]
  generalize sizedPlane handle.stride handle.width handle.height layout = plane at planes resized
  have bytes : planeEnd plane = (handle.stride.toNat * handle.height.toNat : Nat) := by
    rw [resized, planeEnd]
    dsimp only
    rw [toInt_widen, toInt_widen, Int.natCast_mul]
    exact Int.zero_add _
  constructor
  · intro h
    have inside := (h.inside plane (by rw [planes]; exact List.mem_singleton_self plane)).2
    rw [bytes] at inside
    rcases sized.height_cases (planeFormats_packed listed) with ⟨fits, -⟩ | ⟨-, empty, -⟩
    · exact fits
    · -- a plane with a row and a byte in it is not inside a BO without rows
      have some : 0 < handle.stride.toNat * handle.height.toNat :=
        Nat.mul_pos (Nat.lt_of_lt_of_le (Nat.mul_pos width positive) row) height
      rw [empty] at inside
      omega
  · intro fits
    have covers : handle.height.toNat ≤ bo.height.toNat := by
      rcases sized.height_cases (planeFormats_packed listed) with ⟨-, covers⟩ | ⟨wraps, -⟩
      · exact covers
      · exact absurd fits wraps
    have only (P : PlaneLayout → Prop) (holds : P plane) : ∀ plane ∈ reportedPlanes handle,
        P plane := by
      rw [planes]
      exact List.forall_mem_singleton.mpr holds
    refine ⟨?_, only _ ?_, only _ ⟨?_, ?_⟩, only _ ?_, ?_, only _ ⟨?_, ?_⟩, ?_⟩
    · rw [planes]
      exact List.cons_ne_nil _ _
    · rw [resized]
      exact sample
    · rw [resized]
      exact Int.le_refl 0
    · rw [bytes, stride]
      exact Int.ofNat_le.mpr (Nat.mul_le_mul_left _ covers)
    · rw [resized]
      dsimp only
      rw [toInt_widen, toInt_widen, increment]
      have wide : handle.width.toNat * (8 * sampleBytes handle.format) ≤
          8 * handle.stride.toNat := by
        rw [Nat.mul_left_comm]
        exact Nat.mul_le_mul_left 8 row
      exact_mod_cast wide
    · rw [planes]
      exact List.pairwise_singleton _ plane
    · rw [resized]
      dsimp only
      rw [toInt_widen, whole.1]
      exact Int.le_of_eq (Int.mul_one _).symm
    · rw [resized]
      dsimp only
      rw [toInt_widen, whole.2.1]
      exact Int.le_of_eq (Int.mul_one _).symm
    · intro answer usage ycbcr s' returns
      exact absurd (format_of_ycbcr live imported.placed (.native _) returns) other

end Describe

/-- In every state that a client reaches, the planes reported of a buffer that has an image,
and a BO with the stride of its handle, describe it exactly under their condition. -/
theorem planeLayouts_describe_iff {first last : Session} {labels : List ClientEvent}
    (initial : clientSystem.initial first) (run : Run clientSystem first labels last) {p : Ptr}
    (held : p ∈ last.outstanding) :
    ∃ handle bo, ImportedBuffer last.mapper.process p handle bo ∧
      Reports last.mapper p .planeLayouts (reportedPlanes handle) ∧
      (bo.stride = handle.stride → 1 ≤ handle.width.toNat → 1 ≤ handle.height.toNat →
        handle.width.toNat * sampleBytes handle.format ≤ handle.stride.toNat →
        (PlanesDescribe last.mapper.process p handle bo ↔
          handle.format ∈ planeFormats ∧ PaddingFits handle)) := by
  obtain ⟨handle, bo, imported, -, planes⟩ := importedBuffer_of_held initial run held
  obtain ⟨q, hbuffer⟩ := imported.registered
  have sized := sized_of_clientRun initial run p q bo handle.native hbuffer imported.placed
  refine ⟨handle, bo, imported, planes, fun stride width height row => ?_⟩
  exact planesDescribe_iff imported sized stride width height row

theorem planeLayouts_describe_iff_imported :
    ∃ handle, ImportedBuffer importedSession.mapper.process 16 handle importedBuffer ∧
      PlanesDescribe importedSession.mapper.process 16 handle importedBuffer := by
  have run := Run.single (clientStep_of_session importedSession_step)
  have held : 16 ∈ importedSession.outstanding := by decide +kernel
  obtain ⟨handle, bo, imported, -, describe⟩ :=
    planeLayouts_describe_iff startedSession_initial run held
  obtain ⟨rfl, width, height, stride, format, usage⟩ := importedSession_words imported
  refine ⟨handle, imported, (describe ?_ ?_ ?_ ?_).mpr ⟨?_, ?_⟩⟩
  · rw [stride]
    rfl
  · rw [width]
    decide
  · rw [height]
    decide
  · rw [width, stride, format]
    decide +kernel
  · rw [format]
    decide
  · intro cursor
    rw [usage] at cursor
    exact absurd cursor (by decide)

/-- A handle in a format that is translated to BGR565, which the table has not. -/
def rgb565Handle : GrallocHandle :=
  { bigHandle with
    width := 64#32
    height := 64#32
    format := halPixelFormatRgb565
    stride := 128#32 }

def rgb565Session : Session := startedSession.next (importOf rgb565Handle)

/-- No plane is reported of a 64 by 64 buffer in RGB_565. -/
theorem planeLayouts_missing :
    Reachable clientSystem rgb565Session ∧ 16 ∈ rgb565Session.outstanding ∧
      ∃ bo, ImportedBuffer rgb565Session.mapper.process 16
          { rgb565Handle with primeFd := 8#32 } bo ∧ bo.stride = 128#32 ∧
        grallocGmAndroidFormatToGbmFormat halPixelFormatRgb565 ≠ 0 ∧
        reportedPlanes rgb565Handle = [] ∧
        ¬ PlanesDescribe rgb565Session.mapper.process 16
          { rgb565Handle with primeFd := 8#32 } bo := by
  let bo : GbmBo :=
    { width := 64#32, height := 64#32, stride := 128#32, modifier := 0, file := 9,
      userData := none, mappings := [] }
  have none : reportedPlanes rgb565Handle = [] :=
    List.length_eq_zero_iff.mp (by decide +kernel)
  refine ⟨importOf_reachable (by decide +kernel), by decide +kernel, bo,
    ⟨by decide +kernel, 32, by decide +kernel, by decide +kernel⟩, rfl, by decide, none, ?_⟩
  exact fun h => h.nonempty none

end GrallocGbmMesa.Mapper
