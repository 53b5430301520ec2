import GrallocGbmMesa.Core.Format
import GrallocGbmMesa.Lib.PartialMap
import GrallocGbmMesa.Mapper.Metadata

/-!
# Plane layouts of the GBM formats

The table behind `PLANE_LAYOUTS`, with the component types of the common
graphics interface.
-/

namespace GrallocGbmMesa.Mapper

open GrallocGbmMesa.Platform

def planeLayoutComponentType (value : BitVec 64) : ExtendableType :=
  { name := "android.hardware.graphics.common.PlaneLayoutComponentType", value }

def planeLayoutComponentTypeY : ExtendableType := planeLayoutComponentType 0x1#64
def planeLayoutComponentTypeCb : ExtendableType := planeLayoutComponentType 0x2#64
def planeLayoutComponentTypeCr : ExtendableType := planeLayoutComponentType 0x4#64
def planeLayoutComponentTypeR : ExtendableType := planeLayoutComponentType 0x400#64
def planeLayoutComponentTypeG : ExtendableType := planeLayoutComponentType 0x800#64
def planeLayoutComponentTypeB : ExtendableType := planeLayoutComponentType 0x1000#64
def planeLayoutComponentTypeA : ExtendableType := planeLayoutComponentType 0x40000000#64

/-- A plane of the table, whose sizes are filled in later. -/
def tablePlane (components : List (ExtendableType × Nat × Nat)) (sampleIncrementInBits : Nat)
    (subsampling : Nat) : PlaneLayout where
  components := components.map fun (type, offsetInBits, sizeInBits) =>
    { type
      offsetInBits := BitVec.ofNat 64 offsetInBits
      sizeInBits := BitVec.ofNat 64 sizeInBits }
  sampleIncrementInBits := BitVec.ofNat 64 sampleIncrementInBits
  horizontalSubsampling := BitVec.ofNat 64 subsampling
  verticalSubsampling := BitVec.ofNat 64 subsampling

/-- `GetPlaneLayoutsMap` -/
def planeLayoutsMap : List (Word × List PlaneLayout) :=
  [(gbmFormatAbgr8888,
      [tablePlane [(planeLayoutComponentTypeR, 0, 8), (planeLayoutComponentTypeG, 8, 8),
        (planeLayoutComponentTypeB, 16, 8), (planeLayoutComponentTypeA, 24, 8)] 32 1]),
   (gbmFormatAbgr2101010,
      [tablePlane [(planeLayoutComponentTypeR, 0, 10), (planeLayoutComponentTypeG, 10, 10),
        (planeLayoutComponentTypeB, 20, 10), (planeLayoutComponentTypeA, 30, 2)] 32 1]),
   (gbmFormatAbgr16161616F,
      [tablePlane [(planeLayoutComponentTypeR, 0, 16), (planeLayoutComponentTypeG, 16, 16),
        (planeLayoutComponentTypeB, 32, 16), (planeLayoutComponentTypeA, 48, 16)] 64 1]),
   (gbmFormatArgb8888,
      [tablePlane [(planeLayoutComponentTypeB, 0, 8), (planeLayoutComponentTypeG, 8, 8),
        (planeLayoutComponentTypeR, 16, 8), (planeLayoutComponentTypeA, 24, 8)] 32 1]),
   (gbmFormatNv12,
      [tablePlane [(planeLayoutComponentTypeY, 0, 8)] 8 1,
       tablePlane [(planeLayoutComponentTypeCb, 0, 8), (planeLayoutComponentTypeCr, 8, 8)] 16 2]),
   (gbmFormatNv21,
      [tablePlane [(planeLayoutComponentTypeY, 0, 8)] 8 1,
       tablePlane [(planeLayoutComponentTypeCr, 0, 8), (planeLayoutComponentTypeCb, 8, 8)] 16 2]),
   (gbmFormatR8, [tablePlane [(planeLayoutComponentTypeR, 0, 8)] 8 1]),
   (gbmFormatR16, [tablePlane [(planeLayoutComponentTypeR, 0, 16)] 16 1]),
   (gbmFormatRgb565,
      [tablePlane [(planeLayoutComponentTypeB, 0, 5), (planeLayoutComponentTypeG, 5, 6),
        (planeLayoutComponentTypeR, 11, 5)] 16 1]),
   (gbmFormatBgr888,
      [tablePlane [(planeLayoutComponentTypeR, 0, 8), (planeLayoutComponentTypeG, 8, 8),
        (planeLayoutComponentTypeB, 16, 8)] 24 1]),
   (gbmFormatXbgr8888,
      [tablePlane [(planeLayoutComponentTypeR, 0, 8), (planeLayoutComponentTypeG, 8, 8),
        (planeLayoutComponentTypeB, 16, 8)] 32 1]),
   (gbmFormatYvu420,
      [tablePlane [(planeLayoutComponentTypeY, 0, 8)] 8 1,
       tablePlane [(planeLayoutComponentTypeCr, 0, 8)] 8 2,
       tablePlane [(planeLayoutComponentTypeCb, 0, 8)] 8 2]),
   (gbmFormatRgbx8888,
      [tablePlane [(planeLayoutComponentTypeB, 16, 8), (planeLayoutComponentTypeG, 8, 8),
        (planeLayoutComponentTypeR, 0, 8)] 32 1]),
   (gbmFormatXrgb8888,
      [tablePlane [(planeLayoutComponentTypeB, 16, 8), (planeLayoutComponentTypeG, 8, 8),
        (planeLayoutComponentTypeR, 0, 8)] 32 1])]

/-- An unknown format leaves the empty list it was given. -/
def getPlaneLayouts (gbmFormat : Word) : List PlaneLayout :=
  (planeLayoutsMap.lookup gbmFormat).getD []

/-- The sizes of a plane of the table, from the words of the handle. -/
def sizedPlane (stride width height : Word) (layout : PlaneLayout) : PlaneLayout :=
  { layout with
    offsetInBytes := 0
    strideInBytes := stride.setWidth 64
    totalSizeInBytes := (stride * Core.divRoundUp height 1).setWidth 64
    widthInSamples := (width.setWidth 64).sdiv layout.horizontalSubsampling
    heightInSamples := (height.setWidth 64).sdiv layout.verticalSubsampling }

/-! ## Size of the encoding -/

/-- The encoding of a plane has a size that its components determine. -/
def planeSize (layout : PlaneLayout) : Nat :=
  72 + (layout.components.flatMap writeComponent).flatten.length

theorem writePlaneLayout_length (layout : PlaneLayout) :
    (writePlaneLayout layout).flatten.length = planeSize layout := by
  simp only [writePlaneLayout, writeSize, writeInt64, List.flatten_append, List.flatten_singleton,
    List.length_append, ByteStream.littleEndian_length, planeSize]
  omega

theorem writePlaneLayouts_length (layouts : List PlaneLayout) :
    (layouts.flatMap writePlaneLayout).flatten.length = (layouts.map planeSize).sum := by
  induction layouts with
  | nil => rfl
  | cons layout rest ih =>
      rw [List.flatMap_cons, List.flatten_append, List.length_append, ih,
        writePlaneLayout_length, List.map_cons, List.sum_cons]

/-- The components of the table differ in their values, not in their names. -/
theorem planeLayoutsMap_names : ∀ entry ∈ planeLayoutsMap, ∀ layout ∈ entry.2,
    ∀ component ∈ layout.components,
      component.type.name = (planeLayoutComponentType 0).name := by
  simp only [planeLayoutsMap, tablePlane, List.forall_mem_cons, List.not_mem_nil, false_implies,
    implies_true, List.map_cons, List.map_nil, planeLayoutComponentTypeY,
    planeLayoutComponentTypeCb, planeLayoutComponentTypeCr, planeLayoutComponentTypeR,
    planeLayoutComponentTypeG, planeLayoutComponentTypeB, planeLayoutComponentTypeA,
    planeLayoutComponentType, and_true]

theorem components_length {components : List PlaneLayoutComponent}
    (names : ∀ component ∈ components,
      component.type.name = (planeLayoutComponentType 0).name) :
    (components.flatMap writeComponent).flatten.length = 89 * components.length := by
  induction components with
  | nil => rfl
  | cons component rest ih =>
      have name : (stringBytes component.type.name).length = 57 := by
        rw [names component List.mem_cons_self]
        decide +kernel
      have first : (writeComponent component).flatten.length = 89 := by
        simp [writeComponent, writeExtendable, writeString, writeBytes, writeSize, writeInt64, name]
      rw [List.flatMap_cons, List.flatten_append, List.length_append, first,
        ih fun other hmem => names other (List.mem_cons_of_mem _ hmem), List.length_cons]
      omega

/-- Every entry of the table is short once it is encoded. -/
theorem planeLayouts_short (gbmFormat stride width height : Word) :
    (((getPlaneLayouts gbmFormat).map (sizedPlane stride width height)).map planeSize).sum ≤
      1000 := by
  have sized : planeSize ∘ sizedPlane stride width height = planeSize := rfl
  rw [List.map_map, sized]
  have table : ∀ entry ∈ planeLayoutsMap,
      (entry.2.map fun layout => 72 + 89 * layout.components.length).sum ≤ 1000 := by
    decide +kernel
  unfold getPlaneLayouts
  cases found : planeLayoutsMap.lookup gbmFormat with
  | none => exact Nat.zero_le _
  | some layouts =>
      have hmem := PartialMap.lookup_mem found
      have sizes : layouts.map planeSize =
          layouts.map fun layout => 72 + 89 * layout.components.length := by
        apply List.map_congr_left
        intro layout hlayout
        rw [planeSize, components_length (planeLayoutsMap_names _ hmem layout hlayout)]
      rw [Option.getD_some, sizes]
      exact table _ hmem

end GrallocGbmMesa.Mapper
