import GrallocGbmMesa.Core.PixelStride
import GrallocGbmMesa.Core.Sizes
import GrallocGbmMesa.Mapper.ImportedSizes
import GrallocGbmMesa.Mapper.Reports

/-!
# Reported sizes

`ALLOCATION_SIZE` is a product of two words of the BO and `totalSizeInBytes` one of two
words of the handle.  Both are widened to 64 bits after they have been multiplied in 32.
-/

namespace GrallocGbmMesa.Mapper

open Bits Checked TransitionSystem
open GrallocGbmMesa.Platform GrallocGbmMesa.Core

/-! ## What is reported of an imported buffer -/

/-- A buffer of the registry, with the words of its handle and its BO. -/
structure ImportedBuffer (s : Process) (p : Ptr) (handle : GrallocHandle) (bo : GbmBo) :
    Prop where
  placed : s.handles p = some handle.native
  registered : ∃ q, Buffer s p q bo

/-- `ALLOCATION_SIZE` -/
def allocationSize (bo : GbmBo) : BitVec 64 := (bo.stride * bo.height).setWidth 64

/-- `PLANE_LAYOUTS` -/
def reportedPlanes (handle : GrallocHandle) : List PlaneLayout :=
  (getPlaneLayouts (grallocGmAndroidFormatToGbmFormat handle.format)).map
    (sizedPlane handle.stride handle.width handle.height)

/-- The formats whose planes are in the table. -/
def planeFormats : List Word :=
  [halPixelFormatRgba8888, halPixelFormatRgbx8888, halPixelFormatRgb888, halPixelFormatBgra8888,
    halPixelFormatRaw16, halPixelFormatY8, halPixelFormatY16, halPixelFormatRgbaFp16,
    halPixelFormatRgba1010102, halPixelFormatBlob]

/-- A plane of the table with one sample for each pixel. -/
def WholePlane (androidFormat : Word) (layout : PlaneLayout) : Prop :=
  layout.horizontalSubsampling = 1#64 ∧ layout.verticalSubsampling = 1#64 ∧
    layout.sampleIncrementInBits = BitVec.ofNat 64 (8 * sampleBytes androidFormat)

instance (androidFormat : Word) (layout : PlaneLayout) :
    Decidable (WholePlane androidFormat layout) :=
  inferInstanceAs (Decidable (_ ∧ _))

/-- The table has one plane of whole pixels for these formats and none for any other. -/
theorem planes_of_format (androidFormat : Word) :
    (androidFormat ∉ planeFormats ∧
        getPlaneLayouts (grallocGmAndroidFormatToGbmFormat androidFormat) = []) ∨
      (androidFormat ∈ planeFormats ∧ ∃ layout, WholePlane androidFormat layout ∧
        getPlaneLayouts (grallocGmAndroidFormatToGbmFormat androidFormat) = [layout]) := by
  have table : ∀ entry ∈ androidFormatTable,
      (entry.1 ∉ planeFormats ∧ (getPlaneLayouts entry.2).length = 0) ∨
        (entry.1 ∈ planeFormats ∧ (getPlaneLayouts entry.2).length = 1 ∧
          ∀ layout ∈ getPlaneLayouts entry.2, WholePlane entry.1 layout) :=
    PartialMap.forall_mem_of_all (by decide +kernel)
  unfold grallocGmAndroidFormatToGbmFormat
  cases found : androidFormatTable.lookup androidFormat with
  | none =>
      have unknown : (getPlaneLayouts 0).length = 0 := by decide +kernel
      refine .inl ⟨fun listed => ?_, List.length_eq_zero_iff.mp unknown⟩
      have known : (planeFormats.all fun format =>
          (PartialMap.keys androidFormatTable).contains format) = true := by decide +kernel
      have key := List.contains_iff_mem.mp (List.all_eq_true.mp known androidFormat listed)
      exact PartialMap.lookup_eq_none.mp found key
  | some gbmFormat =>
      rw [Option.getD_some]
      rcases table _ (PartialMap.lookup_mem found) with ⟨unlisted, none⟩ | ⟨listed, one, whole⟩
      · exact .inl ⟨unlisted, List.length_eq_zero_iff.mp none⟩
      · obtain ⟨layout, only⟩ := List.length_eq_one_iff.mp one
        refine .inr ⟨listed, layout, whole layout ?_, only⟩
        rw [only]
        exact List.mem_singleton_self layout

theorem toInt_widen (value : Word) : (value.setWidth 64).toInt = value.toNat := by
  have below := value.isLt
  rw [BitVec.toInt_eq_toNat_of_lt, BitVec.toNat_setWidth, Nat.mod_eq_of_lt (by omega)]
  rw [BitVec.toNat_setWidth, Nat.mod_eq_of_lt (by omega)]
  omega

theorem divRoundUp_one (value : Word) : divRoundUp value 1 = value := by
  unfold divRoundUp
  rw [BitVec.add_sub_cancel]
  exact BitVec.udiv_one

/-- The sizes of a plane of whole pixels. -/
theorem WholePlane.sized {androidFormat : Word} {layout : PlaneLayout}
    (whole : WholePlane androidFormat layout) (stride width height : Word) :
    sizedPlane stride width height layout =
      { layout with
        offsetInBytes := 0
        strideInBytes := stride.setWidth 64
        totalSizeInBytes := (stride * height).setWidth 64
        widthInSamples := width.setWidth 64
        heightInSamples := height.setWidth 64 } := by
  unfold sizedPlane
  rw [divRoundUp_one, whole.1, whole.2.1, BitVec.sdiv_one, BitVec.sdiv_one]

/-- In every state that a client reaches, its buffers are of gralloc handles, and this is
reported of them. -/
theorem importedBuffer_of_held {first last : Session} {labels : List ClientEvent}
    (initial : clientSystem.initial first) (run : Run clientSystem first labels last) {p : Ptr}
    (held : p ∈ last.outstanding) :
    ∃ handle bo, ImportedBuffer last.mapper.process p handle bo ∧
      Reports last.mapper p .allocationSize (allocationSize bo) ∧
      Reports last.mapper p .planeLayouts (reportedPlanes handle) := by
  obtain ⟨base, imports, ledger, outstanding⟩ := Ledger.of_clientRun initial run
  rw [outstanding] at held
  obtain ⟨entry, hmem, rfl⟩ := List.mem_map.mp held
  have placed : last.mapper.process.handles entry.handle = some entry.native := ledger.native hmem
  have registered : last.mapper.process.gbmBoHandleMap entry.handle = some entry.bo :=
    ledger.registered hmem
  obtain ⟨bo, live⟩ := Option.ne_none_iff_exists'.mp (ledger.live hmem)
  obtain ⟨handle, same⟩ := exists_handle (ledger.valid entry hmem).wellFormed
  have readable : Readable last.mapper entry.handle entry.native entry.primeFd :=
    ⟨ledger.initialized entry hmem, (ledger.valid entry hmem).nonNull, placed, Ledger.prime entry⟩
  have live' : last.mapper.process.bos entry.bo = some bo := live
  refine ⟨handle, bo, ⟨same ▸ placed, entry.bo, registered, live⟩, ?_, ?_⟩
  · refine readable.reports (by decide) ?_
    simp only [provideValue, grallocGetGbmBoFromHandle, registered, Process.bo_eq_ok.mpr live',
      ok_bind]
    rfl
  · refine readable.reports (by decide) ?_
    rw [same]
    rfl

/-! ## Exact sizes -/

/-- The sizes are the products of what they are made of, over the numbers, and a single plane
is no larger than the allocation. -/
structure SizesExact (handle : GrallocHandle) (bo : GbmBo) : Prop where
  allocation : (allocationSize bo).toNat = bo.stride.toNat * bo.height.toNat
  planes : ∀ plane ∈ reportedPlanes handle,
    plane.totalSizeInBytes.toInt = plane.strideInBytes.toInt * plane.heightInSamples.toInt
  single : ∀ plane, reportedPlanes handle = [plane] →
    plane.totalSizeInBytes.toInt ≤ (allocationSize bo).toNat

/-- The BO is below 4 GiB, and holds the rows of the handle if their size is reported. -/
def SizesExactWhen (handle : GrallocHandle) (bo : GbmBo) : Prop :=
  bo.stride.toNat * bo.height.toNat < 2 ^ 32 ∧
    (handle.format ∈ planeFormats →
      handle.stride.toNat * handle.height.toNat ≤ bo.stride.toNat * bo.height.toNat)

instance (handle : GrallocHandle) (bo : GbmBo) : Decidable (SizesExactWhen handle bo) :=
  inferInstanceAs (Decidable (_ ∧ _))

theorem allocationSize_toNat (bo : GbmBo) :
    (allocationSize bo).toNat = bo.stride.toNat * bo.height.toNat % 2 ^ 32 := by
  unfold allocationSize
  have below := (bo.stride * bo.height).isLt
  rw [BitVec.toNat_setWidth, Nat.mod_eq_of_lt (by omega), BitVec.toNat_mul]

theorem sizesExact_iff (handle : GrallocHandle) (bo : GbmBo) :
    SizesExact handle bo ↔ SizesExactWhen handle bo := by
  have allocation := allocationSize_toNat bo
  unfold SizesExactWhen
  rcases planes_of_format handle.format with ⟨unlisted, none⟩ | ⟨listed, layout, whole, only⟩
  · have empty : reportedPlanes handle = [] := by
      unfold reportedPlanes
      rw [none]
      rfl
    constructor
    · intro h
      have exact := allocation.symm.trans h.allocation
      exact ⟨by omega, fun listed => absurd listed unlisted⟩
    · rintro ⟨below, -⟩
      refine ⟨by omega, ?_, ?_⟩
      · rw [empty]
        exact nofun
      · rw [empty]
        exact nofun
  · have planes : reportedPlanes handle =
        [sizedPlane handle.stride handle.width handle.height layout] := by
      unfold reportedPlanes
      rw [only]
      rfl
    have sized := whole.sized handle.stride handle.width handle.height
    have total : (sizedPlane handle.stride handle.width handle.height layout).totalSizeInBytes.toInt
        = (handle.stride.toNat * handle.height.toNat % 2 ^ 32 : Nat) := by
      rw [sized]
      exact (toInt_widen _).trans (by rw [BitVec.toNat_mul])
    have product : (sizedPlane handle.stride handle.width handle.height layout).strideInBytes.toInt
        * (sizedPlane handle.stride handle.width handle.height layout).heightInSamples.toInt =
        (handle.stride.toNat * handle.height.toNat : Nat) := by
      rw [sized]
      dsimp only
      rw [toInt_widen, toInt_widen, Int.natCast_mul]
    constructor
    · rintro ⟨exact, planesExact, single⟩
      have rows := planesExact _ (by rw [planes]; exact List.mem_singleton_self _)
      have fits := single _ planes
      rw [total, product] at rows
      rw [total, allocation] at fits
      rw [allocation] at exact
      exact ⟨by omega, fun _ => by omega⟩
    · rintro ⟨below, fits⟩
      have room := fits listed
      refine ⟨by omega, ?_, ?_⟩
      · intro plane hmem
        rw [planes, List.mem_singleton] at hmem
        rw [hmem, total, product, Nat.mod_eq_of_lt (by omega)]
      · intro plane same
        rw [planes] at same
        cases same
        rw [total, allocation, Nat.mod_eq_of_lt (by omega), Nat.mod_eq_of_lt below]
        exact Int.ofNat_le.mpr room

/-! ## The rows of the handle in the BO -/

/-- The padding of a cursor has room. -/
def PaddingFits (handle : GrallocHandle) : Prop :=
  Meets handle.usage grallocUsageCursor → handle.height.toNat + 16 ≤ 2 ^ 32

instance (handle : GrallocHandle) : Decidable (PaddingFits handle) :=
  inferInstanceAs (Decidable (_ → _))

theorem planeFormats_packed {androidFormat : Word} (listed : androidFormat ∈ planeFormats) :
    androidFormat ≠ halPixelFormatYv12 := by
  rintro rfl
  exact absurd listed (by decide)

theorem ImportSized.height {handle : GrallocHandle} {bo : GbmBo}
    (sized : ImportSized handle.native bo) (packed : handle.format ≠ halPixelFormatYv12) :
    bo.height = if Meets handle.usage grallocUsageCursor then cursorSize handle.height
      else handle.height := by
  obtain ⟨format, data, layout, -, height⟩ := sized
  rw [importData_native] at layout
  cases layout
  rw [height]
  exact if_neg packed

/-- A BO has all rows of its handle unless the padding has wrapped around to none. -/
theorem ImportSized.height_cases {handle : GrallocHandle} {bo : GbmBo}
    (sized : ImportSized handle.native bo) (packed : handle.format ≠ halPixelFormatYv12) :
    (PaddingFits handle ∧ handle.height.toNat ≤ bo.height.toNat) ∨
      (¬ PaddingFits handle ∧ bo.height.toNat = 0 ∧ 0 < handle.height.toNat) := by
  unfold PaddingFits
  rw [sized.height packed]
  by_cases cursor : Meets handle.usage grallocUsageCursor
  · rw [if_pos cursor, imp_iff_right cursor, cursorSize_toNat]
    by_cases room : handle.height.toNat + 16 ≤ 2 ^ 32
    · rw [if_pos room]
      exact .inl ⟨room, (cursorExtent_bounds _).1⟩
    · rw [if_neg room]
      exact .inr ⟨room, rfl, by omega⟩
  · rw [if_neg cursor]
    exact .inl ⟨fun h => absurd h cursor, Nat.le_refl _⟩

theorem ImportSized.rows_fit_iff {handle : GrallocHandle} {bo : GbmBo}
    (sized : ImportSized handle.native bo) (packed : handle.format ≠ halPixelFormatYv12)
    (stride : bo.stride = handle.stride) :
    handle.stride.toNat * handle.height.toNat ≤ bo.stride.toNat * bo.height.toNat ↔
      handle.stride = 0 ∨ PaddingFits handle := by
  rw [stride]
  rcases sized.height_cases packed with ⟨fits, covers⟩ | ⟨wraps, none, some⟩
  · exact iff_of_true (Nat.mul_le_mul_left _ covers) (.inr fits)
  · rw [none, Nat.mul_zero, Nat.le_zero, Nat.mul_eq_zero, or_iff_left (by omega),
      or_iff_left wraps]
    exact BitVec.toNat_inj (y := 0#32)

/-- In every state that a client reaches, the sizes reported of a buffer are exact exactly
under their condition. -/
theorem reportedSizes_exact_iff {first last : Session} {labels : List ClientEvent}
    (initial : clientSystem.initial first) (run : Run clientSystem first labels last) {p : Ptr}
    (held : p ∈ last.outstanding) :
    ∃ handle bo, ImportedBuffer last.mapper.process p handle bo ∧
      Reports last.mapper p .allocationSize (allocationSize bo) ∧
      Reports last.mapper p .planeLayouts (reportedPlanes handle) ∧
      (SizesExact handle bo ↔ SizesExactWhen handle bo) ∧
      (bo.stride = handle.stride → handle.format ∈ planeFormats →
        (handle.stride.toNat * handle.height.toNat ≤ bo.stride.toNat * bo.height.toNat ↔
          handle.stride = 0 ∨ PaddingFits handle)) := by
  obtain ⟨handle, bo, imported, size, planes⟩ := importedBuffer_of_held initial run held
  obtain ⟨q, hbuffer⟩ := imported.registered
  have sized := sized_of_clientRun initial run p q bo handle.native hbuffer imported.placed
  refine ⟨handle, bo, imported, size, planes, sizesExact_iff handle bo, fun stride listed => ?_⟩
  exact sized.rows_fit_iff (planeFormats_packed listed) stride

/-- The BO of the imported buffer. -/
def importedBuffer : GbmBo where
  width := 64#32
  height := 64#32
  stride := 256#32
  modifier := 0
  file := 9
  userData := none
  mappings := []

/-- The BO and the words of the imported buffer. -/
theorem importedSession_words {handle : GrallocHandle} {bo : GbmBo}
    (imported : ImportedBuffer importedSession.mapper.process 16 handle bo) :
    bo = importedBuffer ∧ handle.width = 64#32 ∧ handle.height = 64#32 ∧ handle.stride = 256#32 ∧
      handle.format = halPixelFormatRgba8888 ∧
      handle.usage = grallocUsageSwReadOften ||| grallocUsageSwWriteOften |||
        grallocUsageHwTexture := by
  have registered : importedSession.mapper.process.gbmBoHandleMap 16 = some 32 := by
    decide +kernel
  have live : importedSession.mapper.process.bos 32 = some importedBuffer := by decide +kernel
  have placed : importedSession.mapper.process.handles 16 =
      some { clientHandle with fds := [8#32] } := by decide +kernel
  obtain ⟨q, hbuffer⟩ := imported.registered
  cases registered.symm.trans hbuffer.1
  cases live.symm.trans hbuffer.2
  have same := Option.some.inj (imported.placed.symm.trans placed)
  have word {field : NativeHandle → Except Fault Word} {value value' : Word}
      (first : field handle.native = .ok value)
      (second : field { clientHandle with fds := [8#32] } = .ok value') : value = value' := by
    rw [same, second] at first
    exact (Except.ok.inj first).symm
  exact ⟨rfl, word handle.native_width rfl, word handle.native_height rfl,
    word handle.native_stride rfl, word handle.native_format rfl, word handle.native_usage rfl⟩

theorem reportedSizes_exact_iff_imported :
    ∃ handle, ImportedBuffer importedSession.mapper.process 16 handle importedBuffer ∧
      SizesExact handle importedBuffer ∧ (allocationSize importedBuffer).toNat = 16384 := by
  have run := Run.single (clientStep_of_session importedSession_step)
  have held : 16 ∈ importedSession.outstanding := by decide +kernel
  obtain ⟨handle, bo, imported, -, -, exact, -⟩ :=
    reportedSizes_exact_iff startedSession_initial run held
  obtain ⟨rfl, -, height, stride, -, -⟩ := importedSession_words imported
  refine ⟨handle, imported, exact.mpr ⟨by decide, fun _ => ?_⟩, by decide⟩
  rw [stride, height]
  decide

/-- The import of a gralloc handle whose BO gets its stride. -/
def importOf (handle : GrallocHandle) : MapperCall :=
  .importBuffer handle.native
    { clone := some (16, [8#32])
      gbm := { createdDevice := 0, newBo := some ⟨32, handle.stride, 0⟩ } }

theorem importOf_reachable {handle : GrallocHandle}
    (accepted : startedSession.result (importOf handle) = some (.imported .none (some 16))) :
    Reachable clientSystem (startedSession.next (importOf handle)) := by
  have possible : (importOf handle).Possible startedSession := by
    refine ⟨handle.native_wellFormed, ?_, ?_, ?_⟩
    · rintro p fds ⟨⟩
      exact ⟨by decide, rfl⟩
    · rintro p fds ⟨⟩
      refine ⟨List.nodup_singleton _, ?_⟩
      intro fd hmem
      rw [List.mem_singleton.mp hmem]
      exact ⟨by decide, rfl⟩
    · rintro new ⟨⟩
      rfl
  exact ⟨_, _, startedSession_initial, .single (Session.next_clientStep possible accepted)⟩

/-- A handle of 65536 rows of 65536 bytes. -/
def bigHandle : GrallocHandle where
  primeFd := 7#32
  magic := grallocHandleMagic
  version := grallocHandleVersion
  width := 16384#32
  height := 65536#32
  format := halPixelFormatRgba8888
  usage := grallocUsageHwTexture
  stride := 65536#32
  dataOwner := 0
  modifier := 0
  data := 0

def bigSession : Session := startedSession.next (importOf bigHandle)

theorem bigSession_reachable : Reachable clientSystem bigSession :=
  importOf_reachable (by decide +kernel)

/-- A buffer of 4 GiB is reported to have no bytes at all. -/
theorem reportedSizes_reduced :
    Reachable clientSystem bigSession ∧ 16 ∈ bigSession.outstanding ∧
      ∃ bo, ImportedBuffer bigSession.mapper.process 16 { bigHandle with primeFd := 8#32 } bo ∧
        bo.stride.toNat * bo.height.toNat = 2 ^ 32 ∧ (allocationSize bo).toNat = 0 ∧
        ¬ SizesExact { bigHandle with primeFd := 8#32 } bo := by
  let bo : GbmBo :=
    { width := 16384#32, height := 65536#32, stride := 65536#32, modifier := 0, file := 9,
      userData := none, mappings := [] }
  refine ⟨bigSession_reachable, by decide +kernel, bo, ⟨by decide +kernel, 32, ?_⟩, by decide,
    by decide, ?_⟩
  · exact ⟨by decide +kernel, by decide +kernel⟩
  · intro h
    exact absurd h.allocation (by decide)

end GrallocGbmMesa.Mapper
