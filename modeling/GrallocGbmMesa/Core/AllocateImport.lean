import GrallocGbmMesa.Core.Outcome
import GrallocGbmMesa.Lib.PartialMap

/-!
# Allocation against import

The size that the importer of a handle computes, next to the size its
allocator asked for.  Allocation pads a cursor buffer only when the format
makes it one; import pads whatever carries the cursor usage.
-/

namespace GrallocGbmMesa.Core

open Bits Checked
open GrallocGbmMesa.Platform

/-- The padding of a cursor buffer. -/
def cursorSize (size : Word) : Word := align (wordMax size 64) 16

/-- The layout an importer computes from a handle that holds its fields. -/
def importLayout (handle : GrallocHandle) (format : Word) : ImportData :=
  let cursor := Meets handle.usage grallocUsageCursor
  let planar := handle.format = halPixelFormatYv12
  { width :=
      if planar then align handle.width 32 / 2
      else if cursor then cursorSize handle.width else handle.width
    height :=
      if planar then handle.height + align handle.height 2 / 2
      else if cursor then cursorSize handle.height else handle.height
    format
    numFds := 1
    fd := handle.primeFd
    stride := handle.stride
    modifier := handle.modifier }

theorem importData_native (handle : GrallocHandle) (format : Word) :
    importData handle.native format = .ok (importLayout handle format) := by
  unfold importData importLayout
  simp only [GrallocHandle.native_width, GrallocHandle.native_height, GrallocHandle.native_usage,
    GrallocHandle.native_format, GrallocHandle.native_primeFd, GrallocHandle.native_stride,
    GrallocHandle.native_modifier, ok_bind, pure_eq_ok]
  by_cases planar : handle.format = halPixelFormatYv12
  · simp [planar]
  · simp [planar, cursorSize]

/-- Padding by cursor usage asks for what the format of the descriptor asks for. -/
def GeometryAgrees (desc : GrallocBufferDesc) : Prop :=
  ¬ Meets desc.androidUsage grallocUsageCursor ∨ desc.androidFormat = halPixelFormatBgra8888 ∨
    desc.androidFormat = halPixelFormatYv12 ∨
    (cursorSize desc.width = desc.width ∧ cursorSize desc.height = desc.height)

instance (desc : GrallocBufferDesc) : Decidable (GeometryAgrees desc) :=
  inferInstanceAs (Decidable (_ ∨ _))

/-- One Android format is translated to ARGB8888. -/
theorem gbmFormat_eq_argb8888 {format : Word} :
    grallocGmAndroidFormatToGbmFormat format = gbmFormatArgb8888 ↔
      format = halPixelFormatBgra8888 := by
  constructor
  · intro h
    unfold grallocGmAndroidFormatToGbmFormat at h
    cases found : androidFormatTable.lookup format with
    | none =>
        rw [found] at h
        exact absurd h (by decide)
    | some gbmFormat =>
        rw [found, Option.getD_some] at h
        have only : ∀ entry ∈ androidFormatTable, entry.2 = gbmFormatArgb8888 →
            entry.1 = halPixelFormatBgra8888 := PartialMap.forall_mem_of_all (by decide)
        exact only _ (PartialMap.lookup_mem found) h
  · rintro rfl
    decide

/-- Allocation pads for a cursor when the usage and the format both ask for one. -/
theorem createArgs_eq (handle : GrallocHandle) :
    let cursor := Meets handle.usage grallocUsageCursor ∧ handle.format = halPixelFormatBgra8888
    let planar := handle.format = halPixelFormatYv12
    createArgs handle =
      { width :=
          if planar then align handle.width 32 / 2
          else if cursor then cursorSize handle.width else handle.width
        height :=
          if planar then handle.height + align handle.height 2 / 2
          else if cursor then cursorSize handle.height else handle.height
        format := grallocGmAndroidFormatToGbmFormat handle.format
        flags := grallocGmGetGbmFlagsFromAndroidUsage handle.usage handle.format } := by
  intro cursor planar
  have hcursor : Meets (grallocGmGetGbmFlagsFromAndroidUsage handle.usage handle.format)
      gbmBoUseCursor ↔ cursor := by
    rw [flags_cursor_iff, gbmFormat_eq_argb8888]
  unfold createArgs
  simp only [hcursor]
  by_cases hplanar : planar
  · have plain : ¬ cursor := by
      rintro ⟨-, format⟩
      exact absurd (format.symm.trans hplanar) (by decide)
    simp only [if_neg plain]
    rw [if_pos hplanar, if_pos hplanar, if_pos hplanar]
  · rw [if_neg hplanar, if_neg hplanar, if_neg hplanar]
    rfl

/-- The sizes agree exactly for the descriptors whose geometry does. -/
theorem layout_agrees_iff (handle : GrallocHandle) (format : Word) :
    (importLayout handle format).width = (createArgs handle).width ∧
        (importLayout handle format).height = (createArgs handle).height ↔
      GeometryAgrees
        { width := handle.width
          height := handle.height
          androidFormat := handle.format
          androidUsage := handle.usage } := by
  rw [createArgs_eq]
  unfold importLayout GeometryAgrees
  by_cases planar : handle.format = halPixelFormatYv12
  · simp [planar]
  by_cases cursor : Meets handle.usage grallocUsageCursor
  · by_cases bgra : handle.format = halPixelFormatBgra8888
    · simp [cursor, bgra]
    · simp [planar, cursor, bgra]
  · simp [planar, cursor]

/-! ## The importing process -/

/-- A handle of another process with the ints of an allocated one and a
descriptor of its own. -/
def Clone (native : NativeHandle) (fd : Fd) (t : Process) (p : Ptr) : Prop :=
  0 ≤ fd.toInt ∧ t.handles p = some { native with fds := [fd] }

/-- The import gets as far as `gbm_bo_import`, and asks for this. -/
def ImportsWith (env : ImportEnv) (t : Process) (p : Ptr) (data : ImportData) : Prop :=
  ∃ ret t', grallocGmBufferImport env t p = .ok (ret, t') ∧
    t'.calls = .gbmBoImport t.gbmDev data :: t.calls

/-- The import of a gralloc handle reaches `gbm_bo_import` unless its format is unknown. -/
theorem importsWith_iff {env : ImportEnv} {t : Process} {p : Ptr} {handle : GrallocHandle}
    (importer : Importer t p) (hhandle : t.handles p = some handle.native)
    (valid : 0 ≤ handle.primeFd.toInt) (data : ImportData) :
    ImportsWith env t p data ↔
      grallocGmAndroidFormatToGbmFormat handle.format ≠ 0 ∧
        data = importLayout handle (grallocGmAndroidFormatToGbmFormat handle.format) := by
  unfold ImportsWith
  rw [importer.import_eq hhandle]
  unfold importBo
  simp only [GrallocHandle.native_primeFd, GrallocHandle.native_format, ok_bind,
    if_neg (Int.not_lt.mpr valid), importData_native, if_neg importer.ready.2.2]
  by_cases unknown : grallocGmAndroidFormatToGbmFormat handle.format = 0
  · rw [if_pos unknown]
    constructor
    · rintro ⟨ret, t', returns, calls⟩
      cases returns
      exact absurd (congrArg List.length calls) (by simp)
    · rintro ⟨known, -⟩
      exact absurd unknown known
  · rw [if_neg unknown]
    constructor
    · rintro ⟨ret, t', returns, calls⟩
      have log := gbmBoImport_calls env t p t.gbmDev
        (importLayout handle (grallocGmAndroidFormatToGbmFormat handle.format))
      rw [Except.ok.inj returns, calls] at log
      simp only [List.cons.injEq, Call.gbmBoImport.injEq, true_and, and_true] at log
      exact ⟨unknown, log⟩
    · rintro ⟨-, rfl⟩
      exact ⟨_, _, rfl, gbmBoImport_calls ..⟩

/-- The importer of a clone asks for the BO the allocator created exactly when
the format has a FourCC code and the geometry of the descriptor agrees. -/
theorem allocate_import_agree_iff {env : AllocEnv} {s s' : Process} {desc : GrallocBufferDesc}
    {stride : Word} {handle : Ptr} {native : NativeHandle} {dev : Ptr} {args : CreateArgs}
    {rest : List Call} {new : NewBo}
    (allocated : grallocAllocate env s desc = .ok (0, some (stride, handle), s'))
    (hnative : s'.handles handle = some native) (hnew : env.newBo = some new)
    (created : s'.calls = .gbmBoCreate dev args :: rest) {importEnv : ImportEnv} {t : Process}
    {p : Ptr} {fd : Fd} (importer : Importer t p) (clone : Clone native fd t p) :
    (∃ data, ImportsWith importEnv t p data ∧ data.width = args.width ∧
        data.height = args.height ∧ data.format = args.format ∧ data.stride = new.stride ∧
        data.modifier = new.modifier) ↔
      grallocGmAndroidFormatToGbmFormat desc.androidFormat ≠ 0 ∧ GeometryAgrees desc := by
  obtain ⟨-, new', dev', rest', hnew', -, placed, log⟩ := grallocAllocate_success allocated
  rw [hnew] at hnew'
  cases hnew'
  rw [hnative] at placed
  cases placed
  rw [created] at log
  cases log
  -- the clone holds the fields of the allocated handle, apart from the descriptor
  have cloned : t.handles p =
      some { allocatedHandle env new desc with primeFd := fd }.native := clone.2
  simp only [importsWith_iff importer cloned clone.1]
  constructor
  · rintro ⟨data, ⟨known, rfl⟩, width, height, -⟩
    exact ⟨known, (layout_agrees_iff _ _).mp ⟨width, height⟩⟩
  · rintro ⟨known, agrees⟩
    obtain ⟨width, height⟩ := (layout_agrees_iff
      { allocatedHandle env new desc with primeFd := fd }
      (grallocGmAndroidFormatToGbmFormat desc.androidFormat)).mpr agrees
    refine ⟨_, ⟨known, rfl⟩, width, height, ?_, rfl, rfl⟩
    rw [createArgs_eq]
    rfl

/-- A 50 by 50 cursor buffer in RGBA8888 is created as it is and imported as 64 by 64. -/
def cursorDesc : GrallocBufferDesc where
  width := 50#32
  height := 50#32
  androidFormat := halPixelFormatRgba8888
  androidUsage := grallocUsageCursor

/-- A process that has opened the GPU and holds no buffer. -/
def readyProcess : Process where
  gbmDevFd := 3#32
  gbmDev := 1
  gbmBoHandleMap _ := none
  devices dev := if dev = 1 then some 3#32 else none
  bos _ := none
  handles _ := none
  fds fd := if fd = 3#32 then some 1 else none
  calls := []

theorem readyProcess_ready : DeviceReady readyProcess := ⟨by decide, by decide, by decide⟩

def cursorEnv : AllocEnv where
  devLocal := 0
  createdDevice := 0
  newHandle := 16
  memory := ⟨0, 0, 0, 0, 0, 0, 0, 0, 0, 0, 0⟩
  newBo := some { bo := 32, stride := 256#32, modifier := 0 }
  errno := 0
  file := 9
  exportedFd := 5#32

/-- The clone that the importer of `cursorDesc` holds. -/
def cloneProcess (desc : GrallocBufferDesc) : Process :=
  readyProcess.placeHandle 48
    { allocatedHandle cursorEnv { bo := 32, stride := 256#32, modifier := 0 } desc with
      primeFd := 7#32 }.native

theorem cloneProcess_importer (desc : GrallocBufferDesc) : Importer (cloneProcess desc) 48 :=
  ⟨by decide, rfl, readyProcess_ready⟩

theorem allocate_import_disagree :
    ∃ s' native dev args rest, grallocAllocate cursorEnv readyProcess cursorDesc =
        .ok (0, some (256#32, 16), s') ∧
      s'.handles 16 = some native ∧ s'.calls = .gbmBoCreate dev args :: rest ∧
      Importer (cloneProcess cursorDesc) 48 ∧ Clone native 7#32 (cloneProcess cursorDesc) 48 ∧
      ∃ ret t' data, grallocGmBufferImport { createdDevice := 0, newBo := none }
          (cloneProcess cursorDesc) 48 = .ok (ret, t') ∧
        t'.calls = [.gbmBoImport 1 data] ∧ args.width = 50#32 ∧ data.width = 64#32 :=
  ⟨_, _, _, _, _, rfl, rfl, rfl, cloneProcess_importer _, ⟨by decide, rfl⟩,
    _, _, _, rfl, rfl, rfl, rfl⟩

def textureDesc : GrallocBufferDesc where
  width := 64#32
  height := 32#32
  androidFormat := halPixelFormatRgba8888
  androidUsage := grallocUsageHwTexture

/-- A texture is imported as it was created. -/
theorem allocate_import_agree_texture :
    ∃ data, ImportsWith ⟨0, none⟩ (cloneProcess textureDesc) 48 data ∧
      data.width = 64#32 ∧ data.stride = 256#32 := by
  obtain ⟨s', native, dev, args, rest, allocated, hnative, created, hwidth, hclone⟩ :
      ∃ s' native dev args rest, grallocAllocate cursorEnv readyProcess textureDesc =
          .ok (0, some (256#32, 16), s') ∧
        s'.handles 16 = some native ∧ s'.calls = .gbmBoCreate dev args :: rest ∧
        args.width = 64#32 ∧ Clone native 7#32 (cloneProcess textureDesc) 48 :=
    ⟨_, _, _, _, _, rfl, rfl, rfl, rfl, by decide, rfl⟩
  obtain ⟨data, imports, width, -, -, stride, -⟩ :=
    (allocate_import_agree_iff allocated hnative rfl created (cloneProcess_importer textureDesc)
      hclone).mpr ⟨by decide, by decide⟩
  exact ⟨data, imports, width.trans hwidth, stride⟩

end GrallocGbmMesa.Core
