import GrallocGbmMesa.Core.Device
import GrallocGbmMesa.Core.Format
import GrallocGbmMesa.Core.Handle

/-!
# Allocating, importing and freeing buffers

The three operations that change the buffer registry.  Allocation and import
each recompute the size of the BO from the words of the handle.
-/

namespace GrallocGbmMesa.Core

open Bits Checked
open GrallocGbmMesa.Platform

structure GrallocBufferDesc where
  width : Word := 0
  height : Word := 0
  androidFormat : Word := 0
  androidUsage : Word := 0
  androidReservedSize : Word := 0
  gbmFormat : Word := 0
  flags : Word := 0
  layerCount : Word := 0
  deriving DecidableEq, Repr

/-- `UINT32_MAX`, returned as an `int`. -/
def grallocGetMaxTexture2dSize : Word := 0xffffffff#32

def grallocIsFormatSupported : Bool := true

def grallocIsDescSupport (desc : GrallocBufferDesc) : Bool :=
  if ¬ grallocIsFormatSupported then false
  else desc.width ≤ grallocGetMaxTexture2dSize && desc.height ≤ grallocGetMaxTexture2dSize

theorem grallocIsDescSupport_eq_true (desc : GrallocBufferDesc) :
    grallocIsDescSupport desc = true := by
  have bound (value : Word) : value ≤ grallocGetMaxTexture2dSize := by
    have := value.isLt
    rw [BitVec.le_def]
    change value.toNat ≤ 4294967295
    omega
  simp [grallocIsDescSupport, grallocIsFormatSupported, bound]

/-! ## Registry and BOs -/

/-- `gbm_bo_handle_map.emplace`: an entry that exists is kept. -/
def emplace (s : Process) (key bo : Ptr) : Process :=
  match s.gbmBoHandleMap key with
  | some _ => s
  | none => { s with gbmBoHandleMap := Function.update s.gbmBoHandleMap key (some bo) }

/-- `gbm_bo_destroy`: the user data and the mappings of the BO go with it. -/
def gbmBoDestroy (s : Process) (p : Ptr) : Except Fault Process := do
  let _ ← s.bo p
  return { s.log (.gbmBoDestroy p) with bos := Function.update s.bos p none }

/-- A BO that `gbm_bo_create` or `gbm_bo_import` returned, with what it reports. -/
structure NewBo where
  bo : Ptr
  stride : Word
  modifier : BitVec 64

/-! ## Allocation -/

/-- The size, format and flags `gralloc_allocate` asks `gbm_bo_create` for. -/
def createArgs (handle : GrallocHandle) : CreateArgs :=
  let format := grallocGmAndroidFormatToGbmFormat handle.format
  let flags := grallocGmGetGbmFlagsFromAndroidUsage handle.usage handle.format
  let width := if Meets flags gbmBoUseCursor then align (wordMax handle.width 64) 16
    else handle.width
  let height := if Meets flags gbmBoUseCursor then align (wordMax handle.height 64) 16
    else handle.height
  if handle.format = halPixelFormatYv12 then
    { width := align handle.width 32 / 2
      height := height + align handle.height 2 / 2
      format, flags }
  else { width, height, format, flags }

/-- What the platform answers to one call of `gralloc_allocate`. -/
structure AllocEnv where
  /-- the indeterminate initial value of the local `dev` -/
  devLocal : Ptr
  /-- the result of `gbm_create_device` -/
  createdDevice : Ptr
  /-- the result of `native_handle_create` and what its memory held before -/
  newHandle : Ptr
  memory : GrallocHandle
  /-- the result of `gbm_bo_create`, or `none` for `NULL` -/
  newBo : Option NewBo
  errno : Int
  /-- the dma-buf behind the BO and the result of `gbm_bo_get_fd` -/
  file : FileId
  exportedFd : Fd

/-- The handle `gralloc_allocate` exports, from the one it created. -/
def exportHandle (env : AllocEnv) (new : NewBo) (handle : GrallocHandle) : GrallocHandle :=
  { handle with primeFd := env.exportedFd, stride := new.stride, modifier := new.modifier }

/-- The part of `gralloc_allocate` after `gbm_bo_create` has returned a BO. -/
def registerAllocated (env : AllocEnv) (new : NewBo) (args : CreateArgs) (handle : GrallocHandle)
    (s : Process) : Process :=
  let s := s.setBo new.bo
    { width := args.width
      height := args.height
      stride := new.stride
      modifier := new.modifier
      file := env.file
      userData := none
      mappings := [] }
  let s := if env.exportedFd.toInt < 0 then s else s.openFd env.exportedFd env.file
  let s := s.placeHandle env.newHandle (exportHandle env new handle).native
  emplace s env.newHandle new.bo

/-- The second result is what is stored through `out_stride` and `out_handle`. -/
def grallocAllocate (env : AllocEnv) (s : Process) (desc : GrallocBufferDesc) :
    Except Fault (Int × Option (Word × Ptr) × Process) :=
  if ¬ grallocIsDescSupport desc then .ok (-einval, none, s)
  else
    let (ret, stored, s) := grallocGbmDeviceCreate env.createdDevice s s.gbmDevFd
    let dev := stored.getD env.devLocal
    if dev = 0 then .ok (ret, none, s)
    else if env.newHandle = 0 then .ok (-einval, none, s)
    else
      let handle := grallocHandleCreate env.memory desc.width desc.height desc.androidFormat
        desc.androidUsage
      let s := s.placeHandle env.newHandle handle.native
      let args := createArgs handle
      if s.devices dev = none then .error .invalidPointer
      else
        let s := s.log (.gbmBoCreate dev args)
        match env.newBo with
        | none => .ok (-env.errno, none, s.nativeHandleDelete env.newHandle)
        | some new =>
            .ok (0, some ((exportHandle env new handle).stride, env.newHandle),
              registerAllocated env new args handle s)

/-- The handle of a buffer that has been allocated for a descriptor. -/
def allocatedHandle (env : AllocEnv) (new : NewBo) (desc : GrallocBufferDesc) : GrallocHandle :=
  exportHandle env new (grallocHandleCreate env.memory desc.width desc.height desc.androidFormat
    desc.androidUsage)

@[simp] theorem emplace_calls (s : Process) (key bo : Ptr) :
    (emplace s key bo).calls = s.calls := by
  unfold emplace
  cases s.gbmBoHandleMap key <;> rfl

/-! ## Import -/

/-- The size and layout `gralloc_gm_buffer_import` hands to `gbm_bo_import`. -/
def importData (handle : NativeHandle) (format : Word) : Except Fault ImportData := do
  let handleWidth ← handle.width
  let handleHeight ← handle.height
  let usage ← handle.usage
  let width := if Meets usage grallocUsageCursor then align (wordMax handleWidth 64) 16
    else handleWidth
  let height := if Meets usage grallocUsageCursor then align (wordMax handleHeight 64) 16
    else handleHeight
  let halFormat ← handle.format
  let (width, height) := if halFormat = halPixelFormatYv12 then
    (align handleWidth 32 / 2, handleHeight + align handleHeight 2 / 2) else (width, height)
  let fd ← handle.primeFd
  let stride ← handle.stride
  let modifier ← handle.modifier
  return { width, height, format, numFds := 1, fd, stride, modifier }

/-- What the platform answers to one call of `gralloc_gm_buffer_import`. -/
structure ImportEnv where
  /-- the result of `gbm_create_device` -/
  createdDevice : Ptr
  /-- the result of `gbm_bo_import`, or `none` for `NULL` -/
  newBo : Option NewBo

/-- The BO that `gbm_bo_import` makes of a layout. -/
def importedBo (new : NewBo) (data : ImportData) (s : Process) : GbmBo where
  width := data.width
  height := data.height
  stride := new.stride
  modifier := new.modifier
  file := (s.fds data.fd).getD 0
  userData := none
  mappings := []

/-- The part of `gralloc_gm_buffer_import` after `gbm_bo_import` has returned a BO. -/
def registerImported (new : NewBo) (data : ImportData) (bufferHandle : Ptr) (s : Process) :
    Process :=
  emplace (s.setBo new.bo (importedBo new data s)) bufferHandle new.bo

/-- The call of `gbm_bo_import` and what follows it. -/
def gbmBoImport (env : ImportEnv) (s : Process) (bufferHandle dev : Ptr) (data : ImportData) :
    Int × Process :=
  let s := s.log (.gbmBoImport dev data)
  match env.newBo with
  | none => (-einval, s)
  | some new => (0, registerImported new data bufferHandle s)

theorem gbmBoImport_calls (env : ImportEnv) (s : Process) (bufferHandle dev : Ptr)
    (data : ImportData) :
    (gbmBoImport env s bufferHandle dev data).2.calls = .gbmBoImport dev data :: s.calls := by
  unfold gbmBoImport
  cases env.newBo with
  | none => rfl
  | some new => exact emplace_calls ..

/-- The part of `gralloc_gm_buffer_import` that reads the handle. -/
def importBo (env : ImportEnv) (s : Process) (bufferHandle dev : Ptr) (handle : NativeHandle) :
    Except Fault (Int × Process) := do
  let primeFd ← handle.primeFd
  if primeFd.toInt < 0 then .ok (-einval, s)
  else
    let halFormat ← handle.format
    let format := grallocGmAndroidFormatToGbmFormat halFormat
    if format = 0 then .ok (-einval, s)
    else
      let data ← importData handle format
      if s.devices dev = none then .error .invalidPointer
      else .ok (gbmBoImport env s bufferHandle dev data)

def grallocGmBufferImport (env : ImportEnv) (s : Process) (bufferHandle : Ptr) :
    Except Fault (Int × Process) :=
  if bufferHandle = 0 then .ok (-einval, s)
  else if (s.gbmBoHandleMap bufferHandle).isSome then .ok (-einval, s)
  else
    let (_, stored, s) := grallocGbmDeviceCreate env.createdDevice s s.gbmDevFd
    let dev := stored.getD 0
    if dev = 0 then .ok (-einval, s)
    else do
      let handle ← s.handle bufferHandle
      importBo env s bufferHandle dev handle

/-- A process with a device, and an address at which it may import a handle. -/
structure Importer (s : Process) (p : Ptr) : Prop where
  nonNull : p ≠ 0
  free : s.gbmBoHandleMap p = none
  ready : DeviceReady s

theorem Importer.import_eq {s : Process} {p : Ptr} (h : Importer s p) {handle : NativeHandle}
    (hhandle : s.handles p = some handle) (env : ImportEnv) :
    grallocGmBufferImport env s p = importBo env s p s.gbmDev handle := by
  unfold grallocGmBufferImport
  rw [if_neg h.nonNull, h.free, if_neg (by simp), grallocGbmDeviceCreate_ready h.ready]
  simp only [Option.getD_some, if_neg h.ready.2.1, Process.handle_eq_ok.mpr hhandle]
  rfl

theorem importData_defined {handle : NativeHandle} (covers : handle.Covers) (format : Word) :
    ∃ data, importData handle format = .ok data := by
  obtain ⟨width, hwidth⟩ := covers.word (show 3 ≤ 10 by decide)
  obtain ⟨height, hheight⟩ := covers.word (show 4 ≤ 10 by decide)
  obtain ⟨usage, husage⟩ := covers.word (show 6 ≤ 10 by decide)
  obtain ⟨halFormat, hformat⟩ := covers.word (show 5 ≤ 10 by decide)
  obtain ⟨fd, hfd⟩ := covers.word (show 0 ≤ 10 by decide)
  obtain ⟨stride, hstride⟩ := covers.word (show 7 ≤ 10 by decide)
  obtain ⟨modifier, hmodifier⟩ := covers.modifier
  unfold importData NativeHandle.width NativeHandle.height NativeHandle.usage NativeHandle.format
    NativeHandle.primeFd NativeHandle.stride
  simp only [hwidth, hheight, husage, hformat, hfd, hstride, hmodifier, ok_bind, pure_eq_ok]
  exact ⟨_, rfl⟩

/-- The last field that an import reads is the modifier. -/
theorem covers_of_importData {handle : NativeHandle} {format : Word} {data : ImportData}
    (h : importData handle format = .ok data) : handle.Covers := by
  unfold importData at h
  obtain ⟨width, -, h⟩ := bind_eq_ok.mp h
  obtain ⟨height, -, h⟩ := bind_eq_ok.mp h
  obtain ⟨usage, -, h⟩ := bind_eq_ok.mp h
  obtain ⟨halFormat, -, h⟩ := bind_eq_ok.mp h
  obtain ⟨fd, -, h⟩ := bind_eq_ok.mp h
  obtain ⟨stride, -, h⟩ := bind_eq_ok.mp h
  obtain ⟨modifier, hmodifier, -⟩ := bind_eq_ok.mp h
  unfold NativeHandle.modifier at hmodifier
  obtain ⟨low, -, hmodifier⟩ := bind_eq_ok.mp hmodifier
  obtain ⟨high, hhigh, -⟩ := bind_eq_ok.mp hmodifier
  by_contra short
  unfold NativeHandle.Covers at short
  rw [NativeHandle.word_eq_error (by omega)] at hhigh
  cases hhigh

/-- The import of a handle whose format has no FourCC code stops there. -/
theorem Importer.import_unknown {s : Process} {p : Ptr} {handle : NativeHandle} {fd : Fd}
    {format : Word} (importer : Importer s p) (hhandle : s.handles p = some handle)
    (hprime : handle.primeFd = .ok fd) (hformat : handle.format = .ok format)
    (unknown : grallocGmAndroidFormatToGbmFormat format = 0) (env : ImportEnv) :
    grallocGmBufferImport env s p = .ok (-einval, s) := by
  rw [importer.import_eq hhandle]
  unfold importBo
  rw [hprime, ok_bind, hformat, ok_bind]
  by_cases closed : fd.toInt < 0
  · rw [if_pos closed]
  · simp only [if_neg closed, if_pos unknown]

/-- The import of a handle whose format has a FourCC code returns only if the
handle holds every field, and fails only if `gbm_bo_import` does. -/
theorem Importer.import_known {s s' : Process} {p : Ptr} {handle : NativeHandle} {fd : Fd}
    {format : Word} {ret : Int} {env : ImportEnv} (importer : Importer s p)
    (hhandle : s.handles p = some handle) (hprime : handle.primeFd = .ok fd)
    (valid : 0 ≤ fd.toInt) (hformat : handle.format = .ok format)
    (known : grallocGmAndroidFormatToGbmFormat format ≠ 0)
    (h : grallocGmBufferImport env s p = .ok (ret, s')) :
    handle.Covers ∧ (env.newBo ≠ none → ret = 0) := by
  rw [importer.import_eq hhandle] at h
  unfold importBo at h
  rw [hprime, ok_bind, hformat, ok_bind] at h
  simp only [if_neg (Int.not_lt.mpr valid), if_neg known] at h
  obtain ⟨data, hdata, h⟩ := bind_eq_ok.mp h
  refine ⟨covers_of_importData hdata, ?_⟩
  intro created
  obtain ⟨new, hnew⟩ := Option.ne_none_iff_exists'.mp created
  rw [if_neg importer.ready.2.2, gbmBoImport, hnew] at h
  cases h
  rfl

/-- The import of a handle that holds every field returns. -/
theorem importBo_defined {s : Process} {dev : Ptr} {handle : NativeHandle}
    (live : s.devices dev ≠ none) (covers : handle.Covers) (env : ImportEnv) (p : Ptr) :
    ∃ ret s', importBo env s p dev handle = .ok (ret, s') := by
  obtain ⟨primeFd, hprime⟩ := covers.word (show 0 ≤ 10 by decide)
  obtain ⟨halFormat, hformat⟩ := covers.word (show 5 ≤ 10 by decide)
  unfold importBo NativeHandle.primeFd NativeHandle.format
  rw [hprime, ok_bind, hformat, ok_bind]
  by_cases closed : primeFd.toInt < 0
  · exact ⟨_, _, if_pos closed⟩
  by_cases unknown : grallocGmAndroidFormatToGbmFormat halFormat = 0
  · simp only [if_neg closed, if_pos unknown]
    exact ⟨_, _, rfl⟩
  obtain ⟨data, hdata⟩ := importData_defined covers (grallocGmAndroidFormatToGbmFormat halFormat)
  simp only [if_neg closed, if_neg unknown, hdata, ok_bind, if_neg live]
  exact ⟨_, _, rfl⟩

theorem Importer.import_defined {s : Process} {p : Ptr} {handle : NativeHandle}
    (importer : Importer s p) (hhandle : s.handles p = some handle) (covers : handle.Covers)
    (env : ImportEnv) : ∃ ret s', grallocGmBufferImport env s p = .ok (ret, s') := by
  rw [importer.import_eq hhandle]
  exact importBo_defined importer.ready.2.2 covers env p

/-! ## Free -/

/-- The log line of a freed buffer reads its handle. -/
def logFreed (handle : NativeHandle) : Except Fault Unit := do
  let _ ← handle.primeFd
  let _ ← handle.width
  let _ ← handle.height
  let _ ← handle.stride
  return ()

/-- `errno` is the value of the thread's error number on entry. -/
def grallocGmBufferFree (errno : Int) (s : Process) (handle : Ptr) :
    Except Fault (Int × Process) :=
  if handle = 0 then .ok (-errno, s)
  else
    match grallocGetGbmBoFromHandle s handle with
    | none => .ok (-errno, s)
    | some bo => do
        let s := { s with gbmBoHandleMap := Function.update s.gbmBoHandleMap handle none }
        let s ← gbmBoDestroy s bo
        let hnd ← s.handle handle
        logFreed hnd
        return (0, s)

/-! ## What the operations own -/

/-- Registry, BOs, handles and open files are what they were, and so is the device. -/
structure SameResources (s s' : Process) : Prop where
  registry : s'.gbmBoHandleMap = s.gbmBoHandleMap
  bos : s'.bos = s.bos
  handles : s'.handles = s.handles
  fds : s'.fds = s.fds
  gbmDevFd : s'.gbmDevFd = s.gbmDevFd
  gbmDev : s'.gbmDev = s.gbmDev
  devices : s'.devices = s.devices

theorem SameResources.refl (s : Process) : SameResources s s := ⟨rfl, rfl, rfl, rfl, rfl, rfl, rfl⟩

theorem SameResources.deviceAlive {s s' : Process} (same : SameResources s s')
    (alive : DeviceAlive s) : DeviceAlive s' := by
  unfold DeviceAlive
  rwa [same.gbmDev, same.devices]

theorem emplace_fresh {s : Process} {key : Ptr} (fresh : s.gbmBoHandleMap key = none) (bo : Ptr) :
    emplace s key bo =
      { s with gbmBoHandleMap := Function.update s.gbmBoHandleMap key (some bo) } := by
  unfold emplace
  rw [fresh]

theorem registerImported_eq {s : Process} {bufferHandle : Ptr}
    (free : s.gbmBoHandleMap bufferHandle = none) (new : NewBo) (data : ImportData) :
    registerImported new data bufferHandle s =
      { s with
        gbmBoHandleMap := Function.update s.gbmBoHandleMap bufferHandle (some new.bo)
        bos := Function.update s.bos new.bo (some (importedBo new data s)) } := by
  have fresh : (s.setBo new.bo (importedBo new data s)).gbmBoHandleMap bufferHandle = none := free
  exact emplace_fresh fresh new.bo

/-- An import that has read its handle has registered a new BO, or has at most asked for one. -/
theorem importBo_returns {env : ImportEnv} {s s' : Process} {p dev : Ptr} {handle : NativeHandle}
    {ret : Int} (free : s.gbmBoHandleMap p = none)
    (h : importBo env s p dev handle = .ok (ret, s')) :
    (ret ≠ 0 ∧ (s' = s ∨ ∃ data, s' = s.log (.gbmBoImport dev data))) ∨
      (ret = 0 ∧ ∃ new format data, env.newBo = some new ∧ importData handle format = .ok data ∧
        s' =
          { s with
            gbmBoHandleMap := Function.update s.gbmBoHandleMap p (some new.bo)
            bos := Function.update s.bos new.bo (some (importedBo new data s))
            calls := .gbmBoImport dev data :: s.calls }) := by
  unfold importBo at h
  obtain ⟨primeFd, -, h⟩ := bind_eq_ok.mp h
  by_cases closed : primeFd.toInt < 0
  · rw [if_pos closed] at h
    cases h
    exact .inl ⟨by decide, .inl rfl⟩
  rw [if_neg closed] at h
  obtain ⟨halFormat, -, h⟩ := bind_eq_ok.mp h
  by_cases unknown : grallocGmAndroidFormatToGbmFormat halFormat = 0
  · simp only [if_pos unknown] at h
    cases h
    exact .inl ⟨by decide, .inl rfl⟩
  simp only [if_neg unknown] at h
  obtain ⟨data, layout, h⟩ := bind_eq_ok.mp h
  by_cases dangling : s.devices dev = none
  · rw [if_pos dangling] at h
    cases h
  rw [if_neg dangling] at h
  unfold gbmBoImport at h
  cases hnew : env.newBo with
  | none =>
      simp only [hnew] at h
      cases h
      exact .inl ⟨by decide, .inr ⟨data, rfl⟩⟩
  | some new =>
      simp only [hnew] at h
      cases h
      have unregistered : (s.log (.gbmBoImport dev data)).gbmBoHandleMap p = none := free
      exact .inr ⟨rfl, new, _, data, rfl, layout, registerImported_eq unregistered new data⟩

/-- An import that returns has registered a new BO or has left every resource alone. -/
theorem Importer.import_returns {s s' : Process} {p : Ptr} {handle : NativeHandle} {ret : Int}
    {env : ImportEnv} (importer : Importer s p) (hhandle : s.handles p = some handle)
    (h : grallocGmBufferImport env s p = .ok (ret, s')) :
    (ret ≠ 0 ∧ SameResources s s') ∨
      (ret = 0 ∧ ∃ new data calls, env.newBo = some new ∧ s' =
        { s with
          gbmBoHandleMap := Function.update s.gbmBoHandleMap p (some new.bo)
          bos := Function.update s.bos new.bo (some (importedBo new data s))
          calls := calls }) := by
  rw [importer.import_eq hhandle] at h
  rcases importBo_returns importer.free h with
    ⟨failed, rfl | ⟨data, rfl⟩⟩ | ⟨succeeded, new, format, data, made, -, after⟩
  · exact .inl ⟨failed, .refl s'⟩
  · exact .inl ⟨failed, rfl, rfl, rfl, rfl, rfl, rfl, rfl⟩
  · exact .inr ⟨succeeded, new, data, _, made, after⟩

/-- A registered handle is freed together with its BO. -/
theorem grallocGmBufferFree_registered {s : Process} {handle p : Ptr} {native : NativeHandle}
    (nonNull : handle ≠ 0) (registered : s.gbmBoHandleMap handle = some p)
    (live : s.bos p ≠ none) (hnative : s.handles handle = some native) (covers : native.Covers)
    (errno : Int) :
    grallocGmBufferFree errno s handle = .ok (0,
      { s with
        gbmBoHandleMap := Function.update s.gbmBoHandleMap handle none
        bos := Function.update s.bos p none
        calls := .gbmBoDestroy p :: s.calls }) := by
  obtain ⟨bo, hbo⟩ := Option.ne_none_iff_exists'.mp live
  obtain ⟨primeFd, hprime⟩ := covers.word (show 0 ≤ 10 by decide)
  obtain ⟨width, hwidth⟩ := covers.word (show 3 ≤ 10 by decide)
  obtain ⟨height, hheight⟩ := covers.word (show 4 ≤ 10 by decide)
  obtain ⟨stride, hstride⟩ := covers.word (show 7 ≤ 10 by decide)
  unfold grallocGmBufferFree
  rw [if_neg nonNull]
  simp [grallocGetGbmBoFromHandle, registered, gbmBoDestroy, Process.bo, hbo, Process.handle,
    hnative, logFreed, NativeHandle.primeFd, NativeHandle.width, NativeHandle.height,
    NativeHandle.stride, hprime, hwidth, hheight, hstride, Process.log]

/-- What is not registered is not freed. -/
theorem grallocGmBufferFree_unregistered {s : Process} {handle : Ptr}
    (unregistered : handle = 0 ∨ s.gbmBoHandleMap handle = none) (errno : Int) :
    grallocGmBufferFree errno s handle = .ok (-errno, s) := by
  unfold grallocGmBufferFree
  by_cases null : handle = 0
  · rw [if_pos null]
  · rw [if_neg null, grallocGetGbmBoFromHandle, unregistered.resolve_left null]

/-- A free that returns has done nothing, or has removed the handle and its BO. -/
theorem grallocGmBufferFree_returns {errno ret : Int} {s s' : Process} {handle : Ptr}
    (h : grallocGmBufferFree errno s handle = .ok (ret, s')) :
    ((handle = 0 ∨ s.gbmBoHandleMap handle = none) ∧ ret = -errno ∧ s' = s) ∨
      ∃ p, handle ≠ 0 ∧ s.gbmBoHandleMap handle = some p ∧ s.bos p ≠ none ∧
        s.handles handle ≠ none ∧ ret = 0 ∧ s' =
          { s with
            gbmBoHandleMap := Function.update s.gbmBoHandleMap handle none
            bos := Function.update s.bos p none
            calls := .gbmBoDestroy p :: s.calls } := by
  by_cases null : handle = 0
  · rw [grallocGmBufferFree_unregistered (.inl null)] at h
    cases h
    exact .inl ⟨.inl null, rfl, rfl⟩
  cases registered : s.gbmBoHandleMap handle with
  | none =>
      rw [grallocGmBufferFree_unregistered (.inr registered)] at h
      cases h
      exact .inl ⟨.inr rfl, rfl, rfl⟩
  | some p =>
      unfold grallocGmBufferFree at h
      rw [if_neg null, grallocGetGbmBoFromHandle, registered] at h
      obtain ⟨s₁, destroyed, h⟩ := bind_eq_ok.mp h
      obtain ⟨bo, live, destroyed⟩ := bind_eq_ok.mp destroyed
      obtain ⟨native, hnative, h⟩ := bind_eq_ok.mp h
      obtain ⟨-, -, h⟩ := bind_eq_ok.mp h
      cases destroyed
      cases h
      have live := Process.bo_eq_ok.mp live
      have hnative := Process.handle_eq_ok.mp hnative
      refine .inr ⟨p, null, rfl, ?_, ?_, rfl, rfl⟩
      · intro dead
        cases dead.symm.trans live
      · intro dead
        cases dead.symm.trans hnative

theorem grallocGmBufferFree_handles {errno ret : Int} {s s' : Process} {handle : Ptr}
    (h : grallocGmBufferFree errno s handle = .ok (ret, s')) : s'.handles = s.handles := by
  rcases grallocGmBufferFree_returns h with ⟨-, -, rfl⟩ | ⟨p, -, -, -, -, -, rfl⟩ <;> rfl

end GrallocGbmMesa.Core
