import GrallocGbmMesa.Core.Buffer
import GrallocGbmMesa.Mapper.Metadata

/-!
# The allocator service

`GbmMesaAllocator` over the core library.  A buffer is allocated, exported as an
AIDL handle with descriptors of its own, and freed again, so that only the AIDL
handle outlives a call.
-/

namespace GrallocGbmMesa.Allocator

open ByteStream
open GrallocGbmMesa.Platform GrallocGbmMesa.Core

inductive AllocationError where
  | badDescriptor
  | noResources
  | unsupported
  deriving DecidableEq, Repr

inductive ScopedAStatus where
  | ok
  | serviceSpecificError (error : AllocationError)
  deriving DecidableEq, Repr

def toBinderStatus (error : AllocationError) : ScopedAStatus := .serviceSpecificError error

/-- The AIDL `BufferDescriptorInfo`, without its name. -/
structure BufferDescriptorInfo where
  width : Word
  height : Word
  layerCount : Word
  format : Word
  usage : BitVec 64
  reservedSize : BitVec 64
  additionalOptions : List Mapper.ExtendableType := []

/-- The descriptor of `IMapper` 4.0, with unsigned sizes. -/
structure BufferDescriptorInfoV4 where
  width : Word
  height : Word
  layerCount : Word
  format : Word
  usage : BitVec 64
  reservedSize : BitVec 64

/-- The descriptor `allocate` makes of a decoded one. -/
def BufferDescriptorInfoV4.info (descriptor : BufferDescriptorInfoV4) : BufferDescriptorInfo where
  width := descriptor.width
  height := descriptor.height
  layerCount := descriptor.layerCount
  format := descriptor.format
  usage := descriptor.usage
  reservedSize := descriptor.reservedSize

/-- `AllocationResult`; an AIDL handle owns its descriptors, and `-1` is none. -/
structure AllocationResult where
  stride : Word := 0
  buffers : List NativeHandle := []

/-- The second result is what `outResult` holds afterwards. -/
def convertToGBMDesc (info : BufferDescriptorInfo) (outResult : GrallocBufferDesc) :
    ScopedAStatus × GrallocBufferDesc :=
  if info.width = 0 ∨ info.height = 0 then (toBinderStatus .badDescriptor, outResult)
  else
    let outResult := { outResult with width := info.width, height := info.height }
    if info.layerCount.toInt > 1 then (toBinderStatus .unsupported, outResult)
    else (.ok,
      { outResult with
        androidFormat := info.format
        androidUsage := info.usage.setWidth 32
        androidReservedSize := info.reservedSize.setWidth 32
        layerCount := info.layerCount
        gbmFormat := -1 })

/-- The checks of the conversion, on signed fields. -/
def Convertible (info : BufferDescriptorInfo) : Prop :=
  ¬ (info.width = 0 ∨ info.height = 0) ∧ ¬ info.layerCount.toInt > 1

instance (info : BufferDescriptorInfo) : Decidable (Convertible info) :=
  inferInstanceAs (Decidable (_ ∧ _))

/-- What a descriptor that passes the checks is converted to. -/
def gbmDesc (info : BufferDescriptorInfo) : GrallocBufferDesc where
  width := info.width
  height := info.height
  androidFormat := info.format
  androidUsage := info.usage.setWidth 32
  androidReservedSize := info.reservedSize.setWidth 32
  gbmFormat := -1
  layerCount := info.layerCount

theorem convertToGBMDesc_ok {info : BufferDescriptorInfo} (h : Convertible info) :
    convertToGBMDesc info {} = (.ok, gbmDesc info) := by
  unfold convertToGBMDesc
  rw [if_neg h.1]
  exact if_neg h.2

theorem convertToGBMDesc_refused {info : BufferDescriptorInfo} (h : ¬ Convertible info) :
    (convertToGBMDesc info {}).1 = if info.width = 0 ∨ info.height = 0
      then toBinderStatus .badDescriptor else toBinderStatus .unsupported := by
  unfold convertToGBMDesc
  by_cases empty : info.width = 0 ∨ info.height = 0
  · rw [if_pos empty, if_pos empty]
  · have layers : info.layerCount.toInt > 1 := by
      by_contra few
      exact h ⟨empty, few⟩
    rw [if_neg empty, if_neg empty]
    exact congrArg Prod.fst (if_pos layers)

structure GbmMesaAllocator where
  /-- `_gbmDevFd` -/
  gbmDevFd : Int := -1

namespace GbmMesaAllocator

def isInitialized (allocator : GbmMesaAllocator) : Bool := allocator.gbmDevFd > 0

def init (env : DeviceInitEnv) (s : Process) : Bool × GbmMesaAllocator × Process :=
  let (gbmDevFd, s) := grallocGbmDeviceInit env s
  (gbmDevFd > 0, { gbmDevFd }, s)

/-- `~GbmMesaAllocator` -/
def destruct (allocator : GbmMesaAllocator) (s : Process) : GbmMesaAllocator × Process :=
  if allocator.gbmDevFd > 0 then
    ({ gbmDevFd := -1 }, s.close (BitVec.ofInt 32 allocator.gbmDevFd))
  else (allocator, s)

/-! ## One buffer -/

/-- What the platform answers to one call of `gbmAllocateBuffer`. -/
structure AttemptEnv extends AllocEnv where
  /-- the indeterminate initial value of the local `handle` -/
  handleLocal : Ptr

/-- The second result is what is stored through `outStride` and `outHandle`. -/
def gbmAllocateBuffer (env : AttemptEnv) (allocator : GbmMesaAllocator) (s : Process)
    (desc : GrallocBufferDesc) : Except Fault (ScopedAStatus × Option (Word × Ptr) × Process) :=
  if ¬ allocator.isInitialized then .ok (toBinderStatus .noResources, none, s)
  else if ¬ grallocIsDescSupport desc then .ok (toBinderStatus .unsupported, none, s)
  else do
    let (ret, stored, s) ← grallocAllocate env.toAllocEnv s desc
    if ret ≠ 0 then .ok (toBinderStatus .noResources, none, s)
    else
      let (stride, handle) := stored.getD (0, env.handleLocal)
      let pixelStride := grallocGmAndroidCaculatePixelStride desc.androidFormat stride
      .ok (.ok, some (pixelStride, handle), s)

/-- Release the buffer and the handle; `errno` is what it is on entry. -/
def releaseHandle (errno : Int) (s : Process) (handle : Ptr) : Except Fault Process :=
  if handle = 0 then .ok s
  else do
    let (_, s) ← grallocGmBufferFree errno s handle
    let hnd ← s.handle handle
    return (s.nativeHandleClose hnd).nativeHandleDelete handle

/-- Duplicate descriptors; `answers` are the numbers the kernel picks. -/
def dupFds : List Fd → List Fd → Process → List Fd × Process
  | [], _, s => ([], s)
  | fd :: rest, answers, s =>
      let (dup, s) := s.fcntlDupfd fd (answers.headD (-1))
      let (dups, s) := dupFds rest answers.tail s
      (dup :: dups, s)

def dupToAidl (answers : List Fd) (s : Process) (handle : NativeHandle) : NativeHandle × Process :=
  let (fds, s) := dupFds handle.fds answers s
  ({ handle with fds }, s)

/-- The destructor of an AIDL handle. -/
def dropHandle (s : Process) (handle : NativeHandle) : Process :=
  handle.fds.foldl (fun s fd => if fd = -1 then s else s.close fd) s

def emptyHandle : NativeHandle := { fds := [], ints := [] }

/-- `buffers.resize(count)` -/
def resizeBuffers (buffers : List NativeHandle) (count : Nat) (s : Process) :
    List NativeHandle × Process :=
  (buffers.take count ++ List.replicate (count - buffers.length) emptyHandle,
    (buffers.drop count).foldl dropHandle s)

/-- Export a handle into an entry that held `entry`, and release it. -/
def exportHandle (answers : List Fd) (errno : Int) (entry : NativeHandle) (s : Process)
    (handle : Ptr) : Except Fault (NativeHandle × Process) :=
  if handle = 0 then .ok (entry, s)
  else do
    let hnd ← s.handle handle
    let (dup, s) := dupToAidl answers s hnd
    let s ← releaseHandle errno (dropHandle s entry) handle
    return (dup, s)

/-! ## All buffers of a request -/

/-- What the platform answers to one call of `doAllocate`. -/
structure DoAllocateEnv where
  attempts : Nat → AttemptEnv
  /-- the descriptors that duplicate those of each handle -/
  dups : Nat → List Fd
  errno : Int

/-- The loop that allocates, with `remaining` attempts to go after those that
gave `handles`.  A failure releases what has been allocated. -/
def allocateHandles (env : DoAllocateEnv) (allocator : GbmMesaAllocator)
    (desc : GrallocBufferDesc) :
    Nat → List Ptr → Word → Process → Except Fault (ScopedAStatus × List Ptr × Word × Process)
  | 0, handles, stride, s => .ok (.ok, handles, stride, s)
  | remaining + 1, handles, stride, s => do
      let (status, stored, s) ←
        gbmAllocateBuffer (env.attempts handles.length) allocator s desc
      let (stride, handle) := stored.getD (stride, 0)
      if status ≠ .ok then
        let s ← handles.foldlM (releaseHandle env.errno) s
        .ok (status, handles, stride, s)
      else allocateHandles env allocator desc remaining (handles ++ [handle]) stride s

/-- The loop that exports the handles, from the entry at `i` on. -/
def exportHandles (env : DoAllocateEnv) :
    Nat → List Ptr → List NativeHandle → Process → Except Fault (List NativeHandle × Process)
  | _, [], buffers, s => .ok (buffers, s)
  | i, handle :: rest, buffers, s => do
      let (entry, s) ←
        exportHandle (env.dups i) env.errno (buffers.getD i emptyHandle) s handle
      exportHandles env (i + 1) rest (buffers.set i entry) s

/-- A negative `count` is too large for the vector of handles. -/
def doAllocate (env : DoAllocateEnv) (allocator : GbmMesaAllocator) (s : Process)
    (desc : GrallocBufferDesc) (count : Word) (outResult : AllocationResult) :
    Except Fault (ScopedAStatus × AllocationResult × Process) :=
  if ¬ allocator.isInitialized then .ok (toBinderStatus .noResources, outResult, s)
  else if count.toInt < 0 then .error .lengthError
  else do
    let (status, handles, stride, s) ←
      allocateHandles env allocator desc count.toNat [] outResult.stride s
    let outResult := { outResult with stride }
    if status ≠ .ok then .ok (status, outResult, s)
    else
      let (buffers, s) := resizeBuffers outResult.buffers count.toNat s
      let (buffers, s) ← exportHandles env 0 handles buffers s
      return (.ok, { outResult with buffers }, s)

/-! ## The service -/

/-- `decode` is `gralloc4::decodeBufferDescriptorInfo`. -/
def allocate (decode : List Byte → Except Int BufferDescriptorInfoV4) (env : DoAllocateEnv)
    (allocator : GbmMesaAllocator) (s : Process) (encodedDescriptor : List Byte) (count : Word)
    (outResult : AllocationResult) : Except Fault (ScopedAStatus × AllocationResult × Process) :=
  if ¬ allocator.isInitialized then .ok (toBinderStatus .noResources, outResult, s)
  else
    match decode encodedDescriptor with
    | .error _ => .ok (toBinderStatus .badDescriptor, outResult, s)
    | .ok mapperV4Descriptor =>
        let (status, gbmDesc) := convertToGBMDesc mapperV4Descriptor.info {}
        if status ≠ .ok then .ok (toBinderStatus .unsupported, outResult, s)
        else doAllocate env allocator s gbmDesc count outResult

def allocate2 (env : DoAllocateEnv) (allocator : GbmMesaAllocator) (s : Process)
    (descriptor : BufferDescriptorInfo) (count : Word) (outResult : AllocationResult) :
    Except Fault (ScopedAStatus × AllocationResult × Process) :=
  if ¬ allocator.isInitialized then .ok (toBinderStatus .noResources, outResult, s)
  else
    let (status, gbmDesc) := convertToGBMDesc descriptor {}
    if status ≠ .ok then .ok (status, outResult, s)
    else doAllocate env allocator s gbmDesc count outResult

def standardMetadataDataspace : String := "android.hardware.graphics.common.Dataspace"

/-- The second result is what `outResult` holds afterwards. -/
def isSupported (allocator : GbmMesaAllocator) (descriptor : BufferDescriptorInfo)
    (outResult : Bool) : ScopedAStatus × Bool :=
  if ¬ allocator.isInitialized then (toBinderStatus .noResources, outResult)
  else if descriptor.additionalOptions.any (fun option => option.name != standardMetadataDataspace)
    then (.ok, false)
  else (.ok, true)

/-! ## What reaches an allocation -/

section Entry

variable {decode : List Byte → Except Int BufferDescriptorInfoV4} {env : DoAllocateEnv}
  {allocator : GbmMesaAllocator} {s : Process} {encodedDescriptor : List Byte} {count : Word}
  {outResult : AllocationResult}

theorem allocate2_convertible (initialized : allocator.isInitialized = true)
    {info : BufferDescriptorInfo} (h : Convertible info) :
    allocate2 env allocator s info count outResult =
      doAllocate env allocator s (gbmDesc info) count outResult := by
  unfold allocate2
  rw [if_neg (not_not_intro initialized), convertToGBMDesc_ok h]
  rfl

theorem allocate2_refused (initialized : allocator.isInitialized = true)
    {info : BufferDescriptorInfo} (h : ¬ Convertible info) :
    allocate2 env allocator s info count outResult =
      .ok (if info.width = 0 ∨ info.height = 0 then toBinderStatus .badDescriptor
        else toBinderStatus .unsupported, outResult, s) := by
  have refused : (convertToGBMDesc info {}).1 ≠ .ok := by
    rw [convertToGBMDesc_refused h]
    split <;> exact nofun
  unfold allocate2
  rw [if_neg (not_not_intro initialized), ← convertToGBMDesc_refused h]
  exact if_pos refused

theorem allocate_convertible (initialized : allocator.isInitialized = true)
    {descriptor : BufferDescriptorInfoV4} (decoded : decode encodedDescriptor = .ok descriptor)
    (h : Convertible descriptor.info) :
    allocate decode env allocator s encodedDescriptor count outResult =
      doAllocate env allocator s (gbmDesc descriptor.info) count outResult := by
  unfold allocate
  rw [if_neg (not_not_intro initialized), decoded]
  simp only [convertToGBMDesc_ok h]
  rfl

theorem allocate_refused (initialized : allocator.isInitialized = true)
    {descriptor : BufferDescriptorInfoV4} (decoded : decode encodedDescriptor = .ok descriptor)
    (h : ¬ Convertible descriptor.info) :
    allocate decode env allocator s encodedDescriptor count outResult =
      .ok (toBinderStatus .unsupported, outResult, s) := by
  have refused : (convertToGBMDesc descriptor.info {}).1 ≠ .ok := by
    rw [convertToGBMDesc_refused h]
    split <;> exact nofun
  unfold allocate
  rw [if_neg (not_not_intro initialized), decoded]
  exact if_pos refused

theorem allocate_undecoded (initialized : allocator.isInitialized = true) {ret : Int}
    (decoded : decode encodedDescriptor = .error ret) :
    allocate decode env allocator s encodedDescriptor count outResult =
      .ok (toBinderStatus .badDescriptor, outResult, s) := by
  unfold allocate
  rw [if_neg (not_not_intro initialized), decoded]

end Entry

end GbmMesaAllocator

end GrallocGbmMesa.Allocator
