import GrallocGbmMesa.Core.Buffer
import GrallocGbmMesa.Core.Lock
import GrallocGbmMesa.Mapper.PlaneLayouts

/-!
# The stable-C mapper

`GbmMesaMapperV5` over the core library.  Its own state is the flag
`mInitialized` and the metadata it keeps for each prime descriptor.
-/

namespace GrallocGbmMesa.Mapper

open ByteStream
open GrallocGbmMesa.Platform GrallocGbmMesa.Core

structure GrallocMetadata where
  primeFd : Fd
  blendMode : Word
  dataspace : Word
  cta861_3 : Cta861_3
  smpte2086 : Smpte2086
  deriving DecidableEq, Repr

structure MapperState where
  process : Process
  mInitialized : Bool
  /-- `gralloc_metadata_prime_fd_map` -/
  metadataMap : Fd → Option GrallocMetadata

/-- The constructor, in a process without metadata. -/
def construct (env : DeviceInitEnv) (s : Process) : MapperState :=
  let (ret, s) := grallocGbmDeviceInit env s
  { process := s, mInitialized := decide (ret > 0), metadataMap := fun _ => none }

def blendModeNone : Word := 1#32
def dataspaceUnknown : Word := 0#32

def initialMetadata (primeFd : Fd) : GrallocMetadata where
  primeFd := primeFd
  blendMode := blendModeNone
  dataspace := dataspaceUnknown
  cta861_3 := ⟨0, 0⟩
  smpte2086 := ⟨⟨0, 0⟩, ⟨0, 0⟩, ⟨0, 0⟩, ⟨0, 0⟩, 0, 0⟩

/-- Use the existing metadata or create it if it doesn't exist. -/
def createMetadata (m : MapperState) (primeFd : Fd) : GrallocMetadata × MapperState :=
  match m.metadataMap primeFd with
  | some metadata => (metadata, m)
  | none =>
      let metadata := initialMetadata primeFd
      (metadata, { m with metadataMap := Function.update m.metadataMap primeFd (some metadata) })

/-! ## Import and free -/

/-- The descriptors a clone opens, one for each descriptor of the original. -/
def openAll (s : Process) (files : List FileId) (fds : List Fd) : Process :=
  (fds.zip files).foldl (fun s (fd, file) => s.openFd fd file) s

/-- `native_handle_clone`; `answer` is the memory and the descriptors it would
get, or `none` when one of its calls fails.  A descriptor that is not open
cannot be duplicated, and a failed clone takes back what it has done. -/
def nativeHandleClone (answer : Option (Ptr × List Fd)) (s : Process) (handle : NativeHandle) :
    Option Ptr × Process :=
  match answer with
  | none => (none, s)
  | some (p, fds) =>
      if (handle.fds.all fun fd => (s.fds fd).isSome) ∧ fds.length = handle.numFds then
        let files := handle.fds.map fun fd => (s.fds fd).getD 0
        (some p, (openAll s files fds).placeHandle p { handle with fds })
      else (none, s)

/-- What the platform answers to one call of `importBuffer`. -/
structure ImportBufferEnv where
  clone : Option (Ptr × List Fd)
  gbm : ImportEnv

/-- The second result is what is stored through `outBufferHandle`. -/
def importBuffer (env : ImportBufferEnv) (m : MapperState) (bufferHandle : Option NativeHandle) :
    Except Fault (AIMapperError × Option Ptr × MapperState) :=
  if ¬ m.mInitialized then .ok (.noResources, none, m)
  else
    match bufferHandle with
    | none => .ok (.badBuffer, none, m)
    | some handle =>
        if handle.numFds = 0 then .ok (.badBuffer, none, m)
        else
          match nativeHandleClone env.clone m.process handle with
          | (none, s) => .ok (.noResources, none, { m with process := s })
          | (some imported, s) => do
              let (ret, s) ← grallocGmBufferImport env.gbm s imported
              if ret ≠ 0 then
                let clone ← s.handle imported
                let s := (s.nativeHandleClose clone).nativeHandleDelete imported
                return (.noResources, none, { m with process := s })
              else return (.none, some imported, { m with process := s })

/-- `errno` is the value of the thread's error number on entry. -/
def freeBuffer (errno : Int) (m : MapperState) (buffer : Ptr) :
    Except Fault (AIMapperError × MapperState) :=
  if ¬ m.mInitialized then .ok (.noResources, m)
  else if buffer = 0 then .ok (.badBuffer, m)
  else do
    let hnd ← m.process.handle buffer
    let primeFd ← hnd.primeFd
    let m := { m with metadataMap := Function.update m.metadataMap primeFd none }
    let (ret, s) ← grallocGmBufferFree errno m.process buffer
    if ret ≠ 0 then return (.badBuffer, { m with process := s })
    else
      let handle ← s.handle buffer
      let s := (s.nativeHandleClose handle).nativeHandleDelete buffer
      return (.none, { m with process := s })

/-! ## Lock and unlock -/

structure ARect where
  left : Word
  top : Word
  right : Word
  bottom : Word
  deriving DecidableEq, Repr

/-- A difference of two `int32_t`. -/
def int32Sub (a b : Word) : Except Fault Word :=
  if BitVec.ssubOverflow a b then .error .signedOverflow else .ok (a - b)

/-- The destructor of a `unique_fd`. -/
def closeUniqueFd (s : Process) (fd : Fd) : Process := if fd = -1 then s else s.close fd

/-- The body of `lock`, before its fence is closed. -/
def lockBody (answer : GbmMapResult) (m : MapperState) (bufferHandle : Ptr)
    (cpuUsage : BitVec 64) (region : ARect) :
    Except Fault (AIMapperError × Option Ptr × Process) :=
  if ¬ m.mInitialized then .ok (.noResources, none, m.process)
  else if bufferHandle = 0 then .ok (.badBuffer, none, m.process)
  else if cpuUsage = 0 then .ok (.badValue, none, m.process)
  else do
    let usage : Word := cpuUsage.setWidth 32
    let _ ← int32Sub region.right region.left
    let _ ← int32Sub region.bottom region.top
    let (ret, addr, s) ← grallocGbmBoLock answer m.process bufferHandle usage
    if ret ≠ 0 then return (.badValue, addr, s) else return (.none, addr, s)

/-- The second result is what is stored through `outData`, if anything is. -/
def lock (answer : GbmMapResult) (m : MapperState) (bufferHandle : Ptr) (cpuUsage : BitVec 64)
    (region : ARect) (acquireFenceRawFd : Fd) :
    Except Fault (AIMapperError × Option Ptr × MapperState) := do
  let (error, addr, s) ← lockBody answer m bufferHandle cpuUsage region
  return (error, addr, { m with process := closeUniqueFd s acquireFenceRawFd })

/-- The second result is what is stored through `releaseFence`. -/
def unlock (m : MapperState) (buffer : Ptr) :
    Except Fault (AIMapperError × Option Fd × MapperState) :=
  if ¬ m.mInitialized then .ok (.noResources, none, m)
  else if buffer = 0 then .ok (.badBuffer, none, m)
  else do
    let (ret, s) ← grallocGbmBoUnlock m.process buffer
    if ret ≠ 0 then return (.badBuffer, none, { m with process := s })
    else return (.none, some (-1), { m with process := s })

/-- Required, but not implemented. -/
def flushLockedBuffer (m : MapperState) (_buffer : Ptr) : AIMapperError × MapperState := (.none, m)

/-- Required, but not implemented. -/
def rereadLockedBuffer (m : MapperState) (_buffer : Ptr) : AIMapperError × MapperState := (.none, m)

/-- The second result is what is stored through `outReservedRegion` and `outReservedSize`. -/
def getReservedRegion (m : MapperState) (buffer : Ptr) :
    AIMapperError × Option (Ptr × BitVec 64) × MapperState :=
  if ¬ m.mInitialized then (.noResources, none, m)
  else if buffer = 0 then (.badBuffer, none, m)
  else (.none, some (0, 0), m)

/-! ## Reading metadata -/

def compressionNone : ExtendableType := ⟨"android.hardware.graphics.common.Compression", 0⟩
def interlacedNone : ExtendableType := ⟨"android.hardware.graphics.common.Interlaced", 0⟩
def chromaSitingNone : ExtendableType := ⟨"android.hardware.graphics.common.ChromaSiting", 0⟩

/-- The value `getStandardMetadata<F, metadataType>` provides, if it provides one. -/
def provideValue (s : Process) (buffer : Ptr) (hnd : NativeHandle) (metadata : GrallocMetadata) :
    (type : StandardMetadataType) → Except Fault (Option type.valueType.Value)
  | .bufferId => .ok (some (BitVec.ofNat 64 buffer))
  | .width => do
      let width ← hnd.width
      return some (width.signExtend 64)
  | .height => do
      let height ← hnd.height
      return some (height.signExtend 64)
  | .layerCount => .ok (some (1#64))
  | .pixelFormatRequested => do
      let format ← hnd.format
      return some format
  | .pixelFormatFourcc => do
      let format ← hnd.format
      let fourccFormat := grallocGmAndroidFormatToGbmFormat format
      if fourccFormat > 0 then return some fourccFormat else return none
  | .pixelFormatModifier => do
      let modifier ← hnd.modifier
      return some modifier
  | .usage => do
      let usage ← hnd.usage
      return some (usage.setWidth 64)
  | .allocationSize =>
      match grallocGetGbmBoFromHandle s buffer with
      | none => .ok (some (0#64))
      | some p => do
          let bo ← s.bo p
          return some ((bo.stride * bo.height).setWidth 64)
  | .protectedContent => do
      let usage ← hnd.usage
      return some (if Bits.Meets usage grallocUsageProtected then 1#64 else 0#64)
  | .compression => .ok (some compressionNone)
  | .interlaced => .ok (some interlacedNone)
  | .chromaSiting => .ok (some chromaSitingNone)
  | .planeLayouts => do
      let format ← hnd.format
      let stride ← hnd.stride
      let width ← hnd.width
      let height ← hnd.height
      let layouts := getPlaneLayouts (grallocGmAndroidFormatToGbmFormat format)
      return some (layouts.map (sizedPlane stride width height))
  | .crop => do
      let width ← hnd.width
      let height ← hnd.height
      return some [{ left := 0, top := 0, right := width, bottom := height }]
  | .dataspace => .ok (some metadata.dataspace)
  | .blendMode => .ok (some metadata.blendMode)
  | .smpte2086 => .ok (some (some metadata.smpte2086))
  | .cta861_3 => .ok (some (some metadata.cta861_3))
  | .stride => do
      let format ← hnd.format
      let stride ← hnd.stride
      return some (grallocGmAndroidCaculatePixelStride format stride)
  | .invalid | .name | .smpte2094_40 | .smpte2094_10 => .ok none

/-- The return value and the bytes left in `outData`. -/
def getStandardMetadata (m : MapperState) (bufferHandle : Ptr) (standardType : BitVec 64)
    (outDataSize : Nat) : Except Fault (Int × List Byte × MapperState) :=
  if ¬ m.mInitialized then .ok (AIMapperError.noResources.code, [], m)
  else if bufferHandle = 0 then .ok (AIMapperError.badBuffer.code, [], m)
  else
    match StandardMetadataType.ofValue standardType with
    | none | some .invalid => .ok (-AIMapperError.unsupported.code, [], m)
    | some type => do
        let hnd ← m.process.handle bufferHandle
        let primeFd ← hnd.primeFd
        let (metadata, m) := createMetadata m primeFd
        match ← provideValue m.process bufferHandle hnd metadata type with
        | none => return (AIMapperError.unsupported.code, [], m)
        | some value =>
            let (size, bytes) := encode type value outDataSize
            return (size, bytes, m)

structure MetadataType where
  name : String
  value : BitVec 64

def isStandardMetadata (metadataType : MetadataType) : Bool :=
  standardMetadataName == metadataType.name

def getMetadata (m : MapperState) (buffer : Ptr) (metadataType : MetadataType)
    (outDataSize : Nat) : Except Fault (Int × List Byte × MapperState) :=
  if isStandardMetadata metadataType then
    getStandardMetadata m buffer metadataType.value outDataSize
  else .ok (AIMapperError.unsupported.code, [], m)

/-! ## Writing metadata -/

/-- The 32 bits at an index of an array of words. -/
def rawWord (metadata : List Byte) (index : Nat) : Word :=
  ofLittleEndian 32 ((metadata.drop (4 * index)).take 4)

/-- The bytes of a `Smpte2086` object. -/
def rawSmpte2086 (metadata : List Byte) : Smpte2086 where
  primaryRed := ⟨rawWord metadata 0, rawWord metadata 1⟩
  primaryGreen := ⟨rawWord metadata 2, rawWord metadata 3⟩
  primaryBlue := ⟨rawWord metadata 4, rawWord metadata 5⟩
  whitePoint := ⟨rawWord metadata 6, rawWord metadata 7⟩
  maxLuminance := rawWord metadata 8
  minLuminance := rawWord metadata 9

/-- The bytes of a `Cta861_3` object. -/
def rawCta861_3 (metadata : List Byte) : Cta861_3 where
  maxContentLightLevel := rawWord metadata 0
  maxFrameAverageLightLevel := rawWord metadata 1

/-- The `switch` of `setStandardMetadata`: what it returns and what it makes of
the metadata of the buffer. -/
def applyMetadata (type : Option StandardMetadataType) (metadata : List Byte)
    (stored : GrallocMetadata) : AIMapperError × GrallocMetadata :=
  match type with
  | some .dataspace =>
      if metadata.length ≠ 4 then (.badValue, stored)
      else (.none, { stored with dataspace := rawWord metadata 0 })
  | some .blendMode =>
      if metadata.length ≠ 4 then (.badValue, stored)
      else (.none, { stored with blendMode := rawWord metadata 0 })
  | some .smpte2086 =>
      if metadata.length ≠ 40 then (.badValue, stored)
      else (.none, { stored with smpte2086 := rawSmpte2086 metadata })
  | some .cta861_3 =>
      if metadata.length ≠ 8 then (.badValue, stored)
      else (.none, { stored with cta861_3 := rawCta861_3 metadata })
  | some .bufferId | some .name | some .width | some .height | some .layerCount
  | some .pixelFormatRequested | some .usage => (.badValue, stored)
  | _ => (.unsupported, stored)

def setStandardMetadata (m : MapperState) (buffer : Ptr) (standardMetadataType : BitVec 64)
    (metadata : List Byte) : Except Fault (AIMapperError × MapperState) :=
  if ¬ m.mInitialized then .ok (.noResources, m)
  else if buffer = 0 then .ok (.badBuffer, m)
  else do
    let handle ← m.process.handle buffer
    let primeFd ← handle.primeFd
    let (stored, m) := createMetadata m primeFd
    let (error, stored) :=
      applyMetadata (StandardMetadataType.ofValue standardMetadataType) metadata stored
    return (error,
      { m with metadataMap := Function.update m.metadataMap primeFd (some stored) })

def setMetadata (m : MapperState) (buffer : Ptr) (metadataType : MetadataType)
    (metadata : List Byte) : Except Fault (AIMapperError × MapperState) :=
  if ¬ isStandardMetadata metadataType then .ok (.unsupported, m)
  else setStandardMetadata m buffer metadataType.value metadata

end GrallocGbmMesa.Mapper
