import GrallocGbmMesa.Lib.Parcel
import GrallocGbmMesa.Allocator.Allocator

/-!
# The parcelables of the allocator interface

What the AIDL compiler made of `BufferDescriptorInfo`, `AllocationResult`, `NativeHandle` and
`ExtendableType`.  The functions of the NDK that read and write a single datum are a parameter.
-/

namespace GrallocGbmMesa.Aidl

open ByteStream Parcels
open GrallocGbmMesa.Platform
open GrallocGbmMesa.Mapper (ExtendableType)

/-- A `binder_status_t` other than `STATUS_OK`. -/
structure BinderError where
  status : Int
  failed : status ≠ 0
  deriving DecidableEq, Repr

def statusBadValue : BinderError := ⟨-einval, by decide⟩

/-- `AParcel_readData` and `AParcel_writeData`, for each type of the interface; `Name` is that of
the name of a buffer. -/
structure Ndk (Cell Name : Type) where
  medium : Medium Cell BinderError
  name : Codec Cell BinderError Name
  string : Codec Cell BinderError String
  int64 : Codec Cell BinderError (BitVec 64)
  bool : Codec Cell BinderError Bool
  bytes : Codec Cell BinderError (List Byte)
  /-- a descriptor travels as the file that it refers to, and `-1` as none -/
  file : Codec Cell BinderError (Option FileId)
  vector : {Datum : Type} → [Inhabited Datum] → Codec Cell BinderError Datum →
    Codec Cell BinderError (List Datum)
  /-- a parcelable, around what its own functions read and write -/
  parcelable : {Obj : Type} → Codec Cell BinderError Obj → Codec Cell BinderError Obj

/-- The descriptor of a buffer with its name. -/
structure BufferDescriptorInfo (Name : Type) extends Allocator.BufferDescriptorInfo where
  name : Name

/-- A `NativeHandle` between two processes. -/
structure NativeHandle where
  fds : List (Option FileId) := []
  ints : List Word := []
  deriving DecidableEq, Repr, Inhabited

/-- An `AllocationResult` between two processes. -/
structure AllocationResult where
  stride : Word := 0
  buffers : List NativeHandle := []
  deriving DecidableEq, Repr

instance : Inhabited ExtendableType := ⟨⟨"", 0⟩⟩

variable {Cell Name : Type} (ndk : Ndk Cell Name)

namespace ExtendableType

def fields : List (Field Cell BinderError ExtendableType) :=
  [⟨ndk.string, (·.name), fun object name => { object with name }⟩,
    ⟨ndk.int64, (·.value), fun object value => { object with value }⟩]

def readFromParcel (object : ExtendableType) (parcel : Parcel Cell) :
    Except BinderError (ExtendableType × Parcel Cell) :=
  readParcelable ndk.medium statusBadValue (fields ndk) object parcel

def writeToParcel (object : ExtendableType) (parcel : Parcel Cell) :
    Except BinderError (Parcel Cell) :=
  writeParcelable ndk.medium (fields ndk) object parcel

def layout : Layout Cell BinderError ExtendableType where
  fields := fields ndk
  covers _ _ := rfl

end ExtendableType

namespace BufferDescriptorInfo

def fields : List (Field Cell BinderError (BufferDescriptorInfo Name)) :=
  [⟨ndk.name, (·.name), fun object name => { object with name }⟩,
    ⟨ndk.medium.int32, (·.width), fun object width => { object with width }⟩,
    ⟨ndk.medium.int32, (·.height), fun object height => { object with height }⟩,
    ⟨ndk.medium.int32, (·.layerCount), fun object layerCount => { object with layerCount }⟩,
    ⟨ndk.medium.int32, (·.format), fun object format => { object with format }⟩,
    ⟨ndk.int64, (·.usage), fun object usage => { object with usage }⟩,
    ⟨ndk.int64, (·.reservedSize), fun object reservedSize => { object with reservedSize }⟩,
    ⟨ndk.vector (ndk.parcelable ((ExtendableType.layout ndk).codec ndk.medium statusBadValue)),
      (·.additionalOptions),
      fun object additionalOptions => { object with additionalOptions }⟩]

def readFromParcel (object : BufferDescriptorInfo Name) (parcel : Parcel Cell) :
    Except BinderError (BufferDescriptorInfo Name × Parcel Cell) :=
  readParcelable ndk.medium statusBadValue (fields ndk) object parcel

def writeToParcel (object : BufferDescriptorInfo Name) (parcel : Parcel Cell) :
    Except BinderError (Parcel Cell) :=
  writeParcelable ndk.medium (fields ndk) object parcel

def layout : Layout Cell BinderError (BufferDescriptorInfo Name) where
  fields := fields ndk
  covers _ _ := rfl

end BufferDescriptorInfo

namespace NativeHandle

def fields : List (Field Cell BinderError NativeHandle) :=
  [⟨ndk.vector ndk.file, (·.fds), fun object fds => { object with fds }⟩,
    ⟨ndk.vector ndk.medium.int32, (·.ints), fun object ints => { object with ints }⟩]

def readFromParcel (object : NativeHandle) (parcel : Parcel Cell) :
    Except BinderError (NativeHandle × Parcel Cell) :=
  readParcelable ndk.medium statusBadValue (fields ndk) object parcel

def writeToParcel (object : NativeHandle) (parcel : Parcel Cell) :
    Except BinderError (Parcel Cell) :=
  writeParcelable ndk.medium (fields ndk) object parcel

def layout : Layout Cell BinderError NativeHandle where
  fields := fields ndk
  covers _ _ := rfl

end NativeHandle

namespace AllocationResult

def fields : List (Field Cell BinderError AllocationResult) :=
  [⟨ndk.medium.int32, (·.stride), fun object stride => { object with stride }⟩,
    ⟨ndk.vector (ndk.parcelable ((NativeHandle.layout ndk).codec ndk.medium statusBadValue)),
      (·.buffers), fun object buffers => { object with buffers }⟩]

def readFromParcel (object : AllocationResult) (parcel : Parcel Cell) :
    Except BinderError (AllocationResult × Parcel Cell) :=
  readParcelable ndk.medium statusBadValue (fields ndk) object parcel

def writeToParcel (object : AllocationResult) (parcel : Parcel Cell) :
    Except BinderError (Parcel Cell) :=
  writeParcelable ndk.medium (fields ndk) object parcel

def layout : Layout Cell BinderError AllocationResult where
  fields := fields ndk
  covers _ _ := rfl

end AllocationResult

/-! ## All of them -/

inductive Parcelable where
  | extendableType
  | bufferDescriptorInfo
  | nativeHandle
  | allocationResult

namespace Parcelable

abbrev Obj (Name : Type) : Parcelable → Type
  | extendableType => ExtendableType
  | bufferDescriptorInfo => BufferDescriptorInfo Name
  | nativeHandle => NativeHandle
  | allocationResult => AllocationResult

def readFromParcel (parcelable : Parcelable) : parcelable.Obj Name → Parcel Cell →
    Except BinderError (parcelable.Obj Name × Parcel Cell) :=
  match parcelable with
  | extendableType => ExtendableType.readFromParcel ndk
  | bufferDescriptorInfo => BufferDescriptorInfo.readFromParcel ndk
  | nativeHandle => NativeHandle.readFromParcel ndk
  | allocationResult => AllocationResult.readFromParcel ndk

def writeToParcel (parcelable : Parcelable) :
    parcelable.Obj Name → Parcel Cell → Except BinderError (Parcel Cell) :=
  match parcelable with
  | extendableType => ExtendableType.writeToParcel ndk
  | bufferDescriptorInfo => BufferDescriptorInfo.writeToParcel ndk
  | nativeHandle => NativeHandle.writeToParcel ndk
  | allocationResult => AllocationResult.writeToParcel ndk

def layout (parcelable : Parcelable) : Layout Cell BinderError (parcelable.Obj Name) :=
  match parcelable with
  | extendableType => ExtendableType.layout ndk
  | bufferDescriptorInfo => BufferDescriptorInfo.layout ndk
  | nativeHandle => NativeHandle.layout ndk
  | allocationResult => AllocationResult.layout ndk

theorem readFromParcel_eq (parcelable : Parcelable) :
    parcelable.readFromParcel ndk =
      readParcelable ndk.medium statusBadValue (parcelable.layout ndk).fields := by
  cases parcelable <;> rfl

theorem writeToParcel_eq (parcelable : Parcelable) :
    parcelable.writeToParcel ndk = writeParcelable ndk.medium (parcelable.layout ndk).fields := by
  cases parcelable <;> rfl

end Parcelable

end GrallocGbmMesa.Aidl
