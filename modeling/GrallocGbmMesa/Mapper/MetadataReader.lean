import GrallocGbmMesa.Lib.Scanner
import GrallocGbmMesa.Mapper.Metadata

/-!
# Decoding standard metadata

`MetadataReader` as the dispatch header has it, and the `decode` of every type of standard
metadata: what a client does with the bytes that a mapper gave it.
-/

namespace GrallocGbmMesa.Mapper

open ByteStream Scanner
open GrallocGbmMesa.Platform

inductive DecodeFault where
  /-- `std::vector::reserve` throws, and nothing catches it -/
  | uncaughtException
  | signedOverflow
  deriving DecidableEq, Repr

abbrev MetadataReader (α : Type) := Scanner DecodeFault α

/-- The number of bytes that a vector can get from the heap. -/
structure VectorRoom where
  bytes : ℕ
  small : bytes < 2 ^ 63

def bytesString (bytes : List Byte) : String :=
  String.ofList (bytes.map fun byte => Char.ofNat byte.toNat)

namespace MetadataReader

/-- `readInt<T>` -/
def readInt (w count : ℕ) : MetadataReader (Option (BitVec w)) := word w count

/-- `read` of a number: without enough bytes the destination keeps what it held. -/
def read {w : ℕ} (count : ℕ) (dest : BitVec w) : MetadataReader (BitVec w) := do
  return (← word w count).getD dest

def readString : MetadataReader String := do
  match ← readInt 64 8 with
  | none => return ""
  | some length =>
      match ← advance length.toNat with
      | some src => return bytesString src
      | none => return ""

def readBuffer : MetadataReader (List Byte) := do
  let length := (← readInt 64 8).getD 0
  match ← advance length.toNat with
  | some src => return src
  | none => return []

/-- `read` of an `ExtendableType` -/
def readInto (dest : ExtendableType) : MetadataReader ExtendableType := do
  let name ← readString
  let value ← read 8 dest.value
  return { name, value }

def readExtendable : MetadataReader (Option ExtendableType) := do
  let name ← readString
  match ← readInt 64 8 with
  | some value => return some { name, value }
  | none => return none

def checkHeader (type : StandardMetadataType) : MetadataReader Unit := do
  let name ← readString
  require (standardMetadataName = name)
  let value ← readInt 64 8
  require (value = some type.value)

/-- `readInt<int64_t>().value_or(0)`, a `reserve` of as many elements of `size` bytes, and the
loop that reads them. -/
def readVector {α : Type} (room : VectorRoom) (size : ℕ) (element : MetadataReader α) :
    MetadataReader (List α) := do
  let num := (← readInt 64 8).getD 0
  -- a negative number is taken as a `size_t`
  if num.toNat * size ≤ room.bytes then
    each .signedOverflow intMax.toNat element num.toInt.toNat 0
  else fault .uncaughtException

def readXyColor : MetadataReader XyColor := do
  let x ← read 4 0
  let y ← read 4 0
  return { x, y }

def readComponent : MetadataReader PlaneLayoutComponent := do
  let type ← readInto ⟨"", 0⟩
  let offsetInBits ← read 8 0
  let sizeInBits ← read 8 0
  return { type, offsetInBits, sizeInBits }

def readPlaneLayout (room : VectorRoom) : MetadataReader PlaneLayout := do
  let components ← readVector room 48 readComponent
  let offsetInBytes ← read 8 0
  let sampleIncrementInBits ← read 8 0
  let strideInBytes ← read 8 0
  let widthInSamples ← read 8 0
  let heightInSamples ← read 8 0
  let totalSizeInBytes ← read 8 0
  let horizontalSubsampling ← read 8 0
  let verticalSubsampling ← read 8 0
  return {
    components, offsetInBytes, sampleIncrementInBits, strideInBytes, widthInSamples,
    heightInSamples, totalSizeInBytes, horizontalSubsampling, verticalSubsampling }

def readRect : MetadataReader Rect := do
  let left ← read 4 0
  let top ← read 4 0
  let right ← read 4 0
  let bottom ← read 4 0
  return { left, top, right, bottom }

def readSmpte2086 : MetadataReader Smpte2086 := do
  let primaryRed ← readXyColor
  let primaryGreen ← readXyColor
  let primaryBlue ← readXyColor
  let whitePoint ← readXyColor
  let maxLuminance ← read 4 0
  let minLuminance ← read 4 0
  return { primaryRed, primaryGreen, primaryBlue, whitePoint, maxLuminance, minLuminance }

def readCta861_3 : MetadataReader Cta861_3 := do
  let maxContentLightLevel ← read 4 0
  let maxFrameAverageLightLevel ← read 4 0
  return { maxContentLightLevel, maxFrameAverageLightLevel }

end MetadataReader

open MetadataReader

/-- An absent value has no bytes at all. -/
def decodeIfAny {α : Type} (read : MetadataReader α) (metadata : List Byte) :
    Except DecodeFault (Option (Option α)) :=
  if metadata.length > 0 then do
    let value ← finish read metadata
    return value.map some
  else .ok (some none)

/-- `MetadataValue<HEADER, T>::decode` -/
def ValueType.decode (room : VectorRoom) (header : MetadataReader Unit) :
    (type : ValueType) → List Byte → Except DecodeFault (Option type.Value)
  | uint64 => value do
      header
      readInt 64 8
  | uint32 => value do
      header
      readInt 32 4
  -- the variable that is read into has no value before, and is used only if it was read
  | enum64 => finish do
      header
      read 8 0
  | enum32 => finish do
      header
      read 4 0
  | string => finish do
      header
      MetadataReader.readString
  | extendable => value do
      header
      readExtendable
  | planeLayouts => finish do
      header
      readVector room 88 (readPlaneLayout room)
  | rects => finish do
      header
      readVector room 16 readRect
  | optionalSmpte2086 => decodeIfAny do
      header
      MetadataReader.readSmpte2086
  | optionalCta861_3 => decodeIfAny do
      header
      MetadataReader.readCta861_3
  | optionalBytes => decodeIfAny do
      header
      readBuffer

/-- `StandardMetadata<T>::value::decode` -/
def decode (room : VectorRoom) (type : StandardMetadataType) (metadata : List Byte) :
    Except DecodeFault (Option type.valueType.Value) :=
  type.valueType.decode room (MetadataReader.checkHeader type) metadata

/-! ## Strings of bytes -/

/-- A string whose characters are bytes, as those of a `std::string` are. -/
def IsBytes (text : String) : Prop :=
  (∀ char ∈ text.toList, char.toNat < 256) ∧ text.toList.length < 2 ^ 64

theorem stringBytes_length (text : String) : (stringBytes text).length = text.toList.length :=
  List.length_map ..

theorem charOfByte_toNat (byte : Byte) : (Char.ofNat byte.toNat).toNat = byte.toNat := by
  have small : byte.toNat < 256 := byte.isLt
  have valid : byte.toNat.isValidChar := .inl (by omega)
  unfold Char.ofNat
  rw [dif_pos valid]
  rfl

theorem stringBytes_bytesString (bytes : List Byte) : stringBytes (bytesString bytes) = bytes := by
  have same (byte : Byte) : BitVec.ofNat 8 (Char.ofNat byte.toNat).toNat = byte := by
    rw [charOfByte_toNat, BitVec.ofNat_toNat, BitVec.setWidth_eq]
  unfold stringBytes bytesString
  rw [String.toList_ofList, List.map_map]
  exact (List.map_congr_left fun byte _ => same byte).trans (List.map_id' bytes)

theorem bytesString_stringBytes {text : String} (h : IsBytes text) :
    bytesString (stringBytes text) = text := by
  have same (char : Char) (small : char.toNat < 256) :
      Char.ofNat (BitVec.ofNat 8 char.toNat).toNat = char := by
    rw [BitVec.toNat_ofNat, Nat.mod_eq_of_lt small, Char.ofNat_toNat]
  unfold stringBytes bytesString
  rw [List.map_map]
  exact (congrArg String.ofList ((List.map_congr_left fun char hmem =>
    same char (h.1 char hmem)).trans (List.map_id' _))).trans String.ofList_toList

theorem isBytes_bytesString {bytes : List Byte} (short : bytes.length < 2 ^ 64) :
    IsBytes (bytesString bytes) := by
  unfold IsBytes bytesString
  rw [String.toList_ofList, List.length_map]
  refine ⟨fun char hmem => ?_, short⟩
  obtain ⟨byte, -, rfl⟩ := List.mem_map.mp hmem
  rw [charOfByte_toNat]
  exact byte.isLt

theorem isBytes_of_short {text : String}
    (bytes : text.toList.all (fun char => char.toNat < 256) = true)
    (short : text.toList.length ≤ 256) : IsBytes text := by
  refine ⟨fun char hmem => ?_, by omega⟩
  exact of_decide_eq_true (List.all_eq_true.mp bytes char hmem)

theorem standardMetadataName_isBytes : IsBytes standardMetadataName :=
  isBytes_of_short (by decide) (by decide)

end GrallocGbmMesa.Mapper
