import GrallocGbmMesa.Lib.ByteStream
import GrallocGbmMesa.Lib.Checked
import GrallocGbmMesa.Platform.Process

/-!
# Standard metadata and its stream format

The types of standard metadata, their values, and the encoding the dispatch
header gives each of them: the name of the metadata type, its number, then the
fields of the value.  Floats are the 32 bits that hold them.
-/

namespace GrallocGbmMesa.Mapper

open ByteStream
open GrallocGbmMesa.Platform

/-- `AIMapper_Error` -/
inductive AIMapperError where
  | none
  | badDescriptor
  | badBuffer
  | badValue
  | noResources
  | unsupported
  deriving DecidableEq, Repr

def AIMapperError.code : AIMapperError → Int
  | none => 0
  | badDescriptor => 1
  | badBuffer => 2
  | badValue => 3
  | noResources => 5
  | unsupported => 7

theorem AIMapperError.code_injective {first second : AIMapperError}
    (h : first.code = second.code) : first = second := by
  cases first <;> cases second <;> first | rfl | exact absurd h (by decide)

theorem AIMapperError.code_nonneg (error : AIMapperError) : 0 ≤ error.code := by
  cases error <;> decide

theorem AIMapperError.code_pos {error : AIMapperError} (failed : error ≠ .none) :
    0 < error.code := by
  cases error with
  | none => exact absurd rfl failed
  | _ => decide

/-! ## Types and values -/

inductive StandardMetadataType where
  | invalid
  | bufferId
  | name
  | width
  | height
  | layerCount
  | pixelFormatRequested
  | pixelFormatFourcc
  | pixelFormatModifier
  | usage
  | allocationSize
  | protectedContent
  | compression
  | interlaced
  | chromaSiting
  | planeLayouts
  | crop
  | dataspace
  | blendMode
  | smpte2086
  | cta861_3
  | smpte2094_40
  | smpte2094_10
  | stride
  deriving DecidableEq, Repr

namespace StandardMetadataType

/-- `ndk::internal::enum_values`: each type at the index that is its value. -/
def enumValues : List StandardMetadataType :=
  [invalid, bufferId, name, width, height, layerCount, pixelFormatRequested, pixelFormatFourcc,
    pixelFormatModifier, usage, allocationSize, protectedContent, compression, interlaced,
    chromaSiting, planeLayouts, crop, dataspace, blendMode, smpte2086, cta861_3, smpte2094_40,
    smpte2094_10, stride]

def value (type : StandardMetadataType) : BitVec 64 := BitVec.ofNat 64 (enumValues.idxOf type)

/-- The enumerator with a value; the index is taken as a `size_t`. -/
def ofValue (value : BitVec 64) : Option StandardMetadataType := enumValues[value.toNat]?

theorem ofValue_value (type : StandardMetadataType) : ofValue type.value = some type := by
  cases type <;> rfl

/-- `StandardMetadataType` has equivalent value to index. -/
theorem value_get (index : Fin enumValues.length) :
    (enumValues.get index).value = BitVec.ofNat 64 index.val := by
  revert index
  decide

theorem ofValue_eq_some {value : BitVec 64} {type : StandardMetadataType} :
    ofValue value = some type ↔ value = type.value := by
  constructor
  · intro h
    obtain ⟨inside, same⟩ := List.getElem?_eq_some_iff.mp h
    have here := value_get ⟨value.toNat, inside⟩
    rw [BitVec.ofNat_toNat, BitVec.setWidth_eq] at here
    rw [← same]
    exact here.symm
  · rintro rfl
    exact ofValue_value type

end StandardMetadataType

structure XyColor where
  x : Word
  y : Word
  deriving DecidableEq, Repr

structure Smpte2086 where
  primaryRed : XyColor
  primaryGreen : XyColor
  primaryBlue : XyColor
  whitePoint : XyColor
  maxLuminance : Word
  minLuminance : Word
  deriving DecidableEq, Repr

structure Cta861_3 where
  maxContentLightLevel : Word
  maxFrameAverageLightLevel : Word
  deriving DecidableEq, Repr

structure ExtendableType where
  name : String
  value : BitVec 64
  deriving DecidableEq, Repr

structure PlaneLayoutComponent where
  type : ExtendableType
  offsetInBits : BitVec 64
  sizeInBits : BitVec 64
  deriving DecidableEq, Repr

structure PlaneLayout where
  components : List PlaneLayoutComponent
  offsetInBytes : BitVec 64 := 0
  sampleIncrementInBits : BitVec 64
  strideInBytes : BitVec 64 := 0
  widthInSamples : BitVec 64 := 0
  heightInSamples : BitVec 64 := 0
  totalSizeInBytes : BitVec 64 := 0
  horizontalSubsampling : BitVec 64
  verticalSubsampling : BitVec 64
  deriving DecidableEq, Repr

structure Rect where
  left : Word
  top : Word
  right : Word
  bottom : Word
  deriving DecidableEq, Repr

/-- The `value_type` of a metadata type; an enumeration goes by its underlying type. -/
inductive ValueType where
  | uint64
  | uint32
  | enum64
  | enum32
  | string
  | extendable
  | planeLayouts
  | rects
  | optionalSmpte2086
  | optionalCta861_3
  | optionalBytes
  deriving DecidableEq, Repr

abbrev ValueType.Value : ValueType → Type
  | uint64 | enum64 => BitVec 64
  | uint32 | enum32 => Word
  | string => String
  | extendable => ExtendableType
  | planeLayouts => List PlaneLayout
  | rects => List Rect
  | optionalSmpte2086 => Option Smpte2086
  | optionalCta861_3 => Option Cta861_3
  | optionalBytes => Option (List Byte)

/-- The lines `DEFINE_TYPE(typeName, typeArg)`. -/
def StandardMetadataType.valueType : StandardMetadataType → ValueType
  | .invalid | .bufferId | .width | .height | .layerCount | .pixelFormatModifier
  | .allocationSize | .protectedContent => .uint64
  | .name => .string
  | .pixelFormatRequested | .dataspace | .blendMode => .enum32
  | .pixelFormatFourcc | .stride => .uint32
  | .usage => .enum64
  | .compression | .interlaced | .chromaSiting => .extendable
  | .planeLayouts => .planeLayouts
  | .crop => .rects
  | .smpte2086 => .optionalSmpte2086
  | .cta861_3 => .optionalCta861_3
  | .smpte2094_10 | .smpte2094_40 => .optionalBytes

/-! ## Encoding -/

def standardMetadataName : String := "android.hardware.graphics.common.StandardMetadataType"

def stringBytes (text : String) : List Byte := text.toList.map fun char => BitVec.ofNat 8 char.toNat

/-- The pieces that `write` puts out for each kind of field. -/
def writeInt64 (value : BitVec 64) : List (List Byte) := [littleEndian 8 value]
def writeInt32 (value : Word) : List (List Byte) := [littleEndian 4 value]
def writeSize (size : Nat) : List (List Byte) := writeInt64 (BitVec.ofNat 64 size)
def writeBytes (bytes : List Byte) : List (List Byte) := writeSize bytes.length ++ [bytes]
def writeString (text : String) : List (List Byte) := writeBytes (stringBytes text)
def writeExtendable (value : ExtendableType) : List (List Byte) :=
  writeString value.name ++ writeInt64 value.value
def writeXyColor (value : XyColor) : List (List Byte) := writeInt32 value.x ++ writeInt32 value.y

def writeSmpte2086 (value : Smpte2086) : List (List Byte) :=
  writeXyColor value.primaryRed ++ writeXyColor value.primaryGreen ++
    writeXyColor value.primaryBlue ++ writeXyColor value.whitePoint ++
    writeInt32 value.maxLuminance ++ writeInt32 value.minLuminance

def writeCta861_3 (value : Cta861_3) : List (List Byte) :=
  writeInt32 value.maxContentLightLevel ++ writeInt32 value.maxFrameAverageLightLevel

def writeComponent (component : PlaneLayoutComponent) : List (List Byte) :=
  writeExtendable component.type ++ writeInt64 component.offsetInBits ++
    writeInt64 component.sizeInBits

def writePlaneLayout (layout : PlaneLayout) : List (List Byte) :=
  writeSize layout.components.length ++ layout.components.flatMap writeComponent ++
    writeInt64 layout.offsetInBytes ++ writeInt64 layout.sampleIncrementInBits ++
    writeInt64 layout.strideInBytes ++ writeInt64 layout.widthInSamples ++
    writeInt64 layout.heightInSamples ++ writeInt64 layout.totalSizeInBytes ++
    writeInt64 layout.horizontalSubsampling ++ writeInt64 layout.verticalSubsampling

def writeRect (rect : Rect) : List (List Byte) :=
  writeInt32 rect.left ++ writeInt32 rect.top ++ writeInt32 rect.right ++ writeInt32 rect.bottom

/-- The payload of a value; an absent optional has none. -/
def ValueType.payload : (type : ValueType) → type.Value → Option (List (List Byte))
  | uint64, value | enum64, value => some (writeInt64 value)
  | uint32, value | enum32, value => some (writeInt32 value)
  | string, value => some (writeString value)
  | extendable, value => some (writeExtendable value)
  | planeLayouts, value => some (writeSize value.length ++ value.flatMap writePlaneLayout)
  | rects, value => some (writeSize value.length ++ value.flatMap writeRect)
  | optionalSmpte2086, value => value.map writeSmpte2086
  | optionalCta861_3, value => value.map writeCta861_3
  | optionalBytes, value => value.map writeBytes

def writeHeader (type : StandardMetadataType) : List (List Byte) :=
  writeString standardMetadataName ++ writeInt64 type.value

/-- `StandardMetadata<T>::value::encode`: the size it returns and the bytes it
leaves in a buffer of `destSize` bytes. -/
def encode (type : StandardMetadataType) (value : type.valueType.Value) (destSize : Nat) :
    Int × List Byte :=
  match type.valueType.payload value with
  | none => (0, [])
  | some payload =>
      let writer := Writer.putAll intMax (-AIMapperError.badValue.code)
        { output := [], room := destSize, desired := 0 } (writeHeader type ++ payload)
      (writer.desired, writer.output)

/-- The whole encoding of a value. -/
def encoding (type : StandardMetadataType) (value : type.valueType.Value) : List Byte :=
  match type.valueType.payload value with
  | none => []
  | some payload => (writeHeader type ++ payload).flatten

theorem writeHeader_length (type : StandardMetadataType) :
    (writeHeader type).flatten.length = 69 := by
  have name : (stringBytes standardMetadataName).length = 53 := by decide
  simp [writeHeader, writeString, writeBytes, writeSize, writeInt64, name]

/-- A present value is encoded under its header. -/
theorem encoding_length {type : StandardMetadataType} {value : type.valueType.Value}
    {payload : List (List Byte)} (h : type.valueType.payload value = some payload) :
    (encoding type value).length = 69 + payload.flatten.length := by
  unfold encoding
  rw [h]
  simp only [List.flatten_append, List.length_append, writeHeader_length]

/-- An encoding that fits an `int32_t` has its length returned. -/
theorem encode_desired {type : StandardMetadataType} {value : type.valueType.Value}
    (fits : (encoding type value).length ≤ intMax) (destSize : Nat) :
    (encode type value destSize).1 = (encoding type value).length := by
  unfold encoding at fits ⊢
  unfold encode
  cases hpayload : type.valueType.payload value with
  | none => rfl
  | some payload =>
      simp only [hpayload] at fits ⊢
      rw [Writer.putAll_desired (Int.le_refl 0) (by rwa [Int.zero_add]), Int.zero_add]

/-- A buffer that is large enough receives the whole encoding. -/
theorem encode_output {type : StandardMetadataType} {value : type.valueType.Value}
    {destSize : Nat} (fits : (encoding type value).length ≤ intMax)
    (enough : (encoding type value).length ≤ destSize) :
    (encode type value destSize).2 = encoding type value := by
  unfold encoding at fits enough ⊢
  unfold encode
  cases hpayload : type.valueType.payload value with
  | none => rfl
  | some payload =>
      simp only [hpayload] at fits enough ⊢
      rw [Writer.putAll_output (Int.le_refl 0) (by rwa [Int.zero_add]) enough, List.nil_append]

end GrallocGbmMesa.Mapper