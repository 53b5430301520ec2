import GrallocGbmMesa.Mapper.MetadataReader

/-!
# The format of standard metadata

Every type of metadata has one encoding for each value, `decode` takes these and nothing else,
and `encode` puts out as much of them as its buffer takes.
-/

namespace GrallocGbmMesa.Mapper

open ByteStream Scanner MetadataReader
open GrallocGbmMesa.Platform

/-! ## What the readers take -/

theorem parses_read {w count : ℕ} (whole : 8 * count = w) (dest : BitVec w) :
    Parses (read count dest) (fun _ => True) (fun value => [littleEndian count value]) := by
  refine (Parses.bind_of some (Parses.word whole) (fun _ _ => .pure _) (fun _ => .pure _)
    ?_).congr ?_ ?_
  · rintro (_ | value) _ present rfl
    · cases present
    · rfl
  · exact fun value => ⟨fun _ => trivial, fun _ => ⟨rfl, rfl⟩⟩
  · exact fun value _ => rfl

/-- The characters of a string, behind their number. -/
theorem parses_characters (length : BitVec 64) :
    Parses (do
        match ← advance length.toNat with
        | some src => return bytesString src
        | none => return "" : MetadataReader String)
      (fun text => IsBytes text ∧ some (BitVec.ofNat 64 (stringBytes text).length) = some length)
      (fun text => [stringBytes text]) := by
  have made : ∀ src : Option (List Byte),
      (∃ bytes, src = some bytes ∧ bytes.length = length.toNat) →
      Parses (match src with
          | some src => pure (bytesString src)
          | none => pure "" : MetadataReader String)
        (fun text => some text = src.map bytesString) (fun _ => []) := by
    rintro _ ⟨src, rfl, -⟩
    exact (Parses.pure _).congr (fun text => by simp) fun _ _ => rfl
  refine (Parses.bind_of (fun text => some (stringBytes text)) (.advance length.toNat) made
    (fun src => ?_) ?_).congr ?_ fun text _ => rfl
  · cases src with
    | none => exact Sticky.pure _
    | some src => exact Sticky.pure _
  · rintro _ text ⟨src, rfl, -⟩ made
    cases made
    exact congrArg some (stringBytes_bytesString src)
  · intro text
    constructor
    · rintro ⟨⟨src, taken, counted⟩, made⟩
      cases taken
      have same : text = bytesString (stringBytes text) := Option.some.inj made
      refine ⟨?_, by rw [counted, BitVec.ofNat_toNat, BitVec.setWidth_eq]⟩
      rw [same]
      exact isBytes_bytesString (by rw [counted]; exact length.isLt)
    · rintro ⟨bytes, counted⟩
      cases counted
      refine ⟨⟨_, rfl, ?_⟩, congrArg some (bytesString_stringBytes bytes).symm⟩
      rw [BitVec.toNat_ofNat, Nat.mod_eq_of_lt (by rw [stringBytes_length]; exact bytes.2)]

theorem parses_charactersOf : ∀ length : Option (BitVec 64), length.isSome = true →
    Parses (match length with
        | none => pure ""
        | some length => do
            match ← advance length.toNat with
            | some src => return bytesString src
            | none => return "" : MetadataReader String)
      (fun text => IsBytes text ∧ some (BitVec.ofNat 64 (stringBytes text).length) = length)
      (fun text => [stringBytes text]) := by
  rintro (_ | length) present
  · cases present
  · exact parses_characters length

theorem parses_readString : Parses MetadataReader.readString IsBytes writeString := by
  refine (Parses.bind_of (fun text => some (BitVec.ofNat 64 (stringBytes text).length))
    (Parses.word rfl) parses_charactersOf (fun length => ?_) fun _ _ _ h => h.2).congr
    ?_ ?_
  · cases length with
    | none => exact Sticky.pure _
    | some length => exact (parses_characters length).sticky
  · exact fun text => ⟨fun h => h.2.1, fun h => ⟨rfl, h, rfl⟩⟩
  · exact fun text _ => rfl

theorem parses_header (type : StandardMetadataType) :
    Parses (MetadataReader.checkHeader type) (fun _ => True) (fun _ => writeHeader type) := by
  refine (Parses.bind (fun _ => standardMetadataName) parses_readString (fun name =>
    Parses.bind (fun _ => ()) (.require (standardMetadataName = name)) (fun _ =>
      Parses.bind (fun _ => some type.value) (Parses.word rfl) (fun value =>
        .require (value = some type.value)) fun _ _ h => h.symm) fun _ _ _ => rfl)
    fun _ _ h => h.1).congr ?_ ?_
  · exact fun _ => ⟨fun _ => trivial, fun _ => ⟨standardMetadataName_isBytes, rfl, rfl, rfl⟩⟩
  · intro _ _
    simp [writeHeader, writeInt64]

theorem parses_readBuffer :
    Parses readBuffer (fun bytes => bytes.length < 2 ^ 64) writeBytes := by
  have taken : ∀ length : BitVec 64,
      Parses (do
          match ← advance length.toNat with
          | some src => return src
          | none => return [] : MetadataReader (List Byte))
        (fun bytes => bytes.length = length.toNat) (fun bytes => [bytes]) := by
    intro length
    have made : ∀ src : Option (List Byte),
        (∃ bytes, src = some bytes ∧ bytes.length = length.toNat) →
        Parses (match src with
            | some src => pure src
            | none => pure [] : MetadataReader (List Byte))
          (fun bytes => some bytes = src) (fun _ => []) := by
      rintro _ ⟨src, rfl, -⟩
      exact (Parses.pure _).congr (fun bytes => by simp) fun _ _ => rfl
    refine (Parses.bind_of some (.advance length.toNat) made (fun src => ?_)
      fun _ _ _ h => h).congr ?_ fun bytes _ => rfl
    · cases src with
      | none => exact Sticky.pure _
      | some src => exact Sticky.pure _
    · intro bytes
      simp
  refine (Parses.bind_of (fun bytes => some (BitVec.ofNat 64 bytes.length)) (Parses.word rfl)
    (fun length _ => taken (length.getD 0)) (fun length => (taken (length.getD 0)).sticky)
    ?_).congr ?_ fun bytes _ => rfl
  · rintro (_ | length) bytes present counted
    · cases present
    · rw [counted]
      simp
  · intro bytes
    simp only [Option.isSome_some, true_and, Option.getD_some, BitVec.toNat_ofNat]
    omega

theorem parses_readVector {α : Type} {room : VectorRoom} {size : ℕ} (positive : 0 < size)
    {element : MetadataReader α} {valid : α → Prop} {write : α → List (List Byte)}
    (h : Parses element valid write) :
    Parses (readVector room size element)
      (fun values => values.length * size ≤ room.bytes ∧ (values.length : Int) ≤ intMax ∧
        ∀ value ∈ values, valid value)
      (fun values => writeSize values.length ++ values.flatMap write) := by
  have loop (num : BitVec 64) :
      Parses (if num.toNat * size ≤ room.bytes then
          each .signedOverflow intMax.toNat element num.toInt.toNat 0
        else fault .uncaughtException)
        (fun values => (values.length * size ≤ room.bytes ∧ (values.length : Int) ≤ intMax ∧
          ∀ value ∈ values, valid value) ∧ values.length = num.toNat)
        (fun values => values.flatMap write) := by
    by_cases enough : num.toNat * size ≤ room.bytes
    · have small : num.toNat < 2 ^ 63 :=
        Nat.lt_of_le_of_lt (Nat.le_trans (Nat.le_mul_of_pos_right _ positive) enough) room.small
      have counted : num.toInt.toNat = num.toNat := by
        rw [BitVec.toInt_eq_toNat_of_lt (by omega), Int.toNat_natCast]
      rw [if_pos enough, counted]
      refine (Parses.each h num.toNat 0 (Nat.zero_le _)).congr (fun values => ?_) fun _ _ => rfl
      have limit : (intMax.toNat : Int) = intMax := rfl
      constructor
      · rintro ⟨same, all, below⟩
        rw [same]
        exact ⟨⟨enough, by omega, all⟩, rfl⟩
      · rintro ⟨⟨-, below, all⟩, same⟩
        exact ⟨same, all, by omega⟩
    · rw [if_neg enough]
      refine (Parses.fault _ _).congr (fun values => ⟨False.elim, ?_⟩) fun _ _ => rfl
      rintro ⟨⟨fits, -⟩, same⟩
      exact enough (same ▸ fits)
  refine (Parses.bind_of (fun values => some (BitVec.ofNat 64 values.length)) (Parses.word rfl)
    (fun num _ => loop (num.getD 0)) (fun num => (loop (num.getD 0)).sticky) ?_).congr ?_
    fun values _ => rfl
  · rintro (_ | num) values present ⟨-, counted⟩
    · cases present
    · rw [counted]
      simp
  · intro values
    simp only [Option.isSome_some, true_and, Option.getD_some, BitVec.toNat_ofNat]
    refine ⟨fun h => h.1, fun h => ⟨h, ?_⟩⟩
    have limit : intMax = 2147483647 := rfl
    have below := h.2.1
    omega

/-! ## Records -/

theorem parses_readXyColor : Parses MetadataReader.readXyColor (fun _ => True) writeXyColor := by
  refine (Parses.field (E := fun _ => True) XyColor.x (parses_read rfl 0) fun x =>
    Parses.field XyColor.y (parses_read rfl 0) fun y => .record fun color => ?_).congr ?_ ?_
  · cases color
    simp
  · simp
  · exact fun color _ => rfl

theorem parses_readInto :
    Parses (readInto ⟨"", 0⟩) (fun value => IsBytes value.name) writeExtendable := by
  refine (Parses.field (E := fun _ => True) ExtendableType.name parses_readString fun name =>
    Parses.field ExtendableType.value (parses_read rfl 0) fun value =>
      .record fun type => ?_).congr ?_ ?_
  · cases type
    simp
  · simp
  · intro type _
    rfl

theorem parses_valueOf (name : String) : ∀ value : Option (BitVec 64), value.isSome = true →
    Parses (match value with
        | some value => pure (some { name, value })
        | none => pure none : MetadataReader (Option ExtendableType))
      (fun read => read = value.map fun value => ⟨name, value⟩) (fun _ => []) := by
  rintro (_ | value) present
  · cases present
  · exact .pure _

theorem parses_named (name : String) :
    Parses (do
        match ← readInt 64 8 with
        | some value => return some { name, value }
        | none => return none : MetadataReader (Option ExtendableType))
      (fun read => ∃ value, read = some ⟨name, value⟩)
      (fun read => (read.map fun type => littleEndian 8 type.value).toList) := by
  refine (Parses.bind_of (fun read => read.map ExtendableType.value) (Parses.word rfl)
    (parses_valueOf name) (fun value => ?_) ?_).congr ?_ ?_
  · cases value with
    | none => exact Sticky.pure _
    | some value => exact Sticky.pure _
  · rintro (_ | value) _ present rfl
    · cases present
    · rfl
  · rintro (_ | type)
    · simp
    · cases type
      simp [and_comm, eq_comm]
  · rintro (_ | type) _
    · rfl
    · rfl

theorem parses_readExtendable :
    Parses readExtendable (fun read => ∃ type, read = some type ∧ IsBytes type.name)
      (fun read => (read.map writeExtendable).getD []) := by
  refine (Parses.bind (fun read => (read.map ExtendableType.name).getD "") parses_readString
    parses_named ?_).congr ?_ ?_
  · rintro name _ ⟨value, rfl⟩
    rfl
  · rintro (_ | type)
    · simp
    · cases type
      simp
  · rintro (_ | type) present
    · obtain ⟨-, _, none⟩ := present
      cases none
    · rfl

theorem tells_readExtendable : Tells readExtendable := by
  refine .bind fun name => .bind_pure (.word 64 8) fun value => ?_
  cases value with
  | none => exact ⟨_, rfl, rfl⟩
  | some value => exact ⟨_, rfl, rfl⟩

theorem parses_readComponent :
    Parses readComponent (fun component => IsBytes component.type.name) writeComponent := by
  refine (Parses.field (E := fun _ => True) PlaneLayoutComponent.type parses_readInto fun type =>
    Parses.field PlaneLayoutComponent.offsetInBits (parses_read rfl 0) fun offset =>
      Parses.field PlaneLayoutComponent.sizeInBits (parses_read rfl 0) fun size =>
        .record fun component => ?_).congr ?_ ?_
  · cases component
    simp [and_assoc]
  · simp
  · intro component _
    simp [writeComponent, writeInt64]

/-- A vector of plane layouts or of components that the heap has room for. -/
def PlaneFits (room : VectorRoom) (layout : PlaneLayout) : Prop :=
  layout.components.length * 48 ≤ room.bytes ∧ (layout.components.length : Int) ≤ intMax ∧
    ∀ component ∈ layout.components, IsBytes component.type.name

theorem parses_readPlaneLayout (room : VectorRoom) :
    Parses (readPlaneLayout room) (PlaneFits room) writePlaneLayout := by
  refine (Parses.field (E := fun _ => True) PlaneLayout.components
    (parses_readVector (by decide) parses_readComponent) fun components =>
    Parses.field PlaneLayout.offsetInBytes (parses_read rfl 0) fun offset =>
    Parses.field PlaneLayout.sampleIncrementInBits (parses_read rfl 0) fun increment =>
    Parses.field PlaneLayout.strideInBytes (parses_read rfl 0) fun stride =>
    Parses.field PlaneLayout.widthInSamples (parses_read rfl 0) fun width =>
    Parses.field PlaneLayout.heightInSamples (parses_read rfl 0) fun height =>
    Parses.field PlaneLayout.totalSizeInBytes (parses_read rfl 0) fun total =>
    Parses.field PlaneLayout.horizontalSubsampling (parses_read rfl 0) fun horizontal =>
    Parses.field PlaneLayout.verticalSubsampling (parses_read rfl 0) fun vertical =>
      .record fun layout => ?_).congr ?_ ?_
  · cases layout
    simp [and_assoc]
  · simp [PlaneFits]
  · intro layout _
    simp [writePlaneLayout, writeInt64]

theorem parses_readRect : Parses readRect (fun _ => True) writeRect := by
  refine (Parses.field (E := fun _ => True) Rect.left (parses_read rfl 0) fun left =>
    Parses.field Rect.top (parses_read rfl 0) fun top =>
    Parses.field Rect.right (parses_read rfl 0) fun right =>
    Parses.field Rect.bottom (parses_read rfl 0) fun bottom =>
      .record fun rect => ?_).congr ?_ ?_
  · cases rect
    simp [and_assoc]
  · simp
  · exact fun rect _ => rfl

theorem parses_readSmpte2086 :
    Parses MetadataReader.readSmpte2086 (fun _ => True) writeSmpte2086 := by
  refine (Parses.field (E := fun _ => True) Smpte2086.primaryRed parses_readXyColor fun red =>
    Parses.field Smpte2086.primaryGreen parses_readXyColor fun green =>
    Parses.field Smpte2086.primaryBlue parses_readXyColor fun blue =>
    Parses.field Smpte2086.whitePoint parses_readXyColor fun white =>
    Parses.field Smpte2086.maxLuminance (parses_read rfl 0) fun maximum =>
    Parses.field Smpte2086.minLuminance (parses_read rfl 0) fun minimum =>
      .record fun value => ?_).congr ?_ ?_
  · cases value
    simp [and_assoc]
  · simp
  · exact fun value _ => rfl

theorem parses_readCta861_3 :
    Parses MetadataReader.readCta861_3 (fun _ => True) writeCta861_3 := by
  refine (Parses.field (E := fun _ => True) Cta861_3.maxContentLightLevel (parses_read rfl 0)
    fun content => Parses.field Cta861_3.maxFrameAverageLightLevel (parses_read rfl 0)
    fun average => .record fun value => ?_).congr ?_ ?_
  · cases value
    simp
  · simp
  · exact fun value _ => rfl

/-! ## Exactly the encodings -/

/-- A value that a client with this much room can be given. -/
def Decodable (room : VectorRoom) : (type : ValueType) → type.Value → Prop
  | .string, text => IsBytes text
  | .extendable, value => IsBytes value.name
  | .planeLayouts, layouts =>
      layouts.length * 88 ≤ room.bytes ∧ (layouts.length : Int) ≤ intMax ∧
        ∀ layout ∈ layouts, PlaneFits room layout
  | .rects, rects => rects.length * 16 ≤ room.bytes ∧ (rects.length : Int) ≤ intMax
  | .optionalBytes, bytes => ∀ present ∈ bytes, present.length < 2 ^ 64
  | .uint64, _ | .uint32, _ | .enum64, _ | .enum32, _ => True
  | .optionalSmpte2086, _ | .optionalCta861_3, _ => True

/-- What stands first is the encoding of a value; an absent value leaves nothing at all. -/
def Encoded (type : StandardMetadataType) (value : type.valueType.Value)
    (metadata : List Byte) : Prop :=
  match type.valueType.payload value with
  | none => metadata = []
  | some _ => encoding type value <+: metadata

section

variable {α : Type} {header : MetadataReader Unit} {head : List (List Byte)}
  {body : MetadataReader α} {valid : α → Prop} {write : α → List (List Byte)}

theorem parses_headed (hheader : Parses header (fun _ => True) (fun _ => head))
    (hbody : Parses body valid write) :
    Parses (do header; body) valid (fun value => head ++ write value) :=
  (Parses.bind (fun _ => ()) hheader (fun _ => hbody) fun _ _ _ => rfl).congr
    (fun _ => by rw [true_and]) fun _ _ => rfl

theorem decodeIfAny_eq_some (h : Parses body valid write)
    (bytes : ∀ value, (write value).flatten ≠ []) {metadata : List Byte}
    {value : Option α} : decodeIfAny body metadata = .ok (some value) ↔
      match value with
      | none => metadata = []
      | some value => valid value ∧ (write value).flatten <+: metadata := by
  unfold decodeIfAny
  by_cases any : metadata.length > 0
  · have nonempty : metadata ≠ [] := List.length_pos_iff.mp any
    rw [if_pos any, Checked.bind_eq_ok]
    cases value with
    | none => simp [nonempty]
    | some value =>
        refine Iff.trans ?_ h.finish_eq_some
        constructor
        · rintro ⟨_ | found, here, there⟩
          · cases there
          · cases there
            exact here
        · exact fun here => ⟨_, here, rfl⟩
  · obtain rfl : metadata = [] := List.length_eq_zero_iff.mp (Nat.eq_zero_of_not_pos any)
    rw [if_neg any]
    cases value with
    | none => simp
    | some value => simp [bytes value]

/-- What `decode` takes behind a header is the payload of the value. -/
theorem ValueType.decode_iff {room : VectorRoom}
    (hheader : Parses header (fun _ => True) (fun _ => head)) (some_head : head.flatten ≠ [])
    (type : ValueType) {metadata : List Byte} {value : type.Value} :
    type.decode room header metadata = .ok (some value) ↔ Decodable room type value ∧
      match type.payload value with
      | none => metadata = []
      | some payload => (head ++ payload).flatten <+: metadata := by
  have bytes {α : Type} (write : α → List (List Byte)) (value : α) :
      (head ++ write value).flatten ≠ [] := by
    rw [List.flatten_append]
    exact fun none => some_head (List.append_eq_nil_iff.mp none).1
  cases type with
  | uint64 =>
      refine ((parses_headed hheader (.word rfl)).value_eq_some (.bind fun _ => .word _ _)).trans ?_
      exact and_congr_left fun _ => ⟨fun _ => trivial, fun _ => rfl⟩
  | uint32 =>
      refine ((parses_headed hheader (.word rfl)).value_eq_some (.bind fun _ => .word _ _)).trans ?_
      exact and_congr_left fun _ => ⟨fun _ => trivial, fun _ => rfl⟩
  | enum64 => exact (parses_headed hheader (parses_read rfl 0)).finish_eq_some
  | enum32 => exact (parses_headed hheader (parses_read rfl 0)).finish_eq_some
  | string => exact (parses_headed hheader parses_readString).finish_eq_some
  | extendable =>
      refine ((parses_headed hheader parses_readExtendable).value_eq_some
        (.bind fun _ => tells_readExtendable)).trans ?_
      refine and_congr_left fun _ => ⟨?_, fun valid => ⟨value, rfl, valid⟩⟩
      rintro ⟨_, ⟨⟩, valid⟩
      exact valid
  | planeLayouts =>
      exact (parses_headed hheader
        (parses_readVector (by decide) (parses_readPlaneLayout room))).finish_eq_some
  | rects =>
      refine (parses_headed hheader
        (parses_readVector (by decide) parses_readRect)).finish_eq_some.trans ?_
      simp [Decodable, payload]
  | optionalSmpte2086 =>
      refine (decodeIfAny_eq_some (parses_headed hheader parses_readSmpte2086) (bytes _)).trans ?_
      cases value with
      | none => simp [Decodable, payload]
      | some value => simp [Decodable, payload]
  | optionalCta861_3 =>
      refine (decodeIfAny_eq_some (parses_headed hheader parses_readCta861_3) (bytes _)).trans ?_
      cases value with
      | none => simp [Decodable, payload]
      | some value => simp [Decodable, payload]
  | optionalBytes =>
      refine (decodeIfAny_eq_some (parses_headed hheader parses_readBuffer) (bytes _)).trans ?_
      cases value with
      | none => simp [Decodable, payload]
      | some value => simp [Decodable, payload]

end

/-- A value is decoded exactly from its encoding, with anything behind it. -/
theorem decode_iff {room : VectorRoom} {type : StandardMetadataType} {metadata : List Byte}
    {value : type.valueType.Value} : decode room type metadata = .ok (some value) ↔
      Decodable room type.valueType value ∧ Encoded type value metadata := by
  have some_head : (writeHeader type).flatten ≠ [] := by
    intro none
    have length := writeHeader_length type
    rw [none] at length
    cases length
  unfold decode
  rw [ValueType.decode_iff (parses_header type) some_head]
  unfold Encoded encoding
  cases type.valueType.payload value with
  | none => rfl
  | some payload => rfl

/-! ## Buffers of any size -/

/-- The size that is returned does not depend on the buffer, and what is left in the buffer is the
beginning of the encoding. -/
theorem encode_eq (type : StandardMetadataType) (value : type.valueType.Value) (destSize : ℕ) :
    (encode type value destSize).1 =
      (if ((encoding type value).length : Int) ≤ intMax then ((encoding type value).length : Int)
        else -AIMapperError.badValue.code) ∧
    (encode type value destSize).2 <+: encoding type value ∧
    (encode type value destSize).2.length ≤ destSize := by
  refine ⟨?_, ?_⟩
  · by_cases fits : ((encoding type value).length : Int) ≤ intMax
    · rw [if_pos fits]
      exact encode_desired fits destSize
    · rw [if_neg fits]
      unfold encoding at fits
      unfold encode
      cases hpayload : type.valueType.payload value with
      | none =>
          rw [hpayload] at fits
          exact absurd (show (0 : Int) ≤ intMax by decide) fits
      | some payload =>
          simp only [hpayload] at fits ⊢
          exact Writer.putAll_overflow (by decide) (Int.le_refl 0)
            (show (0 : Int) ≤ intMax by decide) (by simpa using fits)
  · unfold encoding encode
    cases type.valueType.payload value with
    | none => exact ⟨List.nil_prefix, Nat.zero_le _⟩
    | some payload =>
        obtain ⟨written, same, first, short⟩ := @Writer.putAll_prefix intMax
          (-AIMapperError.badValue.code) { output := [], room := destSize, desired := 0 }
          (writeHeader type ++ payload)
        rw [List.nil_append] at same
        rw [← same] at first short
        exact ⟨first, short⟩

/-- The encoding of a value that can be decoded is its own. -/
theorem encoded_encoding (type : StandardMetadataType) (value : type.valueType.Value) :
    Encoded type value (encoding type value) := by
  unfold Encoded
  cases hpayload : type.valueType.payload value with
  | none =>
      unfold encoding
      rw [hpayload]
  | some payload => exact List.prefix_refl _

theorem decode_encoding {room : VectorRoom} {type : StandardMetadataType}
    {value : type.valueType.Value} (decodable : Decodable room type.valueType value) :
    decode room type (encoding type value) = .ok (some value) :=
  decode_iff.mpr ⟨decodable, encoded_encoding type value⟩

theorem encoding_injective {room : VectorRoom} {type : StandardMetadataType}
    {first second : type.valueType.Value} (hfirst : Decodable room type.valueType first)
    (hsecond : Decodable room type.valueType second)
    (same : encoding type first = encoding type second) : first = second := by
  have decoded := decode_encoding hfirst
  rw [same, decode_encoding hsecond] at decoded
  exact (Option.some.inj (Except.ok.inj decoded)).symm

/-- A buffer that is large enough holds the value. -/
theorem decode_output {room : VectorRoom} {type : StandardMetadataType}
    {value : type.valueType.Value} (decodable : Decodable room type.valueType value)
    (fits : ((encoding type value).length : Int) ≤ intMax) {destSize : ℕ}
    (enough : (encoding type value).length ≤ destSize) :
    decode room type (encode type value destSize).2 = .ok (some value) := by
  rw [encode_output fits enough]
  exact decode_encoding decodable

/-- Some of the bytes of an encoding, but not all of them, are no value. -/
theorem decode_truncated {room : VectorRoom} {type : StandardMetadataType}
    {value other : type.valueType.Value} (decodable : Decodable room type.valueType value)
    {metadata : List Byte} (first : metadata <+: encoding type value)
    (short : metadata ≠ encoding type value) (any : metadata ≠ []) :
    decode room type metadata ≠ .ok (some other) := by
  intro decoded
  obtain ⟨-, encoded⟩ := decode_iff.mp decoded
  have whole := decode_encoding decodable
  unfold Encoded at encoded
  cases hpayload : type.valueType.payload other with
  | none =>
      rw [hpayload] at encoded
      exact any encoded
  | some payload =>
      rw [hpayload] at encoded
      have again : Encoded type other (encoding type value) := by
        unfold Encoded
        rw [hpayload]
        exact encoded.trans first
      have same := decode_iff.mpr ⟨(decode_iff.mp decoded).1, again⟩
      cases whole.symm.trans same
      exact short (first.eq_of_length (Nat.le_antisymm first.length_le encoded.length_le))

/-- What a buffer holds is taken for a value exactly if it begins with the encoding of the value,
or is empty where there is nothing to encode; a part of an encoding is not taken for anything. -/
theorem decode_exact {room : VectorRoom} {type : StandardMetadataType} {metadata : List Byte}
    {value : type.valueType.Value} :
    (decode room type metadata = .ok (some value) ↔
      Decodable room type.valueType value ∧ Encoded type value metadata) ∧
    (Decodable room type.valueType value ∧ metadata <+: encoding type value ∧
        metadata ≠ encoding type value ∧ metadata ≠ [] →
      ∀ other, decode room type metadata ≠ .ok (some other)) :=
  ⟨decode_iff, fun ⟨decodable, first, short, any⟩ _ =>
    decode_truncated decodable first short any⟩

/-- Through a buffer of any size: the size is exact, a buffer of this size gives the value back,
and what is in a smaller one is not taken for a value unless it is nothing. -/
theorem decode_encode {room : VectorRoom} {type : StandardMetadataType}
    {value : type.valueType.Value} (decodable : Decodable room type.valueType value)
    (fits : ((encoding type value).length : Int) ≤ intMax) (destSize : ℕ) :
    (encode type value destSize).1 = (encoding type value).length ∧
    if (encode type value destSize).1 ≤ destSize then
      decode room type (encode type value destSize).2 = .ok (some value)
    else (encode type value destSize).2.length ≤ destSize ∧
      ((encode type value destSize).2 ≠ [] → ∀ other,
        decode room type (encode type value destSize).2 ≠ .ok (some other)) := by
  obtain ⟨size, first, short⟩ := encode_eq type value destSize
  rw [if_pos fits] at size
  refine ⟨size, ?_⟩
  rw [size]
  by_cases enough : (encoding type value).length ≤ destSize
  · rw [if_pos (Int.ofNat_le.mpr enough)]
    exact decode_output decodable fits enough
  · rw [if_neg fun h => enough (Int.ofNat_le.mp h)]
    refine ⟨short, fun any other => decode_truncated decodable first (fun same => ?_) any⟩
    rw [same] at short
    exact enough short

def oneRect : StandardMetadataType.crop.valueType.Value := [(⟨0, 0, 64, 48⟩ : Rect)]

/-- One rectangle, through a buffer that takes it. -/
theorem decode_encode_oneRect :
    decode ⟨16, by decide⟩ .crop (encode .crop oneRect 128).2 = .ok (some oneRect) := by
  have length : (encoding .crop oneRect).length = 93 := by decide +kernel
  have decodable : Decodable ⟨16, by decide⟩ .rects oneRect := ⟨Nat.le_refl 16, by decide⟩
  have fits : ((encoding .crop oneRect).length : Int) ≤ intMax := by
    rw [length]
    decide
  obtain ⟨size, decoded⟩ := @decode_encode _ .crop _ decodable fits 128
  rwa [size, length, if_pos (by decide)] at decoded

end GrallocGbmMesa.Mapper
