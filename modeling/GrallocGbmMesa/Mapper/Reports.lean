import GrallocGbmMesa.Mapper.MetadataStore

/-!
# What a client reads of a buffer

A handle that a session holds reports the words of the gralloc handle it is a
clone of.  A client that decodes a report gets back one value only.
-/

namespace GrallocGbmMesa.Mapper

open ByteStream Checked TransitionSystem
open GrallocGbmMesa.Platform GrallocGbmMesa.Core

/-- A read of the type gives the encoding of the value. -/
def Reports (m : MapperState) (handle : Ptr) (type : StandardMetadataType)
    (value : type.valueType.Value) : Prop :=
  ∀ outDataSize, ∃ m', getStandardMetadata m handle type.value outDataSize =
    .ok ((encode type value outDataSize).1, (encode type value outDataSize).2, m')

theorem Readable.reports {m : MapperState} {buffer : Ptr} {native : NativeHandle} {fd : Fd}
    (h : Readable m buffer native fd) {type : StandardMetadataType}
    {value : type.valueType.Value} (valid : type ≠ .invalid)
    (provided : provideValue m.process buffer native (m.record fd) type = .ok (some value)) :
    Reports m buffer type value := by
  intro outDataSize
  rw [h.getStandardMetadata_eq valid, provided]
  exact ⟨_, rfl⟩

theorem Ledger.reports {base : Process} {imports : List Import} {m : MapperState} {entry : Import}
    (ledger : Ledger base imports m) (hmem : entry ∈ imports) {type : StandardMetadataType}
    {value : type.valueType.Value} (valid : type ≠ .invalid)
    (provided : provideValue m.process entry.handle entry.native (m.record entry.primeFd) type =
      .ok (some value)) : Reports m entry.handle type value :=
  (ledger.readable hmem).reports valid provided

/-! ## Reports are unambiguous -/

theorem writeInt64_injective {type : StandardMetadataType} {first second : BitVec 64}
    (same : (writeHeader type ++ writeInt64 first).flatten =
      (writeHeader type ++ writeInt64 second).flatten) : first = second := by
  rw [List.flatten_append, List.flatten_append] at same
  have bytes : littleEndian 8 first = littleEndian 8 second := by
    simpa [writeInt64] using List.append_cancel_left same
  have read := congrArg (ofLittleEndian 64) bytes
  rwa [ofLittleEndian_littleEndian (by decide), ofLittleEndian_littleEndian (by decide)] at read

/-- Two reports of a type have the same encoding. -/
theorem Reports.encoding_eq {m : MapperState} {handle : Ptr} {type : StandardMetadataType}
    {first second : type.valueType.Value} (hfirst : Reports m handle type first)
    (hsecond : Reports m handle type second) (fitsFirst : (encoding type first).length ≤ intMax)
    (fitsSecond : (encoding type second).length ≤ intMax) :
    encoding type first = encoding type second := by
  let room := max (encoding type first).length (encoding type second).length
  obtain ⟨m₁, reads₁⟩ := hfirst room
  obtain ⟨m₂, reads₂⟩ := hsecond room
  have same := congrArg (fun result => result.2.1) (Except.ok.inj (reads₁.symm.trans reads₂))
  rwa [encode_output fitsFirst (Nat.le_max_left ..),
    encode_output fitsSecond (Nat.le_max_right ..)] at same

/-- A 64-bit value that is encoded. -/
theorem encoding_int64 {type : StandardMetadataType} {value : type.valueType.Value}
    {word : BitVec 64} (payload : type.valueType.payload value = some (writeInt64 word)) :
    encoding type value = (writeHeader type ++ writeInt64 word).flatten ∧
      (encoding type value).length ≤ intMax := by
  constructor
  · unfold encoding
    rw [payload]
  · rw [encoding_length payload]
    simp [writeInt64, intMax]

theorem Reports.int64_unique {m : MapperState} {handle : Ptr} {type : StandardMetadataType}
    {first second : type.valueType.Value} {firstWord secondWord : BitVec 64}
    (hfirst : Reports m handle type first) (hsecond : Reports m handle type second)
    (payloadFirst : type.valueType.payload first = some (writeInt64 firstWord))
    (payloadSecond : type.valueType.payload second = some (writeInt64 secondWord)) :
    firstWord = secondWord := by
  obtain ⟨encodedFirst, fitsFirst⟩ := encoding_int64 payloadFirst
  obtain ⟨encodedSecond, fitsSecond⟩ := encoding_int64 payloadSecond
  have same := hfirst.encoding_eq hsecond fitsFirst fitsSecond
  rw [encodedFirst, encodedSecond] at same
  exact writeInt64_injective same

/-! ## The words of a handle -/

/-- What the fields of a gralloc handle are reported as. -/
structure ReportsHandle (m : MapperState) (p : Ptr) (handle : GrallocHandle) : Prop where
  width : Reports m p .width (BitVec.ofInt 64 handle.width.toInt)
  height : Reports m p .height (BitVec.ofInt 64 handle.height.toInt)
  layerCount : Reports m p .layerCount 1#64
  format : Reports m p .pixelFormatRequested handle.format
  modifier : Reports m p .pixelFormatModifier handle.modifier
  usage : Reports m p .usage (handle.usage.setWidth 64)
  protectedContent : Reports m p .protectedContent
    (if Bits.Meets handle.usage grallocUsageProtected then 1#64 else 0#64)
  crop : Reports m p .crop [{ left := 0, top := 0, right := handle.width, bottom := handle.height }]
  stride : Reports m p .stride (grallocGmAndroidCaculatePixelStride handle.format handle.stride)

/-- A clone of a gralloc handle differs from it in its descriptor. -/
theorem Import.native_eq {entry : Import} {handle : GrallocHandle}
    (h : entry.ints = handle.native.ints) :
    entry.native = { handle with primeFd := entry.primeFd }.native := by
  unfold Import.native
  rw [h]
  rfl

theorem Ledger.reportsHandle {base : Process} {imports : List Import} {m : MapperState}
    {entry : Import} (ledger : Ledger base imports m) (hmem : entry ∈ imports)
    {handle : GrallocHandle} (ints : entry.ints = handle.native.ints) :
    ReportsHandle m entry.handle handle := by
  have native := Import.native_eq ints
  have reports {type : StandardMetadataType} {value : type.valueType.Value}
      (valid : type ≠ .invalid)
      (provided : provideValue m.process entry.handle
        { handle with primeFd := entry.primeFd }.native (m.record entry.primeFd) type =
          .ok (some value)) : Reports m entry.handle type value :=
    ledger.reports hmem valid (native ▸ provided)
  exact
    { width := reports (by decide) rfl
      height := reports (by decide) rfl
      layerCount := reports (by decide) rfl
      format := reports (by decide) rfl
      modifier := reports (by decide) (by simp [provideValue])
      usage := reports (by decide) rfl
      protectedContent := reports (by decide) rfl
      crop := reports (by decide) rfl
      stride := reports (by decide) rfl }

/-- Along every run, a handle imported from a copy of a gralloc handle reports its words. -/
theorem mapperSystem_reportsHandle {first last : Session} {labels : List MapperEvent}
    (initial : mapperSystem.initial first) (run : Run mapperSystem first labels last) {p : Ptr}
    (held : p ∈ last.outstanding) {raw : NativeHandle} (imported : origin p labels = some raw)
    {handle : GrallocHandle} (ints : raw.ints = handle.native.ints) :
    ReportsHandle last.mapper p handle := by
  obtain ⟨imports, ledger, outstanding, -, origins⟩ := mapperSystem_history initial run
  rw [outstanding] at held
  obtain ⟨entry, hmem, rfl⟩ := List.mem_map.mp held
  obtain ⟨source, horigin, same⟩ := origins entry hmem
  rw [imported] at horigin
  cases horigin
  exact ledger.reportsHandle hmem (same.symm.trans ints)

end GrallocGbmMesa.Mapper
