import GrallocGbmMesa.Mapper.Resources

/-!
# What the getters return

A getter returns the size of an encoding or a negated error.  The dispatch
header negates its errors, the provider and the checks before it do not, so a
caller may take an error for a size.
-/

namespace GrallocGbmMesa.Mapper

open ByteStream Checked TransitionSystem
open GrallocGbmMesa.Platform GrallocGbmMesa.Core

/-- The call reaches the encoder with this value. -/
structure Encodes (m : MapperState) (buffer : Ptr) (metadataType : MetadataType)
    (type : StandardMetadataType) (value : type.valueType.Value) : Prop where
  standard : isStandardMetadata metadataType = true
  initialized : m.mInitialized = true
  nonNull : buffer ≠ 0
  known : StandardMetadataType.ofValue metadataType.value = some type
  valid : type ≠ .invalid
  provided : ∃ hnd fd, m.process.handles buffer = some hnd ∧ hnd.primeFd = .ok fd ∧
    provideValue m.process buffer hnd (m.record fd) type = .ok (some value)

/-- A result is the size of the encoded value, or a negated error if none was encoded. -/
def Disciplined (m : MapperState) (buffer : Ptr) (metadataType : MetadataType) (size : Int) :
    Prop :=
  (∀ type value, Encodes m buffer metadataType type value →
      size = (encoding type value).length) ∧
    ((∀ type value, ¬ Encodes m buffer metadataType type value) →
      ∃ error, error ≠ AIMapperError.none ∧ size = -error.code)

/-- The types that are known to the header and have no provider. -/
def Unprovided (type : StandardMetadataType) : Prop :=
  type = .name ∨ type = .smpte2094_10 ∨ type = .smpte2094_40

/-- The provider has a value of the type, or the header refuses the type. -/
structure Answers (m : MapperState) (buffer : Ptr) (type : BitVec 64) : Prop where
  initialized : m.mInitialized = true
  nonNull : buffer ≠ 0
  provided : ∀ known, StandardMetadataType.ofValue type = some known → ¬ Unprovided known
  fourcc : StandardMetadataType.ofValue type = some .pixelFormatFourcc →
    ∀ hnd format, m.process.handles buffer = some hnd → hnd.format = .ok format →
      grallocGmAndroidFormatToGbmFormat format ≠ 0

/-! ## Providers -/

theorem provideValue_eq_none {s : Process} {buffer : Ptr} {hnd : NativeHandle}
    {metadata : GrallocMetadata} {type : StandardMetadataType} (valid : type ≠ .invalid)
    (h : provideValue s buffer hnd metadata type = .ok none) :
    Unprovided type ∨ (type = .pixelFormatFourcc ∧
      ∃ format, hnd.format = .ok format ∧ grallocGmAndroidFormatToGbmFormat format = 0) := by
  cases type with
  | invalid => exact absurd rfl valid
  | name => exact .inl (.inl rfl)
  | smpte2094_10 => exact .inl (.inr (.inl rfl))
  | smpte2094_40 => exact .inl (.inr (.inr rfl))
  | pixelFormatFourcc =>
      obtain ⟨format, hformat, h⟩ := bind_eq_ok.mp h
      refine .inr ⟨rfl, format, hformat, ?_⟩
      by_contra known
      have positive : grallocGmAndroidFormatToGbmFormat format > 0 := by bv_omega
      simp only [if_pos positive] at h
      cases h
  | allocationSize =>
      simp only [provideValue] at h
      cases hbo : grallocGetGbmBoFromHandle s buffer with
      | none =>
          rw [hbo] at h
          cases h
      | some p =>
          rw [hbo] at h
          obtain ⟨bo, -, h⟩ := bind_eq_ok.mp h
          cases h
  | width | height | pixelFormatRequested | pixelFormatModifier | usage | protectedContent =>
      obtain ⟨word, -, h⟩ := bind_eq_ok.mp h
      cases h
  | planeLayouts =>
      obtain ⟨format, -, h⟩ := bind_eq_ok.mp h
      obtain ⟨stride, -, h⟩ := bind_eq_ok.mp h
      obtain ⟨width, -, h⟩ := bind_eq_ok.mp h
      obtain ⟨height, -, h⟩ := bind_eq_ok.mp h
      cases h
  | crop | stride =>
      obtain ⟨first, -, h⟩ := bind_eq_ok.mp h
      obtain ⟨second, -, h⟩ := bind_eq_ok.mp h
      cases h
  | bufferId | layerCount | compression | interlaced | chromaSiting | dataspace | blendMode
  | smpte2086 | cta861_3 => cases h

/-- A type without a provider, or a format without a FourCC code, has no value. -/
theorem not_provided {s : Process} {buffer : Ptr} {hnd : NativeHandle}
    {metadata : GrallocMetadata} {type : StandardMetadataType} {value : type.valueType.Value}
    (h : provideValue s buffer hnd metadata type = .ok (some value)) :
    ¬ Unprovided type ∧ (type = .pixelFormatFourcc →
      ∀ format, hnd.format = .ok format → grallocGmAndroidFormatToGbmFormat format ≠ 0) := by
  constructor
  · rintro (rfl | rfl | rfl) <;> cases h
  · rintro rfl format hformat unknown
    simp only [provideValue, hformat, ok_bind, unknown] at h
    cases h

/-- What a provider has encodes to a size that fits an `int32_t`. -/
theorem provided_fits {s : Process} {buffer : Ptr} {hnd : NativeHandle}
    {metadata : GrallocMetadata} {type : StandardMetadataType} {value : type.valueType.Value}
    (h : provideValue s buffer hnd metadata type = .ok (some value)) :
    (encoding type value).length ≤ intMax := by
  have short {payload : List (List Byte)} (hpayload : type.valueType.payload value = some payload)
      (small : payload.flatten.length ≤ 2000) : (encoding type value).length ≤ intMax := by
    rw [encoding_length hpayload]
    have : intMax = 2147483647 := rfl
    omega
  have word (value : Word) : (writeInt32 value).flatten.length ≤ 2000 := by
    simp [writeInt32]
  have long (value : BitVec 64) : (writeInt64 value).flatten.length ≤ 2000 := by
    simp [writeInt64]
  cases type with
  | bufferId | width | height | layerCount | pixelFormatModifier | usage | allocationSize
  | protectedContent => exact short rfl (long _)
  | pixelFormatRequested | pixelFormatFourcc | dataspace | blendMode | stride =>
      exact short rfl (word _)
  | compression | interlaced | chromaSiting =>
      cases h
      exact short rfl (by decide +kernel)
  | planeLayouts =>
      obtain ⟨format, -, h⟩ := bind_eq_ok.mp h
      obtain ⟨stride, -, h⟩ := bind_eq_ok.mp h
      obtain ⟨width, -, h⟩ := bind_eq_ok.mp h
      obtain ⟨height, -, h⟩ := bind_eq_ok.mp h
      cases h
      have table := planeLayouts_short (grallocGmAndroidFormatToGbmFormat format) stride width
        height
      refine short rfl ?_
      rw [List.flatten_append, List.length_append, writePlaneLayouts_length]
      have count : (writeSize ((getPlaneLayouts (grallocGmAndroidFormatToGbmFormat format)).map
          (sizedPlane stride width height)).length).flatten.length = 8 := by
        simp [writeSize, writeInt64]
      omega
  | crop =>
      obtain ⟨width, -, h⟩ := bind_eq_ok.mp h
      obtain ⟨height, -, h⟩ := bind_eq_ok.mp h
      cases h
      exact short rfl (by simp [writeSize, writeInt64, writeRect, writeInt32])
  | smpte2086 =>
      cases h
      exact short rfl (by simp [writeSmpte2086, writeXyColor, writeInt32])
  | cta861_3 =>
      cases h
      exact short rfl (by simp [writeCta861_3, writeInt32])
  | invalid | name | smpte2094_40 | smpte2094_10 => cases h

/-! ## The discipline -/

section Getter

variable {m m' : MapperState} {buffer : Ptr} {type : BitVec 64} {outDataSize : Nat} {size : Int}
  {bytes : List Byte}

/-- A call that encodes nothing is disciplined when its result is a negated error. -/
theorem disciplined_iff_negated {metadataType : MetadataType}
    (nothing : ∀ type value, ¬ Encodes m buffer metadataType type value) :
    Disciplined m buffer metadataType size ↔
      ∃ error, error ≠ AIMapperError.none ∧ size = -error.code := by
  constructor
  · intro disciplined
    exact disciplined.2 nothing
  · intro negated
    exact ⟨fun type value encodes => absurd encodes (nothing type value), fun _ => negated⟩

/-- An error that is not negated is none of the results that are expected. -/
theorem not_disciplined_code {metadataType : MetadataType} (error : AIMapperError)
    (failed : error ≠ .none) (nothing : ∀ type value, ¬ Encodes m buffer metadataType type value) :
    ¬ Disciplined m buffer metadataType error.code := by
  rw [disciplined_iff_negated nothing]
  rintro ⟨other, -, negated⟩
  have positive : 0 < error.code := AIMapperError.code_pos failed
  have nonneg : 0 ≤ other.code := other.code_nonneg
  omega

/-- A call is disciplined when its result is the size of what it encodes. -/
theorem disciplined_iff_size {metadataType : MetadataType} {known : StandardMetadataType}
    {value : known.valueType.Value} (encodes : Encodes m buffer metadataType known value) :
    Disciplined m buffer metadataType size ↔ size = (encoding known value).length := by
  constructor
  · intro disciplined
    exact disciplined.1 known value encodes
  · rintro rfl
    refine ⟨fun other otherValue otherEncodes => ?_, fun nothing => absurd encodes (nothing _ _)⟩
    obtain rfl := Option.some.inj (encodes.known.symm.trans otherEncodes.known)
    obtain ⟨hnd, fd, hhnd, hfd, provided⟩ := encodes.provided
    obtain ⟨hnd', fd', hhnd', hfd', provided'⟩ := otherEncodes.provided
    obtain rfl := Option.some.inj (hhnd.symm.trans hhnd')
    obtain rfl := Except.ok.inj (hfd.symm.trans hfd')
    rw [provided] at provided'
    cases provided'
    rfl

/-- The header negates the error of a type it does not know. -/
theorem disciplined_unknown (initialized : m.mInitialized = true) (nonNull : buffer ≠ 0)
    (unknown : StandardMetadataType.ofValue type = none ∨
      StandardMetadataType.ofValue type = some .invalid)
    (h : getStandardMetadata m buffer type outDataSize = .ok (size, bytes, m')) :
    Disciplined m buffer ⟨standardMetadataName, type⟩ size ∧ Answers m buffer type := by
  have only {known : StandardMetadataType}
      (hknown : StandardMetadataType.ofValue type = some known) : known = .invalid := by
    rcases unknown with none | invalid
    · exact nomatch none.symm.trans hknown
    · exact (Option.some.inj (invalid.symm.trans hknown)).symm
  have nothing : ∀ known value,
      ¬ Encodes m buffer ⟨standardMetadataName, type⟩ known value :=
    fun known value encodes => encodes.valid (only encodes.known)
  have returned : size = -AIMapperError.unsupported.code := by
    unfold getStandardMetadata at h
    rw [if_neg (not_not_intro initialized), if_neg nonNull] at h
    rcases unknown with none | invalid
    · rw [none] at h
      cases h
      rfl
    · rw [invalid] at h
      cases h
      rfl
  rw [disciplined_iff_negated nothing]
  refine ⟨⟨.unsupported, nofun, returned⟩, initialized, nonNull, ?_, ?_⟩
  · intro known hknown
    rw [only hknown]
    rintro (h | h | h) <;> cases h
  · intro fourcc
    cases only fourcc

/-- A known type gives a size when it is provided, and else the positive
`AIMAPPER_ERROR_UNSUPPORTED`. -/
theorem disciplined_known {known : StandardMetadataType} (initialized : m.mInitialized = true)
    (nonNull : buffer ≠ 0) (valid : known ≠ .invalid)
    (h : getStandardMetadata m buffer known.value outDataSize = .ok (size, bytes, m')) :
    Disciplined m buffer ⟨standardMetadataName, known.value⟩ size ↔
      Answers m buffer known.value := by
  have readable : ∃ hnd fd, Readable m buffer hnd fd := by
    have dispatched := h
    rw [getStandardMetadata_dispatch initialized nonNull valid] at dispatched
    obtain ⟨hnd, hhnd, dispatched⟩ := bind_eq_ok.mp dispatched
    obtain ⟨fd, hfd, -⟩ := bind_eq_ok.mp dispatched
    exact ⟨hnd, fd, initialized, nonNull, Process.handle_eq_ok.mp hhnd, hfd⟩
  obtain ⟨hnd, fd, readable⟩ := readable
  have ofValue := StandardMetadataType.ofValue_value known
  rw [readable.getStandardMetadata_eq valid] at h
  cases provided : provideValue m.process buffer hnd (m.record fd) known with
  | error fault =>
      rw [provided] at h
      cases h
  | ok value =>
      rw [provided] at h
      cases value with
      | none =>
          cases h
          refine iff_of_false (not_disciplined_code .unsupported nofun ?_) fun answers => ?_
          · intro other value encodes
            obtain rfl := Option.some.inj (ofValue.symm.trans encodes.known)
            obtain ⟨hnd', fd', hhnd', hfd', provided'⟩ := encodes.provided
            obtain rfl := Option.some.inj (readable.placed.symm.trans hhnd')
            obtain rfl := Except.ok.inj (readable.prime.symm.trans hfd')
            rw [provided] at provided'
            cases provided'
          · rcases provideValue_eq_none valid provided with
              unprovided | ⟨rfl, format, hformat, unknown⟩
            · exact answers.provided known ofValue unprovided
            · exact answers.fourcc ofValue hnd format readable.placed hformat unknown
      | some value =>
          cases h
          have encodes : Encodes m buffer ⟨standardMetadataName, known.value⟩ known value :=
            ⟨beq_self_eq_true _, initialized, nonNull, ofValue, valid, hnd, fd, readable.placed,
              readable.prime, provided⟩
          rw [disciplined_iff_size encodes]
          refine iff_of_true (encode_desired (provided_fits provided) outDataSize)
            ⟨initialized, nonNull, ?_, ?_⟩
          · intro other hother
            obtain rfl := Option.some.inj (ofValue.symm.trans hother)
            exact (not_provided provided).1
          · intro fourcc hnd' format hhnd' hformat
            obtain rfl := Option.some.inj (ofValue.symm.trans fourcc)
            obtain rfl := Option.some.inj (readable.placed.symm.trans hhnd')
            exact (not_provided provided).2 rfl format hformat

theorem getStandardMetadata_disciplined
    (h : getStandardMetadata m buffer type outDataSize = .ok (size, bytes, m')) :
    Disciplined m buffer ⟨standardMetadataName, type⟩ size ↔ Answers m buffer type := by
  by_cases uninitialized : ¬ m.mInitialized
  · unfold getStandardMetadata at h
    rw [if_pos uninitialized] at h
    cases h
    exact iff_of_false (not_disciplined_code .noResources nofun fun _ _ encodes =>
      uninitialized encodes.initialized) fun answers => uninitialized answers.initialized
  by_cases null : buffer = 0
  · unfold getStandardMetadata at h
    rw [if_neg uninitialized, if_pos null] at h
    cases h
    exact iff_of_false (not_disciplined_code .badBuffer nofun fun _ _ encodes =>
      encodes.nonNull null) fun answers => answers.nonNull null
  have initialized := not_not.mp uninitialized
  by_cases unknown : StandardMetadataType.ofValue type = none ∨
      StandardMetadataType.ofValue type = some .invalid
  · obtain ⟨disciplined, answers⟩ := disciplined_unknown initialized null unknown h
    exact iff_of_true disciplined answers
  · rw [not_or] at unknown
    obtain ⟨known, hknown⟩ := Option.ne_none_iff_exists'.mp unknown.1
    obtain rfl := StandardMetadataType.ofValue_eq_some.mp hknown
    exact disciplined_known initialized null (by rintro rfl; exact unknown.2 hknown) h

end Getter

/-- The results of the two getters can be told apart from errors exactly when
the name is the standard one, the mapper is initialised, the handle is not
`NULL`, and the type is provided or unknown to the header. -/
theorem getters_disciplined_iff (m : MapperState) (buffer : Ptr) (outDataSize : Nat) :
    (∀ type size bytes m',
      getStandardMetadata m buffer type outDataSize = .ok (size, bytes, m') →
        (Disciplined m buffer ⟨standardMetadataName, type⟩ size ↔ Answers m buffer type)) ∧
      ∀ metadataType size bytes m',
        getMetadata m buffer metadataType outDataSize = .ok (size, bytes, m') →
          (Disciplined m buffer metadataType size ↔
            isStandardMetadata metadataType ∧ Answers m buffer metadataType.value) := by
  refine ⟨fun type size bytes m' h => getStandardMetadata_disciplined h, ?_⟩
  intro metadataType size bytes m' h
  unfold getMetadata at h
  by_cases standard : isStandardMetadata metadataType = true
  · rw [if_pos standard] at h
    obtain ⟨name, type⟩ := metadataType
    obtain rfl : standardMetadataName = name := of_decide_eq_true standard
    rw [getStandardMetadata_disciplined h]
    exact (and_iff_right standard).symm
  · rw [if_neg standard] at h
    cases h
    exact iff_of_false (not_disciplined_code .unsupported nofun fun _ _ encodes =>
      standard encodes.standard) fun answers => standard answers.1

theorem getters_disciplined_iff_imported :
    Disciplined importedSession.mapper 16 ⟨standardMetadataName, 3#64⟩ 77 ∧
      ¬ Disciplined importedSession.mapper 16 ⟨standardMetadataName, 2#64⟩ 7 := by
  have returns (type : BitVec 64) (size : Int)
      (result : importedSession.result (.getStandardMetadata 16 type 0) = some (.read size [])) :
      ∃ m', getStandardMetadata importedSession.mapper 16 type 0 = .ok (size, [], m') := by
    obtain ⟨m', performed⟩ := Session.result_eq_some.mp result
    obtain ⟨⟨size', bytes', m₁⟩, returned, same⟩ := bind_eq_ok.mp performed
    cases same
    exact ⟨m', returned⟩
  obtain ⟨m₁, width⟩ := returns 3#64 77 (by decide +kernel)
  obtain ⟨m₂, name⟩ := returns 2#64 7 (by decide +kernel)
  refine ⟨((getters_disciplined_iff importedSession.mapper 16 0).1 _ _ _ _ width).mpr ?_, ?_⟩
  · refine ⟨by decide +kernel, by decide, ?_, nofun⟩
    rintro known ⟨⟩ (h | h | h) <;> cases h
  · intro disciplined
    have answers := ((getters_disciplined_iff importedSession.mapper 16 0).1 _ _ _ _ name).mp
      disciplined
    exact answers.provided .name rfl (.inl rfl)

/-- A name of another vendor gets 7 bytes of metadata. -/
theorem getMetadata_undisciplined :
    getMetadata importedSession.mapper 16 ⟨"Fake", 1⟩ 0 =
        .ok (7, [], importedSession.mapper) ∧
      ¬ Disciplined importedSession.mapper 16 ⟨"Fake", 1⟩ 7 := by
  have foreign : isStandardMetadata ⟨"Fake", 1⟩ = false := by decide
  refine ⟨?_, ?_⟩
  · unfold getMetadata
    rw [foreign]
    rfl
  · refine not_disciplined_code .unsupported nofun fun type value encodes => ?_
    exact nomatch foreign.symm.trans encodes.standard

end GrallocGbmMesa.Mapper
