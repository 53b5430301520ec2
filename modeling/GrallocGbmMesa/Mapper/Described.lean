import GrallocGbmMesa.Mapper.ReadProtocol

/-!
# The metadata types that are described

`listSupportedMetadataTypes` says of some types whether they can be read and set.  What it says
can be read is there for every buffer, and what it says cannot be set is refused.
-/

namespace GrallocGbmMesa.Mapper

open ByteStream Checked TransitionSystem
open GrallocGbmMesa.Platform GrallocGbmMesa.Core

structure MetadataTypeDescription where
  metadataType : MetadataType
  description : Option String
  isGettable : Bool
  isSettable : Bool

def describeStandard (type : StandardMetadataType) (isGettable isSettable : Bool) :
    MetadataTypeDescription where
  metadataType := ⟨standardMetadataName, type.value⟩
  description := none
  isGettable := isGettable
  isSettable := isSettable

def sSupportedMetadataTypes : List MetadataTypeDescription :=
  [describeStandard .bufferId true false,
    describeStandard .name false false,
    describeStandard .width true false,
    describeStandard .height true false,
    describeStandard .layerCount true false,
    describeStandard .pixelFormatRequested true false,
    describeStandard .usage true false,
    describeStandard .allocationSize true false,
    describeStandard .stride true false,
    describeStandard .protectedContent false false]

def listSupportedMetadataTypes (m : MapperState) :
    AIMapperError × List MetadataTypeDescription × MapperState :=
  (.none, sSupportedMetadataTypes, m)

theorem isStandardMetadata_standard (type : BitVec 64) :
    isStandardMetadata ⟨standardMetadataName, type⟩ = true := beq_self_eq_true _

theorem getMetadata_standard (m : MapperState) (buffer : Ptr) (type : BitVec 64)
    (outDataSize : ℕ) :
    getMetadata m buffer ⟨standardMetadataName, type⟩ outDataSize =
      getStandardMetadata m buffer type outDataSize :=
  if_pos (isStandardMetadata_standard type)

theorem setMetadata_standard (m : MapperState) (buffer : Ptr) (type : BitVec 64)
    (metadata : List Byte) :
    setMetadata m buffer ⟨standardMetadataName, type⟩ metadata =
      setStandardMetadata m buffer type metadata :=
  if_neg (not_not_intro (isStandardMetadata_standard type))

/-- No type that is described is one that is stored. -/
theorem described_cases {description : MetadataTypeDescription}
    (listed : description ∈ sSupportedMetadataTypes) :
    ∃ type isGettable, description = describeStandard type isGettable false ∧
      (∀ stored : StoredType, type ≠ stored.type) ∧ type ≠ .invalid ∧
      (isGettable = true → ¬ Unprovided type ∧ type ≠ .pixelFormatFourcc) := by
  have gettable {type : StandardMetadataType} (notStored : ∀ stored : StoredType,
      type ≠ stored.type) (valid : type ≠ .invalid) (provided : ¬ Unprovided type)
      (noFourcc : type ≠ .pixelFormatFourcc) : ∃ type' isGettable,
        describeStandard type true false = describeStandard type' isGettable false ∧
        (∀ stored : StoredType, type' ≠ stored.type) ∧ type' ≠ .invalid ∧
        (isGettable = true → ¬ Unprovided type' ∧ type' ≠ .pixelFormatFourcc) :=
    ⟨type, true, rfl, notStored, valid, fun _ => ⟨provided, noFourcc⟩⟩
  simp only [sSupportedMetadataTypes, List.mem_cons, List.not_mem_nil, or_false] at listed
  rcases listed with rfl | rfl | rfl | rfl | rfl | rfl | rfl | rfl | rfl | rfl
  case inr.inl =>
    exact ⟨.name, false, rfl, by rintro (_ | _ | _ | _) <;> nofun, nofun, nofun⟩
  case inr.inr.inr.inr.inr.inr.inr.inr.inr =>
    exact ⟨.protectedContent, false, rfl, by rintro (_ | _ | _ | _) <;> nofun, nofun, nofun⟩
  all_goals
    exact gettable (by rintro (_ | _ | _ | _) <;> nofun) nofun
      (by rintro (h | h | h) <;> cases h) nofun

/-- A type that is not stored cannot be set, and the attempt changes no read. -/
theorem Ledger.set_refused {base : Process} {imports : List Import} {m : MapperState}
    {entry : Import} (ledger : Ledger base imports m) (hmem : entry ∈ imports)
    {type : StandardMetadataType} (notStored : ∀ stored : StoredType, type ≠ stored.type)
    (metadata : List Byte) :
    ∃ error m', Mapper.setStandardMetadata m entry.handle type.value metadata = .ok (error, m') ∧
      error ≠ .none ∧ ∀ other ∈ imports, ∀ read, SameReads m other.handle m' other.handle read := by
  obtain ⟨m', performed, after, ledger'⟩ := ledger.setStandardMetadata hmem type.value metadata
  have refused := (applyMetadata_cases (some type)).resolve_left fun ⟨stored, same⟩ =>
    notStored stored (Option.some.inj same)
  rw [StandardMetadataType.ofValue_value] at performed after
  rw [(refused metadata _).2] at after
  refine ⟨_, m', performed, (refused metadata _).1, fun other hother read => ?_⟩
  have before := ledger.readable hother
  have now := ledger'.readable hother
  by_cases unknown : StandardMetadataType.ofValue read = none ∨
      StandardMetadataType.ofValue read = some .invalid
  · intro outDataSize
    rw [before.read_unknown unknown, now.read_unknown unknown]
  · rw [not_or] at unknown
    obtain ⟨known, hknown⟩ := Option.ne_none_iff_exists'.mp unknown.1
    rw [StandardMetadataType.ofValue_eq_some.mp hknown]
    refine sameReads_of_provided before now ?_
    rw [after, MapperState.record_setRecord_record, MapperState.setRecord_process]

/-- What is described as readable is read from every buffer, and as a value; what is described as
not to be set is not set by any bytes, and nothing that is read changes. -/
theorem described_holds {room : VectorRoom} (enough : room.Enough) {first last : Session}
    {labels : List MapperEvent} (initial : mapperSystem.initial first)
    (run : Run mapperSystem first labels last) {p : Ptr} (held : p ∈ last.outstanding)
    {description : MetadataTypeDescription}
    (listed : description ∈ (listSupportedMetadataTypes last.mapper).2.1) :
    (description.isGettable = true → ∃ type, ∃ value : type.valueType.Value, ∀ outDataSize,
      ∃ bytes m', getMetadata last.mapper p description.metadataType outDataSize =
          .ok ((encoding type value).length, bytes, m') ∧
        ((encoding type value).length ≤ outDataSize →
          Mapper.decode room type bytes = .ok (some value))) ∧
    (description.isSettable = false → ∀ metadata, ∃ error m',
      setMetadata last.mapper p description.metadataType metadata = .ok (error, m') ∧
        error ≠ .none ∧ ∀ q ∈ last.outstanding, ∀ type, SameReads last.mapper q m' q type) := by
  obtain ⟨imports, ledger, outstanding⟩ := mapperSystem_ledger initial run
  obtain ⟨type, isGettable, rfl, notStored, valid, readable⟩ := described_cases listed
  rw [outstanding] at held ⊢
  obtain ⟨entry, hmem, rfl⟩ := List.mem_map.mp held
  constructor
  · intro gettable
    obtain ⟨provider, noFourcc⟩ := readable gettable
    obtain ⟨provided, h, -⟩ := ledger.read_cases hmem valid
    cases provided with
    | none =>
        rcases provideValue_eq_none valid h with unprovided | ⟨fourcc, -⟩
        · exact absurd unprovided provider
        · exact absurd fourcc noFourcc
    | some value =>
        refine ⟨type, value, fun outDataSize => ⟨(encode type value outDataSize).2,
          last.mapper.setRecord entry.primeFd (last.mapper.record entry.primeFd), ?_, ?_⟩⟩
        · refine (getMetadata_standard ..).trans ?_
          rw [(ledger.readable hmem).getStandardMetadata_eq valid, h,
            ← encode_desired (provided_fits h) outDataSize]
          rfl
        · exact decode_output (provided_decodable enough h) (provided_fits h)
  · intro _ metadata
    obtain ⟨error, m', performed, failed, same⟩ := ledger.set_refused hmem notStored metadata
    refine ⟨error, m', ?_, failed, fun q hq read => ?_⟩
    · exact (setMetadata_standard ..).trans performed
    · obtain ⟨other, hother, rfl⟩ := List.mem_map.mp hq
      exact same other hother read

/-- The width is there, and its four bytes do not set it. -/
theorem described_holds_width :
    (∃ type, ∃ value : type.valueType.Value, ∀ outDataSize : ℕ, ∃ bytes m',
      getMetadata importedSession.mapper 16 ⟨standardMetadataName, 3#64⟩ outDataSize =
          .ok ((encoding type value).length, bytes, m') ∧
        ((encoding type value).length ≤ outDataSize →
          Mapper.decode threePlanes type bytes = .ok (some value))) ∧
    ∃ error m', setMetadata importedSession.mapper 16 ⟨standardMetadataName, 3#64⟩
        [0#8, 1#8, 0#8, 0#8] = .ok (error, m') ∧ error ≠ .none ∧
      ∀ q ∈ importedSession.outstanding, ∀ type, SameReads importedSession.mapper q m' q type := by
  have enough : threePlanes.Enough := Nat.le_refl (3 * 88)
  have held : 16 ∈ importedSession.outstanding := by decide +kernel
  have listed : describeStandard .width true false ∈
      (listSupportedMetadataTypes importedSession.mapper).2.1 := by
    simp [listSupportedMetadataTypes, sSupportedMetadataTypes]
  obtain ⟨readable, refused⟩ := described_holds enough startedSession_initial
    (.single importedSession_step) held listed
  exact ⟨readable rfl, refused rfl _⟩

end GrallocGbmMesa.Mapper
