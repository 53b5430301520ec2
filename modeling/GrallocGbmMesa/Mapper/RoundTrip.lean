import GrallocGbmMesa.Mapper.MetadataFormat
import GrallocGbmMesa.Mapper.MetadataStore

/-!
# Setting what was read

The getter encodes a value in the stream format, and the setter takes the bytes
for the object itself.  The two sizes never agree, so no encoding is ever
accepted, and what is accepted is no encoding.
-/

namespace GrallocGbmMesa.Mapper

open ByteStream Checked TransitionSystem
open GrallocGbmMesa.Platform GrallocGbmMesa.Core

namespace StoredType

/-- None of the types has a vector. -/
theorem decodable (stored : StoredType) (room : VectorRoom) (value : stored.Value) :
    Decodable room stored.type.valueType value := by
  cases stored with
  | dataspace | blendMode | smpte2086 | cta861_3 => exact trivial

/-- No encoding has the size of its object. -/
theorem encoding_length_ne_size (stored : StoredType) (value : stored.Value) :
    (encoding stored.type value).length ≠ stored.size := by
  have present (type : StandardMetadataType) {value : type.valueType.Value}
      {payload : List (List Byte)} (h : type.valueType.payload value = some payload)
      (size : Nat) (small : size ≤ 40) : (encoding type value).length ≠ size := by
    rw [encoding_length h]
    omega
  cases stored with
  | dataspace => exact present .dataspace rfl 4 (by decide)
  | blendMode => exact present .blendMode rfl 4 (by decide)
  | smpte2086 =>
      cases value with
      | none => exact Nat.zero_ne_add_one 39
      | some object => exact present .smpte2086 rfl 40 (by decide)
  | cta861_3 =>
      cases value with
      | none => exact Nat.zero_ne_add_one 7
      | some object => exact present .cta861_3 rfl 8 (by decide)

end StoredType

/-- Setting the encoding of a value is accepted and reading gives it back. -/
def RoundTrips (m : MapperState) (handle : Ptr) (stored : StoredType) (value : stored.Value) :
    Prop :=
  ∃ m₁ m₂,
    setStandardMetadata m handle stored.type.value (encoding stored.type value) =
      .ok (.none, m₁) ∧
    getStandardMetadata m₁ handle stored.type.value (encoding stored.type value).length =
      .ok ((encoding stored.type value).length, encoding stored.type value, m₂)

/-- Setting these bytes is refused and shows in no record. -/
def Refuses (m : MapperState) (handle : Ptr) (stored : StoredType) (bytes : List Byte) : Prop :=
  ∃ error m₁, setStandardMetadata m handle stored.type.value bytes = .ok (error, m₁) ∧
    error ≠ .none ∧ ∀ fd, m₁.record fd = m.record fd

/-- A write through an imported handle is accepted when it has the size of the object. -/
theorem Ledger.setStored {base : Process} {imports : List Import} {m : MapperState}
    (ledger : Ledger base imports m) {entry : Import} (hmem : entry ∈ imports)
    (stored : StoredType) (bytes : List Byte) :
    Mapper.setStandardMetadata m entry.handle stored.type.value bytes =
      if bytes.length = stored.size then
        .ok (.none, m.setRecord entry.primeFd (stored.write bytes (m.record entry.primeFd)))
      else .ok (.badValue, m.setRecord entry.primeFd (m.record entry.primeFd)) := by
  rw [(ledger.readable hmem).setStandardMetadata_eq, StandardMetadataType.ofValue_value,
    stored.applyMetadata_eq]
  split <;> rfl

/-- In every reachable state no value makes the round trip, and bytes that are
no encoding are refused exactly when they do not have the size of the object. -/
theorem metadata_roundTrip {first last : Session} {labels : List MapperEvent}
    (initial : mapperSystem.initial first) (run : Run mapperSystem first labels last)
    {handle : Ptr} (held : handle ∈ last.outstanding) (stored : StoredType) :
    (∀ value : stored.Value,
        (∀ room, decode room stored.type (encoding stored.type value) = .ok (some value)) ∧
        ¬ RoundTrips last.mapper handle stored value) ∧
      ∀ room bytes, (∀ value, decode room stored.type bytes ≠ .ok (some value)) →
        (Refuses last.mapper handle stored bytes ↔ bytes.length ≠ stored.size) := by
  obtain ⟨imports, ledger, outstanding⟩ := mapperSystem_ledger initial run
  rw [outstanding] at held
  obtain ⟨entry, hmem, rfl⟩ := List.mem_map.mp held
  constructor
  · intro value
    refine ⟨fun room => decode_encoding (stored.decodable room value), ?_⟩
    rintro ⟨m₁, m₂, accepted, -⟩
    rw [ledger.setStored hmem, if_neg (stored.encoding_length_ne_size value)] at accepted
    cases accepted
  · intro room bytes _
    constructor
    · rintro ⟨error, m₁, returns, refused, -⟩ fits
      rw [ledger.setStored hmem, if_pos fits] at returns
      cases returns
      exact refused rfl
    · intro other
      refine ⟨.badValue, _, ?_, nofun, last.mapper.record_setRecord_record entry.primeFd⟩
      rw [ledger.setStored hmem, if_neg other]

/-- A client that has no heap left. -/
def noRoom : VectorRoom := ⟨0, by decide⟩

theorem metadata_roundTrip_imported :
    ¬ RoundTrips importedSession.mapper 16 .smpte2086 none ∧
      ¬ Refuses importedSession.mapper 16 .dataspace [1#8, 0#8, 0#8, 0#8] := by
  have held : 16 ∈ importedSession.outstanding := by decide +kernel
  have run := Run.single importedSession_step
  have rejected (value : Word) :
      decode noRoom .dataspace [1#8, 0#8, 0#8, 0#8] ≠ .ok (some value) := nofun
  refine ⟨((metadata_roundTrip startedSession_initial run held .smpte2086).1 none).2, ?_⟩
  intro refused
  exact ((metadata_roundTrip startedSession_initial run held .dataspace).2 _ _ rejected).mp
    refused rfl

/-- A client that has just imported a buffer cannot set the dataspace it reads,
and can set one that is no encoding. -/
theorem metadata_roundTrip_fails :
    Reachable mapperSystem importedSession ∧ 16 ∈ importedSession.outstanding ∧
      ¬ RoundTrips importedSession.mapper 16 .dataspace dataspaceUnknown ∧
      (∀ room, decode room .dataspace [1#8, 0#8, 0#8, 0#8] = .ok none) ∧
      ¬ Refuses importedSession.mapper 16 .dataspace [1#8, 0#8, 0#8, 0#8] := by
  have imported := Run.single importedSession_step
  have held : importedSession.outstanding = [16] := by decide +kernel
  obtain ⟨imports, ledger, outstanding⟩ := mapperSystem_ledger startedSession_initial imported
  have hmem : 16 ∈ imports.map Import.handle := by
    rw [← outstanding, held]
    exact List.mem_singleton_self 16
  obtain ⟨entry, hmem, hhandle⟩ := List.mem_map.mp hmem
  refine ⟨⟨_, _, startedSession_initial, imported⟩, held ▸ List.mem_singleton_self 16, ?_,
    fun _ => rfl, ?_⟩
  · rintro ⟨m₁, m₂, accepted, -⟩
    have other := StoredType.encoding_length_ne_size .dataspace dataspaceUnknown
    rw [← hhandle, ledger.setStored hmem, if_neg other] at accepted
    cases accepted
  · rintro ⟨error, m₁, returns, refused, -⟩
    have fits : [1#8, 0#8, 0#8, 0#8].length = StoredType.dataspace.size := rfl
    rw [← hhandle, ledger.setStored hmem, if_pos fits] at returns
    cases returns
    exact refused rfl

end GrallocGbmMesa.Mapper
