import GrallocGbmMesa.Mapper.Origins
import GrallocGbmMesa.Mapper.Resources

/-!
# The metadata of a handle

The mapper keeps one record for each prime descriptor.  What a client sees is a
store of its own for each handle: at the import it holds the initial values, and
it changes by the writes to that handle which were accepted.
-/

namespace GrallocGbmMesa.Mapper

open ByteStream Checked TransitionSystem
open GrallocGbmMesa.Platform GrallocGbmMesa.Core

/-- The types that `setStandardMetadata` stores. -/
inductive StoredType where
  | dataspace
  | blendMode
  | smpte2086
  | cta861_3
  deriving DecidableEq, Repr

namespace StoredType

def type : StoredType → StandardMetadataType
  | dataspace => .dataspace
  | blendMode => .blendMode
  | smpte2086 => .smpte2086
  | cta861_3 => .cta861_3

abbrev Value (stored : StoredType) : Type := stored.type.valueType.Value

/-- `Dataspace::UNKNOWN`, `BlendMode::NONE` and value-initialised structs. -/
def initial : (stored : StoredType) → stored.Value
  | dataspace => dataspaceUnknown
  | blendMode => blendModeNone
  | smpte2086 => some ⟨⟨0, 0⟩, ⟨0, 0⟩, ⟨0, 0⟩, ⟨0, 0⟩, 0, 0⟩
  | cta861_3 => some ⟨0, 0⟩

/-- The value that bytes are stored as. -/
def ofBytes : (stored : StoredType) → List Byte → stored.Value
  | dataspace, bytes | blendMode, bytes => rawWord bytes 0
  | smpte2086, bytes => some (rawSmpte2086 bytes)
  | cta861_3, bytes => some (rawCta861_3 bytes)

/-- The value a record holds. -/
def read : (stored : StoredType) → GrallocMetadata → stored.Value
  | dataspace, metadata => metadata.dataspace
  | blendMode, metadata => metadata.blendMode
  | smpte2086, metadata => some metadata.smpte2086
  | cta861_3, metadata => some metadata.cta861_3

/-- The size of the object a value is stored as. -/
def size : StoredType → Nat
  | dataspace | blendMode => 4
  | smpte2086 => 40
  | cta861_3 => 8

theorem read_initialMetadata (stored : StoredType) (fd : Fd) :
    stored.read (initialMetadata fd) = stored.initial := by
  cases stored <;> rfl

theorem type_ne_invalid (stored : StoredType) : stored.type ≠ .invalid := by
  cases stored <;> decide

theorem provideValue_eq (stored : StoredType) (s : Process) (buffer : Ptr) (native : NativeHandle)
    (metadata : GrallocMetadata) :
    provideValue s buffer native metadata stored.type = .ok (some (stored.read metadata)) := by
  cases stored <;> rfl

theorem value_injective {first second : StoredType} (h : first.type.value = second.type.value) :
    first = second := by
  have same := congrArg StandardMetadataType.ofValue h
  rw [StandardMetadataType.ofValue_value, StandardMetadataType.ofValue_value] at same
  cases first <;> cases second <;> first | rfl | cases same

/-- The record after a write that is accepted. -/
def write : StoredType → List Byte → GrallocMetadata → GrallocMetadata
  | dataspace, bytes, metadata => { metadata with dataspace := rawWord bytes 0 }
  | blendMode, bytes, metadata => { metadata with blendMode := rawWord bytes 0 }
  | smpte2086, bytes, metadata => { metadata with smpte2086 := rawSmpte2086 bytes }
  | cta861_3, bytes, metadata => { metadata with cta861_3 := rawCta861_3 bytes }

theorem read_write_self (stored : StoredType) (bytes : List Byte) (metadata : GrallocMetadata) :
    stored.read (stored.write bytes metadata) = stored.ofBytes bytes := by
  cases stored <;> rfl

theorem read_write_of_ne {stored other : StoredType} (h : other ≠ stored) (bytes : List Byte)
    (metadata : GrallocMetadata) :
    other.read (stored.write bytes metadata) = other.read metadata := by
  cases stored <;> cases other <;> first | rfl | exact absurd rfl h

/-- A write of a stored type is accepted by its size alone. -/
theorem applyMetadata_eq (stored : StoredType) (bytes : List Byte) (metadata : GrallocMetadata) :
    applyMetadata (some stored.type) bytes metadata =
      if bytes.length = stored.size then (.none, stored.write bytes metadata)
      else (.badValue, metadata) := by
  rw [← ite_not]
  cases stored <;> rfl

end StoredType

/-- A type that is not stored has its writes refused. -/
theorem applyMetadata_cases (type : Option StandardMetadataType) :
    (∃ stored : StoredType, type = some stored.type) ∨
      ∀ bytes metadata, (applyMetadata type bytes metadata).1 ≠ .none ∧
        (applyMetadata type bytes metadata).2 = metadata := by
  cases type with
  | none => exact .inr fun _ _ => ⟨nofun, rfl⟩
  | some type =>
      cases type with
      | dataspace => exact .inl ⟨.dataspace, rfl⟩
      | blendMode => exact .inl ⟨.blendMode, rfl⟩
      | smpte2086 => exact .inl ⟨.smpte2086, rfl⟩
      | cta861_3 => exact .inl ⟨.cta861_3, rfl⟩
      | _ => exact .inr fun _ _ => ⟨nofun, rfl⟩

/-- A write is refused and changes nothing, or it is of a stored type and size. -/
theorem applyMetadata_returns (type : Option StandardMetadataType) (bytes : List Byte)
    (metadata : GrallocMetadata) :
    ((applyMetadata type bytes metadata).1 ≠ .none ∧
        (applyMetadata type bytes metadata).2 = metadata) ∨
      ∃ stored : StoredType, type = some stored.type ∧
        applyMetadata type bytes metadata = (.none, stored.write bytes metadata) := by
  rcases applyMetadata_cases type with ⟨stored, rfl⟩ | refused
  · rw [stored.applyMetadata_eq]
    by_cases fits : bytes.length = stored.size
    · rw [if_pos fits]
      exact .inr ⟨stored, rfl, rfl⟩
    · rw [if_neg fits]
      exact .inl ⟨nofun, rfl⟩
  · exact .inl (refused bytes metadata)

/-! ## The store of a handle -/

/-- The bytes last stored for a type of a handle, after an event. -/
def MapperEvent.lastStored (handle : Ptr) (stored : StoredType) (event : MapperEvent)
    (last : Option (List Byte)) : Option (List Byte) :=
  if event.importedHandle = some handle then none
  else
    match event.accepted with
    | some (buffer, type, metadata) =>
        if buffer = handle ∧ type = stored.type.value then some metadata else last
    | none => last

/-- The bytes of the last accepted write of a type since the handle was imported. -/
def lastStored (handle : Ptr) (stored : StoredType) (history : List MapperEvent) :
    Option (List Byte) :=
  history.foldl (fun last event => event.lastStored handle stored last) none

/-- What a client expects to read. -/
def expectedValue (handle : Ptr) (stored : StoredType) (history : List MapperEvent) :
    stored.Value :=
  match lastStored handle stored history with
  | some bytes => stored.ofBytes bytes
  | none => stored.initial

theorem lastStored_append (handle : Ptr) (stored : StoredType) (history : List MapperEvent)
    (event : MapperEvent) :
    lastStored handle stored (history ++ [event]) =
      event.lastStored handle stored (lastStored handle stored history) := by
  simp [lastStored, List.foldl_append]

theorem expectedValue_imported {handle : Ptr} {history : List MapperEvent} {event : MapperEvent}
    (given : event.importedHandle = some handle) (stored : StoredType) :
    expectedValue handle stored (history ++ [event]) = stored.initial := by
  unfold expectedValue
  rw [lastStored_append, MapperEvent.lastStored, if_pos given]

/-- An event that neither imports the handle nor stores through it does not show. -/
theorem expectedValue_kept {handle : Ptr} {event : MapperEvent} {stored : StoredType}
    (noImport : event.importedHandle ≠ some handle)
    (noWrite : ∀ metadata, event.accepted ≠ some (handle, stored.type.value, metadata))
    (history : List MapperEvent) :
    expectedValue handle stored (history ++ [event]) = expectedValue handle stored history := by
  unfold expectedValue
  rw [lastStored_append, MapperEvent.lastStored, if_neg noImport]
  cases accepted : event.accepted with
  | none => rfl
  | some write =>
      obtain ⟨buffer, type, metadata⟩ := write
      simp only
      rw [if_neg]
      rintro ⟨rfl, rfl⟩
      exact noWrite metadata accepted

theorem expectedValue_stored {handle : Ptr} {event : MapperEvent} {stored : StoredType}
    {metadata : List Byte} (noImport : event.importedHandle ≠ some handle)
    (write : event.accepted = some (handle, stored.type.value, metadata))
    (history : List MapperEvent) :
    expectedValue handle stored (history ++ [event]) = stored.ofBytes metadata := by
  unfold expectedValue
  rw [lastStored_append, MapperEvent.lastStored, if_neg noImport, write]
  simp

/-! ## The records are the stores -/

/-- Every record holds what the store of its handle does. -/
def RecordsMatch (imports : List Import) (m : MapperState) (history : List MapperEvent) : Prop :=
  ∀ entry ∈ imports, ∀ stored : StoredType,
    stored.read (m.record entry.primeFd) = expectedValue entry.handle stored history

namespace RecordsMatch

variable {base : Process} {imports imports' : List Import} {m m' : MapperState}
  {history : List MapperEvent} {event : MapperEvent}

theorem congr (h : RecordsMatch imports m history)
    (records : ∀ entry ∈ imports, m'.record entry.primeFd = m.record entry.primeFd)
    (noImport : event.importedHandle = none) (noWrite : event.accepted = none) :
    RecordsMatch imports m' (history ++ [event]) := by
  intro entry hmem stored
  rw [records entry hmem, h entry hmem stored, expectedValue_kept]
  · rw [noImport]
    exact nofun
  · rw [noWrite]
    exact nofun

/-- A write moves the record of its handle and the store of its handle alike. -/
theorem written (h : RecordsMatch imports m history) (ledger : Ledger base imports m)
    {entry : Import} {type : BitVec 64} {metadata : List Byte} (hmem : entry ∈ imports)
    (hcall : event.call = .setStandardMetadata entry.handle type metadata)
    (hresult : event.result = .written
      (applyMetadata (StandardMetadataType.ofValue type) metadata (m.record entry.primeFd)).1) :
    RecordsMatch imports
      (m.setRecord entry.primeFd
        (applyMetadata (StandardMetadataType.ofValue type) metadata (m.record entry.primeFd)).2)
      (history ++ [event]) := by
  obtain ⟨call, result⟩ := event
  simp only at hcall hresult
  subst hcall hresult
  rcases applyMetadata_returns (StandardMetadataType.ofValue type) metadata
      (m.record entry.primeFd) with ⟨refused, unchanged⟩ | ⟨written, hwritten, accepted⟩
  · rw [unchanged]
    refine h.congr (fun other _ => m.record_setRecord_record ..) rfl ?_
    cases error : (applyMetadata (StandardMetadataType.ofValue type) metadata
      (m.record entry.primeFd)).1 with
    | none => exact absurd error refused
    | _ => rfl
  rw [accepted]
  obtain rfl := StandardMetadataType.ofValue_eq_some.mp hwritten
  have noImport (handle : Ptr) :
      MapperEvent.importedHandle ⟨.setStandardMetadata entry.handle written.type.value metadata,
        .written .none⟩ ≠ some handle := nofun
  intro other hother stored
  by_cases same : other.handle = entry.handle
  · obtain rfl := Ledger.entry_eq ledger.distinctHandles hother hmem same
    rw [MapperState.record_setRecord_self]
    by_cases sameType : stored = written
    · subst sameType
      rw [stored.read_write_self, expectedValue_stored (noImport _) rfl]
    · rw [StoredType.read_write_of_ne sameType, h other hother stored,
        expectedValue_kept (noImport _)]
      intro bytes write
      simp only [MapperEvent.accepted, Option.some.injEq, Prod.mk.injEq, true_and] at write
      exact sameType (StoredType.value_injective write.1.symm)
  · have otherFd : other.primeFd ≠ entry.primeFd := by
      intro sameFd
      exact same (congrArg Import.handle
        (Ledger.entry_eq ledger.distinctFds hother hmem sameFd))
    rw [MapperState.record_setRecord_of_ne _ _ _ otherFd, h other hother stored,
      expectedValue_kept (noImport _)]
    intro bytes write
    simp only [MapperEvent.accepted, Option.some.injEq, Prod.mk.injEq] at write
    exact same write.1.symm

theorem step (h : RecordsMatch imports m history) (ledger : Ledger base imports m)
    (after : Ledger base imports' m') (hstep : LedgerStep m imports event m' imports') :
    RecordsMatch imports' m' (history ++ [event]) := by
  cases hstep with
  | kept noImport noWrite metadata =>
      refine h.congr (fun entry _ => ?_) noImport noWrite
      rw [MapperState.record, metadata]
      rfl
  | @imported entry given noWrite closed metadata =>
      intro other hother stored
      rcases List.mem_append.mp hother with before | new
      · have different : entry.handle ≠ other.handle := by
          have distinct := after.distinctHandles
          rw [List.map_append, List.nodup_append] at distinct
          exact (distinct.2.2 _ (List.mem_map_of_mem before) _ (List.mem_singleton_self _)).symm
        rw [MapperState.record, metadata]
        change stored.read (m.record other.primeFd) = _
        rw [h other before stored, expectedValue_kept]
        · rw [given]
          exact fun same => different (Option.some.inj same)
        · intro bytes write
          cases noWrite.symm.trans write
      · cases List.mem_singleton.mp new
        have fresh : m.metadataMap entry.primeFd = none := by
          by_contra stale
          obtain ⟨old, hold, same⟩ := List.mem_map.mp (ledger.metadata _ stale)
          rw [← same, ledger.opened hold] at closed
          cases closed
        rw [expectedValue_imported given, MapperState.record, metadata, fresh]
        exact stored.read_initialMetadata _
  | @freed entry hmem noImport noWrite metadata =>
      have kept : RecordsMatch (imports.filter fun other => other.handle ≠ entry.handle) m
          history := fun other hother => h other (List.mem_filter.mp hother).1
      refine kept.congr (fun other hother => ?_) noImport noWrite
      obtain ⟨hother, different⟩ := List.mem_filter.mp hother
      have otherFd : other.primeFd ≠ entry.primeFd := by
        intro sameFd
        rw [Ledger.entry_eq ledger.distinctFds hother hmem sameFd] at different
        simp at different
      rw [MapperState.record, metadata, Function.update_of_ne otherFd]
      rfl
  | read hmem noImport noWrite metadata =>
      subst metadata
      exact h.congr (fun other _ => m.record_setRecord_record ..) noImport noWrite
  | written hmem hcall hresult stored =>
      subst stored
      exact h.written ledger hmem hcall hresult

end RecordsMatch

/-- The buffers of a session with their records and origins, along every run. -/
theorem mapperSystem_history {first last : Session} {labels : List MapperEvent}
    (initial : mapperSystem.initial first) (run : Run mapperSystem first labels last) :
    ∃ imports, Ledger first.mapper.process imports last.mapper ∧
      last.outstanding = imports.map Import.handle ∧ RecordsMatch imports last.mapper labels ∧
      Originated imports labels := by
  obtain ⟨none, env, s, unused, constructed⟩ := initial
  refine run.history_invariant
    (fun history session => ∃ imports, Ledger first.mapper.process imports session.mapper ∧
      session.outstanding = imports.map Import.handle ∧
      RecordsMatch imports session.mapper history ∧ Originated imports history)
    ⟨[], ?_, none, ?_, ?_⟩ ?_
  · rw [constructed]
    exact .initial unused
  · intro entry hmem
    cases hmem
  · intro entry hmem
    cases hmem
  · rintro history state event next ⟨imports, ledger, outstanding, records, origins⟩ hstep
    obtain ⟨imports', moved, ledger', outstanding'⟩ := ledger.step outstanding hstep
    exact ⟨imports', ledger', outstanding', records.step ledger ledger' moved,
      origins.step ledger ledger' hstep moved⟩

/-- Along every run, a read of a stored type gives the encoding of what was last
stored through its handle, and of the initial value before that. -/
theorem mapperSystem_metadata {first last : Session} {labels : List MapperEvent}
    (initial : mapperSystem.initial first) (run : Run mapperSystem first labels last)
    {handle : Ptr} (held : handle ∈ last.outstanding) (stored : StoredType) (outDataSize : Nat) :
    ∃ m', getStandardMetadata last.mapper handle stored.type.value outDataSize =
      .ok ((encode stored.type (expectedValue handle stored labels) outDataSize).1,
        (encode stored.type (expectedValue handle stored labels) outDataSize).2, m') := by
  obtain ⟨imports, ledger, outstanding, records, -⟩ := mapperSystem_history initial run
  rw [outstanding] at held
  obtain ⟨entry, hmem, rfl⟩ := List.mem_map.mp held
  refine ⟨last.mapper.setRecord entry.primeFd (last.mapper.record entry.primeFd), ?_⟩
  rw [(ledger.readable hmem).getStandardMetadata_eq stored.type_ne_invalid,
    stored.provideValue_eq, records entry hmem stored]
  rfl

def clientWrite : MapperCall :=
  .setStandardMetadata 16 StandardMetadataType.dataspace.value [1#8, 2#8, 0#8, 0#8]

theorem mapperSystem_metadata_dataspace :
    ∃ m', getStandardMetadata (importedSession.next clientWrite).mapper 16
        StandardMetadataType.dataspace.value 128 =
      .ok ((encode .dataspace 0x201#32 128).1, (encode .dataspace 0x201#32 128).2, m') := by
  have hwrite : mapperSystem.step importedSession ⟨clientWrite, .written .none⟩
      (importedSession.next clientWrite) :=
    Session.next_step (show 16 ∈ importedSession.outstanding by decide +kernel)
      (by decide +kernel)
  have held : 16 ∈ (importedSession.next clientWrite).outstanding := by decide +kernel
  have expected : expectedValue 16 .dataspace
      [⟨clientImport, .imported .none (some 16)⟩, ⟨clientWrite, .written .none⟩] = 0x201#32 :=
    rfl
  rw [← expected]
  exact mapperSystem_metadata startedSession_initial
    ((Run.single importedSession_step).tail hwrite) held .dataspace 128

end GrallocGbmMesa.Mapper
