import GrallocGbmMesa.Mapper.Reports
import GrallocGbmMesa.Mapper.RoundTrip
import GrallocGbmMesa.Mapper.GetterReturns

/-!
# Two imports of one buffer

A client may import copies of one raw handle more than once.  The words of the
handle are shared by all imports; the address it is known by and the record of
its metadata are those of one import.
-/

namespace GrallocGbmMesa.Mapper

open ByteStream Checked TransitionSystem
open GrallocGbmMesa.Platform GrallocGbmMesa.Core

/-- What a read returns and leaves in the memory of the caller. -/
def MapperState.read (m : MapperState) (handle : Ptr) (type : BitVec 64) (outDataSize : Nat) :
    Except Fault (Int × List Byte) := do
  let (size, bytes, _) ← getStandardMetadata m handle type outDataSize
  return (size, bytes)

/-- A read through the first handle before gives what one through the second gives after. -/
def SameReads (before : MapperState) (first : Ptr) (after : MapperState) (second : Ptr)
    (type : BitVec 64) : Prop :=
  ∀ outDataSize, before.read first type outDataSize = after.read second type outDataSize

/-- What is stored through the first handle is read through the second. -/
def WriteShows (m : MapperState) (first second : Ptr) (type : BitVec 64) (bytes : List Byte) :
    Prop :=
  ∀ m', setStandardMetadata m first type bytes = .ok (.none, m') →
    ∃ stored : StoredType, type = stored.type.value ∧
      Reports m' second stored.type (stored.ofBytes bytes)

/-- Freeing the first handle leaves what is read through the second. -/
def FreeKeeps (m : MapperState) (first second : Ptr) : Prop :=
  ∀ errno m', freeBuffer errno m first = .ok (.none, m') →
    ∀ type, SameReads m second m' second type

/-- What two imports of a buffer have to agree on to agree on a type. -/
def Agree (s : Process) (history : List MapperEvent) (first second : Ptr) :
    StandardMetadataType → Prop
  | .bufferId => BitVec.ofNat 64 first = BitVec.ofNat 64 second
  | .allocationSize => ∀ p q bo bo', Buffer s first p bo → Buffer s second q bo' →
      bo.stride * bo.height = bo'.stride * bo'.height
  | .dataspace =>
      expectedValue first .dataspace history = expectedValue second .dataspace history
  | .blendMode =>
      expectedValue first .blendMode history = expectedValue second .blendMode history
  | .smpte2086 =>
      expectedValue first .smpte2086 history = expectedValue second .smpte2086 history
  | .cta861_3 =>
      expectedValue first .cta861_3 history = expectedValue second .cta861_3 history
  | _ => True

/-! ## Reads -/

/-- What a provider has, as it is returned. -/
def answerOf (type : StandardMetadataType) (outDataSize : Nat) :
    Option type.valueType.Value → Int × List Byte
  | none => (AIMapperError.unsupported.code, [])
  | some value => encode type value outDataSize

theorem Readable.read_eq {m : MapperState} {buffer : Ptr} {native : NativeHandle} {fd : Fd}
    (h : Readable m buffer native fd) {type : StandardMetadataType} (valid : type ≠ .invalid)
    (outDataSize : Nat) :
    m.read buffer type.value outDataSize =
      (provideValue m.process buffer native (m.record fd) type).map
        (answerOf type outDataSize) := by
  unfold MapperState.read
  rw [h.getStandardMetadata_eq valid]
  cases provideValue m.process buffer native (m.record fd) type with
  | error fault => rfl
  | ok value => cases value <;> rfl

theorem Readable.read_unknown {m : MapperState} {buffer : Ptr} {native : NativeHandle} {fd : Fd}
    (h : Readable m buffer native fd) {type : BitVec 64}
    (unknown : StandardMetadataType.ofValue type = none ∨
      StandardMetadataType.ofValue type = some .invalid) (outDataSize : Nat) :
    m.read buffer type outDataSize = .ok (-AIMapperError.unsupported.code, []) := by
  unfold MapperState.read
  rw [h.getStandardMetadata_unknown unknown]
  rfl

section Reads

variable {m m' : MapperState} {first second : Ptr} {native native' : NativeHandle} {fd fd' : Fd}
  (before : Readable m first native fd) (after : Readable m' second native' fd')
include before after

/-- Handles whose providers agree read the same. -/
theorem sameReads_of_provided {type : StandardMetadataType}
    (same : provideValue m.process first native (m.record fd) type =
      provideValue m'.process second native' (m'.record fd') type) :
    SameReads m first m' second type.value := by
  intro outDataSize
  by_cases valid : type = .invalid
  · subst valid
    have refused : StandardMetadataType.ofValue StandardMetadataType.invalid.value = none ∨
        StandardMetadataType.ofValue StandardMetadataType.invalid.value = some .invalid :=
      .inr (StandardMetadataType.ofValue_value .invalid)
    rw [before.read_unknown refused, after.read_unknown refused]
  · rw [before.read_eq valid, after.read_eq valid, same]

/-- A type whose encoding tells its values apart reads the same exactly for the same value. -/
theorem sameReads_iff_value {type : StandardMetadataType} {value value' : type.valueType.Value}
    (valid : type ≠ .invalid)
    (provided : provideValue m.process first native (m.record fd) type = .ok (some value))
    (provided' : provideValue m'.process second native' (m'.record fd') type = .ok (some value'))
    (injective : encoding type value = encoding type value' → value = value') :
    SameReads m first m' second type.value ↔ value = value' := by
  constructor
  · intro same
    have fits := provided_fits provided
    have fits' := provided_fits provided'
    have read := same (max (encoding type value).length (encoding type value').length)
    rw [before.read_eq valid, after.read_eq valid, provided, provided'] at read
    have bytes := congrArg Prod.snd (Except.ok.inj read)
    change (encode type value _).2 = (encode type value' _).2 at bytes
    rw [encode_output fits (Nat.le_max_left ..), encode_output fits' (Nat.le_max_right ..)]
      at bytes
    exact injective bytes
  · rintro rfl
    exact sameReads_of_provided before after (provided.trans provided'.symm)

end Reads

theorem encoding_injective_int64 {type : StandardMetadataType} {value value' : type.valueType.Value}
    {word word' : BitVec 64} (payload : type.valueType.payload value = some (writeInt64 word))
    (payload' : type.valueType.payload value' = some (writeInt64 word'))
    (same : encoding type value = encoding type value') : word = word' := by
  rw [(encoding_int64 payload).1, (encoding_int64 payload').1] at same
  exact writeInt64_injective same

theorem StoredType.encoding_injective (stored : StoredType) {value value' : stored.Value}
    (same : encoding stored.type value = encoding stored.type value') : value = value' :=
  Mapper.encoding_injective (stored.decodable noRoom value) (stored.decodable noRoom value') same

theorem StoredType.encoding_fits (stored : StoredType) (value : stored.Value) :
    (encoding stored.type value).length ≤ intMax := by
  have present (type : StandardMetadataType) {value : type.valueType.Value}
      {payload : List (List Byte)} (h : type.valueType.payload value = some payload)
      (small : payload.flatten.length ≤ 40) : (encoding type value).length ≤ intMax := by
    rw [encoding_length h]
    have : intMax = 2147483647 := rfl
    omega
  have absent : (0 : Int) ≤ intMax := by decide
  have word (value : Word) : (writeInt32 value).flatten.length ≤ 40 := by simp [writeInt32]
  cases stored with
  | dataspace => exact present .dataspace rfl (word value)
  | blendMode => exact present .blendMode rfl (word value)
  | smpte2086 =>
      cases value with
      | none => exact absent
      | some object =>
          exact present .smpte2086 rfl (by simp [writeSmpte2086, writeXyColor, writeInt32])
  | cta861_3 =>
      cases value with
      | none => exact absent
      | some object => exact present .cta861_3 rfl (by simp [writeCta861_3, writeInt32])

/-- Types that are read off the words of the handle, or are constant. -/
def Shared (type : StandardMetadataType) : Prop :=
  type ≠ .bufferId ∧ type ≠ .allocationSize ∧ ∀ stored : StoredType, type ≠ stored.type

/-- Such a type is provided from the ints of the handle alone. -/
theorem Shared.provideValue_eq {type : StandardMetadataType} (h : Shared type) (s s' : Process)
    (first second : Ptr) (fd fd' : Fd) (ints : List Word) (record record' : GrallocMetadata) :
    provideValue s first { fds := [fd], ints } record type =
      provideValue s' second { fds := [fd'], ints } record' type := by
  obtain ⟨noId, noSize, notStored⟩ := h
  cases type with
  | bufferId => exact absurd rfl noId
  | allocationSize => exact absurd rfl noSize
  | dataspace => exact absurd rfl (notStored .dataspace)
  | blendMode => exact absurd rfl (notStored .blendMode)
  | smpte2086 => exact absurd rfl (notStored .smpte2086)
  | cta861_3 => exact absurd rfl (notStored .cta861_3)
  | _ => rfl

namespace Ledger

variable {base : Process} {imports : List Import} {m : MapperState} {first second : Import}

/-- What is provided as the allocation size. -/
theorem allocationSize_provided (h : Ledger base imports m) {entry : Import}
    (hmem : entry ∈ imports) :
    ∃ bo, Buffer m.process entry.handle entry.bo bo ∧
      ∀ native metadata, provideValue m.process entry.handle native metadata .allocationSize =
        .ok (some ((bo.stride * bo.height).setWidth 64)) := by
  obtain ⟨bo, hbo⟩ := Option.ne_none_iff_exists'.mp (h.live hmem)
  have registered := h.registered hmem
  refine ⟨bo, ⟨registered, hbo⟩, fun native metadata => ?_⟩
  simp only [provideValue, grallocGetGbmBoFromHandle, registered, Process.bo_eq_ok.mpr hbo,
    ok_bind]
  rfl

section Pair

variable {history : List MapperEvent} (h : Ledger base imports m) (hfirst : first ∈ imports)
  (hsecond : second ∈ imports)
include h hfirst hsecond

/-- Two buffers report one allocation size exactly if gbm gives their BOs one. -/
theorem sameReads_allocationSize :
    SameReads m first.handle m second.handle StandardMetadataType.allocationSize.value ↔
      Agree m.process history first.handle second.handle .allocationSize := by
  obtain ⟨bo, buffer, provided⟩ := h.allocationSize_provided hfirst
  obtain ⟨bo', buffer', provided'⟩ := h.allocationSize_provided hsecond
  rw [sameReads_iff_value (h.readable hfirst) (h.readable hsecond)
    (show StandardMetadataType.allocationSize ≠ .invalid by decide) (provided _ _)
    (provided' _ _) (@encoding_injective_int64 .allocationSize _ _ _ _ rfl rfl)]
  constructor
  · intro same p q bo₁ bo₂ buffer₁ buffer₂
    obtain ⟨rfl, rfl⟩ := buffer.unique buffer₁
    obtain ⟨rfl, rfl⟩ := buffer'.unique buffer₂
    have low := congrArg (BitVec.setWidth 32) same
    rwa [BitVec.setWidth_setWidth_of_le _ (by decide), BitVec.setWidth_setWidth_of_le _ (by decide),
      BitVec.setWidth_eq, BitVec.setWidth_eq] at low
  · intro agree
    rw [agree _ _ _ _ buffer buffer']

theorem sameReads_stored (records : RecordsMatch imports m history) (stored : StoredType) :
    SameReads m first.handle m second.handle stored.type.value ↔
      expectedValue first.handle stored history = expectedValue second.handle stored history := by
  have valid : stored.type ≠ .invalid := by cases stored <;> nofun
  rw [sameReads_iff_value (h.readable hfirst) (h.readable hsecond) valid
    (stored.provideValue_eq ..) (stored.provideValue_eq ..) stored.encoding_injective,
    records first hfirst stored, records second hsecond stored]

/-- Two buffers with the same ints read the same of a type exactly if they agree on it. -/
theorem sameReads_iff (records : RecordsMatch imports m history)
    (ints : first.ints = second.ints) (type : StandardMetadataType) :
    SameReads m first.handle m second.handle type.value ↔
      Agree m.process history first.handle second.handle type := by
  by_cases shared : Shared type
  · have agree : Agree m.process history first.handle second.handle type := by
      obtain ⟨noId, noSize, notStored⟩ := shared
      cases type with
      | bufferId => exact absurd rfl noId
      | allocationSize => exact absurd rfl noSize
      | dataspace => exact absurd rfl (notStored .dataspace)
      | blendMode => exact absurd rfl (notStored .blendMode)
      | smpte2086 => exact absurd rfl (notStored .smpte2086)
      | cta861_3 => exact absurd rfl (notStored .cta861_3)
      | _ => exact trivial
    refine iff_of_true (sameReads_of_provided (h.readable hfirst) (h.readable hsecond) ?_) agree
    unfold Import.native
    rw [ints]
    exact shared.provideValue_eq ..
  · cases type with
    | bufferId =>
        exact sameReads_iff_value (h.readable hfirst) (h.readable hsecond) nofun rfl rfl
          (@encoding_injective_int64 .bufferId _ _ _ _ rfl rfl)
    | allocationSize => exact h.sameReads_allocationSize hfirst hsecond
    | dataspace => exact h.sameReads_stored hfirst hsecond records .dataspace
    | blendMode => exact h.sameReads_stored hfirst hsecond records .blendMode
    | smpte2086 => exact h.sameReads_stored hfirst hsecond records .smpte2086
    | cta861_3 => exact h.sameReads_stored hfirst hsecond records .cta861_3
    | _ => exact absurd ⟨nofun, nofun, by rintro (_ | _ | _ | _) <;> nofun⟩ shared

/-- What the second buffer reads of a type after a write of it through the first. -/
theorem reports_written (stored : StoredType) (bytes : List Byte) :
    Reports (m.setRecord first.primeFd (stored.write bytes (m.record first.primeFd)))
      second.handle stored.type
      (if first.handle = second.handle then stored.ofBytes bytes
        else stored.read (m.record second.primeFd)) := by
  have valid : stored.type ≠ .invalid := by cases stored <;> nofun
  refine (h.setRecord hfirst _).reports hsecond valid ?_
  rw [stored.provideValue_eq]
  by_cases same : first.handle = second.handle
  · obtain rfl := entry_eq h.distinctHandles hfirst hsecond same
    rw [if_pos rfl, MapperState.record_setRecord_self, stored.read_write_self]
  · have otherFd : second.primeFd ≠ first.primeFd := by
      intro sameFd
      exact same (congrArg Import.handle (entry_eq h.distinctFds hfirst hsecond sameFd.symm))
    rw [if_neg same, MapperState.record_setRecord_of_ne _ _ _ otherFd]

/-- A write through one buffer shows through itself, and through another one
only what that one reads already. -/
theorem writeShows_iff (records : RecordsMatch imports m history) (type : BitVec 64)
    (bytes : List Byte) :
    WriteShows m first.handle second.handle type bytes ↔
      ∀ stored : StoredType, type = stored.type.value → bytes.length = stored.size →
        first.handle = second.handle ∨
          expectedValue second.handle stored history = stored.ofBytes bytes := by
  constructor
  · rintro shows stored rfl fits
    by_cases same : first.handle = second.handle
    · exact .inl same
    have accepted := h.setStored hfirst stored bytes
    rw [if_pos fits] at accepted
    obtain ⟨shown, sameType, reports⟩ := shows _ accepted
    obtain rfl := StoredType.value_injective sameType.symm
    have reads := h.reports_written hfirst hsecond shown bytes
    rw [if_neg same] at reads
    rw [← records second hsecond shown]
    exact .inr (shown.encoding_injective
      (reads.encoding_eq reports (shown.encoding_fits _) (shown.encoding_fits _)))
  · intro agree m' accepted
    rw [(h.readable hfirst).setStandardMetadata_eq] at accepted
    obtain ⟨error, after⟩ := Prod.mk.inj (Except.ok.inj accepted)
    rcases applyMetadata_returns (StandardMetadataType.ofValue type) bytes
        (m.record first.primeFd) with ⟨refused, -⟩ | ⟨stored, known, written⟩
    · exact absurd error refused
    obtain rfl := StandardMetadataType.ofValue_eq_some.mp known
    have fits : bytes.length = stored.size := by
      by_contra other
      rw [known, stored.applyMetadata_eq, if_neg other] at written
      cases written
    refine ⟨stored, rfl, ?_⟩
    rw [written] at after
    have reads := h.reports_written hfirst hsecond stored bytes
    by_cases same : first.handle = second.handle
    · rwa [if_pos same, after] at reads
    · have value := (agree stored rfl fits).resolve_left same
      rwa [if_neg same, records second hsecond stored, value, after] at reads

/-- A free of one buffer shows through no other. -/
theorem freeKeeps (different : first.handle ≠ second.handle) :
    FreeKeeps m first.handle second.handle := by
  intro errno m' freed type
  have valid := h.valid first hfirst
  have performed := freeBuffer_registered (h.initialized first hfirst) valid.nonNull
    (h.registered hfirst) (h.live hfirst) (h.native hfirst) valid.wellFormed.covers rfl errno
  obtain ⟨-, after⟩ := Prod.mk.inj (Except.ok.inj (performed.symm.trans freed))
  have remains : second ∈ imports.filter fun other => other.handle ≠ first.handle :=
    List.mem_filter.mpr ⟨hsecond, by simpa using different.symm⟩
  have ledger' : Ledger base _ m' := after ▸ h.remove hfirst
  by_cases unknown : StandardMetadataType.ofValue type = none ∨
      StandardMetadataType.ofValue type = some .invalid
  · intro outDataSize
    rw [(h.readable hsecond).read_unknown unknown, (ledger'.readable remains).read_unknown unknown]
  rw [not_or] at unknown
  obtain ⟨known, hknown⟩ := Option.ne_none_iff_exists'.mp unknown.1
  obtain rfl := StandardMetadataType.ofValue_eq_some.mp hknown
  refine sameReads_of_provided (h.readable hsecond) (ledger'.readable remains) ?_
  by_cases shared : Shared known
  · exact shared.provideValue_eq ..
  have otherFd : second.primeFd ≠ first.primeFd := by
    intro sameFd
    exact different (congrArg Import.handle (entry_eq h.distinctFds hfirst hsecond sameFd.symm))
  have otherBo : second.bo ≠ first.bo := by
    intro sameBo
    exact different (congrArg Import.handle (entry_eq h.distinctBos hfirst hsecond sameBo.symm))
  cases known with
  | bufferId => rfl
  | allocationSize =>
      obtain ⟨bo, ⟨-, before⟩, provided⟩ := h.allocationSize_provided hsecond
      obtain ⟨bo', ⟨-, kept⟩, provided'⟩ := ledger'.allocationSize_provided remains
      rw [← after] at kept
      change Function.update m.process.bos first.bo none second.bo = some bo' at kept
      rw [Function.update_of_ne otherBo, before] at kept
      cases kept
      rw [provided, provided']
  | dataspace | blendMode | smpte2086 | cta861_3 =>
      have record : m'.record second.primeFd = m.record second.primeFd := by
        rw [← after]
        exact congrArg (fun stored => stored.getD (initialMetadata second.primeFd))
          (Function.update_of_ne otherFd none m.metadataMap)
      rw [record]
      rfl
  | _ => exact absurd ⟨nofun, nofun, by rintro (_ | _ | _ | _) <;> nofun⟩ shared

end Pair

end Ledger

/-- What two imports of one allocated buffer show of each other, along every run.
Its raw handles are copies of one handle and differ in their descriptors. -/
theorem sharedBuffer_iff {first last : Session} {labels : List MapperEvent}
    (initial : mapperSystem.initial first) (run : Run mapperSystem first labels last)
    {h₁ h₂ : Ptr} (held₁ : h₁ ∈ last.outstanding) (held₂ : h₂ ∈ last.outstanding)
    {raw₁ raw₂ : NativeHandle} (origin₁ : origin h₁ labels = some raw₁)
    (origin₂ : origin h₂ labels = some raw₂) (copies : raw₁.ints = raw₂.ints) :
    (∀ type : StandardMetadataType, SameReads last.mapper h₁ last.mapper h₂ type.value ↔
        Agree last.mapper.process labels h₁ h₂ type) ∧
      (∀ type bytes, WriteShows last.mapper h₁ h₂ type bytes ↔
        ∀ stored : StoredType, type = stored.type.value → bytes.length = stored.size →
          h₁ = h₂ ∨ expectedValue h₂ stored labels = stored.ofBytes bytes) ∧
      (h₁ ≠ h₂ → FreeKeeps last.mapper h₁ h₂) := by
  obtain ⟨imports, ledger, outstanding, records, origins⟩ := mapperSystem_history initial run
  rw [outstanding] at held₁ held₂
  obtain ⟨entry₁, hmem₁, rfl⟩ := List.mem_map.mp held₁
  obtain ⟨entry₂, hmem₂, rfl⟩ := List.mem_map.mp held₂
  have ints : entry₁.ints = entry₂.ints := by
    obtain ⟨source₁, horigin₁, same₁⟩ := origins entry₁ hmem₁
    obtain ⟨source₂, horigin₂, same₂⟩ := origins entry₂ hmem₂
    cases origin₁.symm.trans horigin₁
    cases origin₂.symm.trans horigin₂
    exact same₁.symm.trans (copies.trans same₂)
  exact ⟨ledger.sameReads_iff hmem₁ hmem₂ records ints,
    ledger.writeShows_iff hmem₁ hmem₂ records, ledger.freeKeeps hmem₁ hmem₂⟩

/-- The client imports its handle once more. -/
def clientReimport : MapperCall :=
  .importBuffer clientHandle
    { clone := some (48, [9#32])
      gbm := { createdDevice := 0, newBo := some ⟨64, 256#32, 0⟩ } }

def sharedSession : Session := importedSession.next clientReimport

def sharedLabels : List MapperEvent :=
  [⟨clientImport, .imported .none (some 16)⟩, ⟨clientReimport, .imported .none (some 48)⟩]

theorem sharedSession_run : Run mapperSystem startedSession sharedLabels sharedSession := by
  refine (Run.single importedSession_step).tail (Session.next_step ⟨by decide, ?_, ?_, ?_⟩
    (by decide +kernel))
  · rintro p fds ⟨⟩
    exact ⟨by decide, rfl⟩
  · rintro p fds ⟨⟩
    refine ⟨List.nodup_singleton _, ?_⟩
    intro fd hmem
    rw [List.mem_singleton.mp hmem]
    exact ⟨by decide, rfl⟩
  · rintro new ⟨⟩
    rfl

theorem sharedSession_outstanding : sharedSession.outstanding = [16, 48] := by decide +kernel

theorem sharedBuffer_iff_client :
    (∀ type : StandardMetadataType,
      SameReads sharedSession.mapper 16 sharedSession.mapper 48 type.value ↔
        Agree sharedSession.mapper.process sharedLabels 16 48 type) ∧
      FreeKeeps sharedSession.mapper 16 48 := by
  have held : 16 ∈ sharedSession.outstanding ∧ 48 ∈ sharedSession.outstanding := by
    rw [sharedSession_outstanding]
    decide
  have imported : origin 16 sharedLabels = some clientHandle ∧
      origin 48 sharedLabels = some clientHandle := ⟨rfl, rfl⟩
  obtain ⟨reads, -, frees⟩ := sharedBuffer_iff startedSession_initial sharedSession_run held.1
    held.2 imported.1 imported.2 rfl
  exact ⟨reads, frees (by decide)⟩

/-- A client that imports one handle twice reads two ids, and a dataspace that it
stores through the first import is not read through the second. -/
theorem sharedBuffer_apart :
    Run mapperSystem startedSession sharedLabels sharedSession ∧
      sharedSession.outstanding = [16, 48] ∧ origin 16 sharedLabels = some clientHandle ∧
      origin 48 sharedLabels = some clientHandle ∧
      ¬ SameReads sharedSession.mapper 16 sharedSession.mapper 48
        StandardMetadataType.bufferId.value ∧
      ¬ WriteShows sharedSession.mapper 16 48 StandardMetadataType.dataspace.value
        [1#8, 2#8, 0#8, 0#8] := by
  refine ⟨sharedSession_run, sharedSession_outstanding, rfl, rfl, ?_⟩
  obtain ⟨imports, ledger, outstanding, records, origins⟩ :=
    mapperSystem_history startedSession_initial sharedSession_run
  rw [sharedSession_outstanding] at outstanding
  have held (handle : Ptr) (hmem : handle ∈ [16, 48]) : ∃ entry ∈ imports,
      entry.handle = handle := by
    rw [outstanding] at hmem
    exact List.mem_map.mp hmem
  obtain ⟨first, hfirst, handle₁⟩ := held 16 (by decide)
  obtain ⟨second, hsecond, handle₂⟩ := held 48 (by decide)
  have ints : first.ints = second.ints := by
    obtain ⟨raw₁, horigin₁, same₁⟩ := origins first hfirst
    obtain ⟨raw₂, horigin₂, same₂⟩ := origins second hsecond
    rw [handle₁] at horigin₁
    rw [handle₂] at horigin₂
    cases horigin₁
    cases horigin₂
    exact same₁.symm.trans same₂
  rw [← handle₁, ← handle₂]
  constructor
  · rw [ledger.sameReads_iff hfirst hsecond records ints, handle₁, handle₂]
    exact (by decide : ¬ BitVec.ofNat 64 16 = BitVec.ofNat 64 48)
  · rw [ledger.writeShows_iff hfirst hsecond records, handle₁, handle₂]
    intro shows
    rcases shows .dataspace rfl rfl with same | stored
    · exact absurd same (by decide)
    · have initial : expectedValue 48 .dataspace sharedLabels = 0#32 := rfl
      have written : StoredType.dataspace.ofBytes [1#8, 2#8, 0#8, 0#8] = 0x201#32 := rfl
      have clash : (0#32 : Word) = 0x201#32 := initial.symm.trans (stored.trans written)
      exact absurd clash (by decide)

end GrallocGbmMesa.Mapper
