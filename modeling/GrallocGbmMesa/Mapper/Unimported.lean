import GrallocGbmMesa.Mapper.GetterReturns
import GrallocGbmMesa.Mapper.StrayRecords

/-!
# Handles that are not imported

Only unlock rejects a handle that is not imported for what it is.  The metadata
calls take such a handle for a buffer and keep a record for the number of its
descriptor, which the next import may be given.
-/

namespace GrallocGbmMesa.Mapper

open ByteStream Checked PartialMap TransitionSystem
open GrallocGbmMesa.Platform GrallocGbmMesa.Core

/-- The calls on a buffer that is expected to be imported. -/
inductive HandleCall where
  | lock (cpuUsage : BitVec 64) (region : ARect) (fence : Option (Fd × FileId))
      (answer : GbmMapResult)
  | unlock
  | getStandardMetadata (type : BitVec 64) (outDataSize : Nat)
  | setStandardMetadata (type : BitVec 64) (metadata : List Byte)
  | getReservedRegion

namespace HandleCall

/-- The number that is returned, and the state after the call. -/
def perform (m : MapperState) (buffer : Ptr) : HandleCall → Except Fault (Int × MapperState)
  | lock cpuUsage region fence answer => do
      let (fd, m) := receiveFence m fence
      let (error, _, m) ← Mapper.lock answer m buffer cpuUsage region fd
      return (error.code, m)
  | unlock => do
      let (error, _, m) ← Mapper.unlock m buffer
      return (error.code, m)
  | getStandardMetadata type outDataSize => do
      let (size, _, m) ← Mapper.getStandardMetadata m buffer type outDataSize
      return (size, m)
  | setStandardMetadata type metadata => do
      let (error, m) ← Mapper.setStandardMetadata m buffer type metadata
      return (error.code, m)
  | getReservedRegion =>
      let (error, _, m) := Mapper.getReservedRegion m buffer
      .ok (error.code, m)

/-- `BAD_BUFFER`, which a getter negates. -/
def badBuffer : HandleCall → Int
  | getStandardMetadata .. => -AIMapperError.badBuffer.code
  | _ => AIMapperError.badBuffer.code

end HandleCall

/-- The call reports a bad buffer and has no effect. -/
def Rejected (call : HandleCall) (m : MapperState) (buffer : Ptr) : Prop :=
  ∃ m', call.perform m buffer = .ok (call.badBuffer, m') ∧
    SameResources m.process m'.process ∧ m'.metadataMap = m.metadataMap

/-! ## One call -/

section Call

variable {m : MapperState} {buffer : Ptr}

theorem unlock_rejected_iff (unregistered : m.process.gbmBoHandleMap buffer = none) :
    Rejected .unlock m buffer ↔ m.mInitialized = true := by
  have performed : HandleCall.unlock.perform m buffer =
      .ok ((if m.mInitialized then AIMapperError.badBuffer else .noResources).code, m) := by
    unfold HandleCall.perform
    simp only [unlock_unregistered unregistered]
    rfl
  constructor
  · rintro ⟨m', returns, -⟩
    by_contra uninitialized
    rw [performed, if_neg uninitialized] at returns
    cases returns
  · intro initialized
    rw [if_pos initialized] at performed
    exact ⟨m, performed, .refl _, rfl⟩

theorem lock_not_rejected (nonNull : buffer ≠ 0)
    (unregistered : m.process.gbmBoHandleMap buffer = none) (cpuUsage : BitVec 64)
    (region : ARect) (fence : Option (Fd × FileId)) (answer : GbmMapResult) :
    ¬ Rejected (.lock cpuUsage region fence answer) m buffer := by
  rintro ⟨m', performed, -⟩
  obtain ⟨⟨error, addr, m₁⟩, hlock, returns⟩ := bind_eq_ok.mp performed
  obtain ⟨code, -⟩ := Prod.mk.inj (Except.ok.inj returns)
  obtain ⟨⟨error', addr', s⟩, hbody, returns⟩ := bind_eq_ok.mp hlock
  obtain ⟨rfl, -⟩ := Prod.mk.inj (Except.ok.inj returns)
  have received : (receiveFence m fence).2.process.gbmBoHandleMap buffer = none := by
    cases fence <;> exact unregistered
  obtain ⟨-, refusal⟩ := lockBody_unregistered received hbody
  rcases refusal with rfl | ⟨-, null⟩ | rfl
  · exact nomatch (AIMapperError.code_injective code : AIMapperError.noResources = .badBuffer)
  · exact nonNull null
  · exact nomatch (AIMapperError.code_injective code : AIMapperError.badValue = .badBuffer)

theorem getStandardMetadata_not_rejected (nonNull : buffer ≠ 0) (type : BitVec 64)
    (outDataSize : Nat) : ¬ Rejected (.getStandardMetadata type outDataSize) m buffer := by
  rintro ⟨m', performed, -⟩
  obtain ⟨⟨size, bytes, m₁⟩, hget, returns⟩ := bind_eq_ok.mp performed
  obtain ⟨code, -⟩ := Prod.mk.inj (Except.ok.inj returns)
  change size = -2 at code
  subst code
  unfold Mapper.getStandardMetadata at hget
  by_cases uninitialized : ¬ m.mInitialized
  · rw [if_pos uninitialized] at hget
    cases hget
  rw [if_neg uninitialized, if_neg nonNull] at hget
  split at hget
  · cases hget
  · cases hget
  obtain ⟨hnd, -, hget⟩ := bind_eq_ok.mp hget
  obtain ⟨primeFd, -, hget⟩ := bind_eq_ok.mp hget
  obtain ⟨value, provided, hget⟩ := bind_eq_ok.mp hget
  cases value with
  | none => cases hget
  | some value =>
      have negative : (encode _ value outDataSize).1 = -2 :=
        (Prod.mk.inj (Except.ok.inj hget)).1
      rw [encode_desired (provided_fits provided)] at negative
      exact absurd negative (by omega)

/-- No write is refused for its buffer. -/
theorem applyMetadata_ne_badBuffer (type : Option StandardMetadataType) (bytes : List Byte)
    (metadata : GrallocMetadata) : (applyMetadata type bytes metadata).1 ≠ .badBuffer := by
  unfold applyMetadata
  repeat' split
  all_goals exact nofun

theorem setStandardMetadata_not_rejected (nonNull : buffer ≠ 0) (type : BitVec 64)
    (metadata : List Byte) : ¬ Rejected (.setStandardMetadata type metadata) m buffer := by
  rintro ⟨m', performed, -⟩
  obtain ⟨⟨error, m₁⟩, hset, returns⟩ := bind_eq_ok.mp performed
  obtain ⟨code, -⟩ := Prod.mk.inj (Except.ok.inj returns)
  obtain rfl : error = .badBuffer := AIMapperError.code_injective code
  unfold Mapper.setStandardMetadata at hset
  by_cases uninitialized : ¬ m.mInitialized
  · rw [if_pos uninitialized] at hset
    cases hset
  rw [if_neg uninitialized, if_neg nonNull] at hset
  obtain ⟨handle, -, hset⟩ := bind_eq_ok.mp hset
  obtain ⟨primeFd, -, hset⟩ := bind_eq_ok.mp hset
  obtain ⟨error, -⟩ := Prod.mk.inj (Except.ok.inj hset)
  exact applyMetadata_ne_badBuffer _ _ _ error

theorem getReservedRegion_not_rejected (nonNull : buffer ≠ 0) :
    ¬ Rejected .getReservedRegion m buffer := by
  rintro ⟨m', performed, -⟩
  have code : (Mapper.getReservedRegion m buffer).1.code = AIMapperError.badBuffer.code :=
    (Prod.mk.inj (Except.ok.inj performed)).1
  have error := AIMapperError.code_injective code
  unfold Mapper.getReservedRegion at error
  by_cases uninitialized : ¬ m.mInitialized
  · simp only [if_pos uninitialized] at error
    cases error
  · simp only [if_neg uninitialized, if_neg nonNull] at error
    cases error

/-- Of the calls on a handle that is not imported, unlock alone rejects it. -/
theorem rejected_iff (nonNull : buffer ≠ 0)
    (unregistered : m.process.gbmBoHandleMap buffer = none) (call : HandleCall) :
    Rejected call m buffer ↔ call = .unlock ∧ m.mInitialized = true := by
  cases call with
  | unlock =>
      rw [unlock_rejected_iff unregistered]
      exact (and_iff_right rfl).symm
  | lock cpuUsage region fence answer =>
      exact iff_of_false (lock_not_rejected nonNull unregistered _ _ _ _) (fun h => nomatch h.1)
  | getStandardMetadata type outDataSize =>
      exact iff_of_false (getStandardMetadata_not_rejected nonNull _ _) (fun h => nomatch h.1)
  | setStandardMetadata type metadata =>
      exact iff_of_false (setStandardMetadata_not_rejected nonNull _ _) (fun h => nomatch h.1)
  | getReservedRegion =>
      exact iff_of_false (getReservedRegion_not_rejected nonNull) (fun h => nomatch h.1)

end Call

/-! ## Runs -/

/-- In every state a client reaches, unlock alone rejects a handle that is not imported,
and as long as every write is held, the next import starts with the initial metadata. -/
theorem unimported_rejected_iff {first last : Session} {labels : List ClientEvent}
    (initial : clientSystem.initial first) (run : Run clientSystem first labels last) :
    (∀ buffer, buffer ≠ 0 → buffer ∉ last.outstanding → ∀ call,
        Rejected call last.mapper buffer ↔ call = .unlock ∧ last.mapper.mInitialized = true) ∧
      (Run (clientSystem.guarded WritesHeld) first labels last → ∀ raw env handle next,
        clientSystem.step last
          (.call ⟨.importBuffer raw env, .imported .none (some handle)⟩) next →
        StartsInitial next.mapper handle) := by
  constructor
  · intro buffer nonNull unheld call
    obtain ⟨base, imports, ledger, held⟩ := Ledger.of_clientRun initial run
    have forgetful : Ledger base imports last.forget.mapper := ledger
    have unregistered : last.mapper.process.gbmBoHandleMap buffer = none :=
      forgetful.unregistered_of_unheld held unheld
    exact rejected_iff nonNull unregistered call
  · intro guarded raw env handle next hstep
    obtain ⟨base, imports, ledger, -, clean⟩ := Ledger.of_writesHeld initial guarded
    exact ledger.import_startsInitial clean hstep

theorem unimported_rejected_iff_imported :
    Rejected .unlock importedSession.mapper 24 ∧ StartsInitial importedSession.mapper 16 := by
  have imported := clientStep_of_session importedSession_step
  have unheld : 24 ∉ importedSession.outstanding := by decide +kernel
  obtain ⟨rejected, -⟩ := unimported_rejected_iff startedSession_initial (Run.single imported)
  obtain ⟨-, starts⟩ := unimported_rejected_iff startedSession_initial .refl
  exact ⟨(rejected 24 (by decide) unheld .unlock).mpr ⟨rfl, by decide +kernel⟩,
    starts .refl _ _ _ _ imported⟩

/-- A client with a raw handle for its descriptor 7. -/
def strayedSession : Session :=
  { startedSession with
    mapper :=
      { startedSession.mapper with
        process :=
          { startedSession.mapper.process with
            handles := Function.update startedSession.mapper.process.handles 24
              (some clientHandle) } } }

def strayWrite : MapperCall :=
  .setStandardMetadata 24 StandardMetadataType.dataspace.value [1#8, 2#8, 0#8, 0#8]

def writtenSession : Session := strayedSession.next strayWrite

/-- The descriptor has become 8, and 7 is closed. -/
def recycledSession : Session :=
  { writtenSession with
    mapper :=
      { writtenSession.mapper with
        process :=
          { writtenSession.mapper.process with
            fds := Function.update (Function.update writtenSession.mapper.process.fds 7#32 none)
              8#32 (some 9)
            handles := fun _ => none } } }

def recyclingImport : MapperCall :=
  .importBuffer { clientHandle with fds := [8#32] }
    { clone := some (16, [7#32])
      gbm := { createdDevice := 0, newBo := some ⟨32, 256#32, 0⟩ } }

def staleSession : Session := recycledSession.next recyclingImport

theorem recycledSession_run : Run clientSystem startedSession
    [.own, .call ⟨strayWrite, .written .none⟩, .own] recycledSession := by
  have strayed : clientSystem.step startedSession .own strayedSession :=
    ⟨rfl, ⟨_, _, rfl⟩, nofun, nofun⟩
  have written : clientSystem.step strayedSession (.call ⟨strayWrite, .written .none⟩)
      writtenSession := Session.next_clientStep trivial (by decide +kernel)
  have none : writtenSession.outstanding = [] := by decide +kernel
  have recycled : clientSystem.step writtenSession .own recycledSession := by
    refine ⟨rfl, ⟨_, _, rfl⟩, fun p hmem => ?_, fun p hmem => ?_⟩
    · rw [none] at hmem
      cases hmem
    · rw [none] at hmem
      cases hmem
  exact ((Run.single strayed).tail written).tail recycled

theorem staleSession_step : clientSystem.step recycledSession
    (.call ⟨recyclingImport, .imported .none (some 16)⟩) staleSession := by
  refine Session.next_clientStep ⟨by decide, ?_, ?_, ?_⟩ (by decide +kernel)
  · rintro p fds ⟨⟩
    exact ⟨by decide, rfl⟩
  · rintro p fds ⟨⟩
    refine ⟨List.nodup_singleton _, ?_⟩
    intro fd hmem
    rw [List.mem_singleton.mp hmem]
    exact ⟨by decide, by decide +kernel⟩
  · rintro new ⟨⟩
    decide +kernel

/-- Every call but unlock takes a raw handle, and a dataspace that is set through it is
read of a buffer that is imported later. -/
theorem unimported_accepted :
    Reachable clientSystem strayedSession ∧ 24 ∉ strayedSession.outstanding ∧
      strayedSession.mapper.process.handles 24 = some clientHandle ∧ clientHandle.WellFormed ∧
      (∀ call, call ≠ .unlock → ¬ Rejected call strayedSession.mapper 24) ∧
      Reachable clientSystem recycledSession ∧
      clientSystem.step recycledSession
        (.call ⟨recyclingImport, .imported .none (some 16)⟩) staleSession ∧
      ¬ StartsInitial staleSession.mapper 16 := by
  have strayed : clientSystem.step startedSession .own strayedSession :=
    ⟨rfl, ⟨_, _, rfl⟩, nofun, nofun⟩
  refine ⟨⟨_, _, startedSession_initial, .single strayed⟩, by decide +kernel, rfl, by decide, ?_,
    ⟨_, _, startedSession_initial, recycledSession_run⟩, staleSession_step, ?_⟩
  · intro call other rejected
    exact other ((rejected_iff (by decide) rfl call).mp rejected).1
  · intro starts
    obtain ⟨m', reads⟩ := starts .dataspace 128
    change getStandardMetadata _ 16 StandardMetadataType.dataspace.value 128 = _ at reads
    have read : staleSession.result (.getStandardMetadata 16
        StandardMetadataType.dataspace.value 128) =
          some (.read (encode .dataspace dataspaceUnknown 128).1
            (encode .dataspace dataspaceUnknown 128).2) :=
      Session.result_eq_some.mpr ⟨m', by unfold MapperCall.perform; simp only [reads]; rfl⟩
    exact absurd read (by decide +kernel)

end GrallocGbmMesa.Mapper
