import GrallocGbmMesa.Mapper.Resources

/-!
# Clients of the mapper

A session calls the mapper on handles that were imported.  A client process has
more than that: raw handles and descriptors of its own, which come and go, and
it may pass the mapper any pointer it has.  The ledger of its imports is kept all
the same, but for the metadata.
-/

namespace GrallocGbmMesa.Mapper

open Checked PartialMap TransitionSystem
open GrallocGbmMesa.Platform GrallocGbmMesa.Core

/-- The calls that change nothing. -/
inductive PlainCall where
  | flushLockedBuffer
  | rereadLockedBuffer
  | getReservedRegion
  deriving DecidableEq, Repr

def PlainCall.perform (m : MapperState) (buffer : Ptr) : PlainCall → AIMapperError × MapperState
  | flushLockedBuffer => Mapper.flushLockedBuffer m buffer
  | rereadLockedBuffer => Mapper.rereadLockedBuffer m buffer
  | getReservedRegion =>
      let (error, _, m) := Mapper.getReservedRegion m buffer
      (error, m)

theorem PlainCall.perform_state (call : PlainCall) (m : MapperState) (buffer : Ptr) :
    (call.perform m buffer).2 = m := by
  cases call with
  | flushLockedBuffer | rereadLockedBuffer => rfl
  | getReservedRegion =>
      change (Mapper.getReservedRegion m buffer).2.2 = m
      unfold Mapper.getReservedRegion
      split
      · rfl
      · split <;> rfl

/-- The buffer a call is made on. -/
def MapperCall.buffer : MapperCall → Option Ptr
  | importBuffer .. => none
  | freeBuffer buffer _ | lock buffer .. | unlock buffer | getStandardMetadata buffer ..
  | setStandardMetadata buffer .. => some buffer

/-- A handle that has no descriptor of a buffer the client holds. -/
def Apart (session : Session) (buffer : Ptr) : Prop :=
  ∀ native, session.mapper.process.handles buffer = some native → ∀ fd ∈ native.fds,
    ∀ p ∈ session.outstanding, ¬ HasPrimeFd session.mapper.process p fd

/-- The platform answers with what is not in use.  A buffer is whatever the client
passes; what it frees is a buffer it holds, or has descriptors of its own. -/
def MapperCall.Possible (session : Session) : MapperCall → Prop
  | importBuffer raw env => raw.WellFormed ∧ env.Fresh session.mapper.process
  | lock _ _ _ fence answer =>
      answer.Valid ∧
        ∀ fd file, fence = some (fd, file) → 0 ≤ fd.toInt ∧ session.mapper.process.fds fd = none
  | freeBuffer buffer _ => buffer ∈ session.outstanding ∨ Apart session buffer
  | unlock _ | getStandardMetadata .. | setStandardMetadata .. => True

/-- The client opens and closes descriptors, and makes and deletes raw handles,
none of which is that of a buffer it holds. -/
structure OwnChange (session next : Session) : Prop where
  outstanding : next.outstanding = session.outstanding
  mapper : ∃ fds handles, next.mapper =
    { session.mapper with process := { session.mapper.process with fds, handles } }
  handles : ∀ p ∈ session.outstanding,
    next.mapper.process.handles p = session.mapper.process.handles p
  fds : ∀ p ∈ session.outstanding, ∀ fd, HasPrimeFd session.mapper.process p fd →
    next.mapper.process.fds fd = session.mapper.process.fds fd

/-- What happens in the process of a client. -/
inductive ClientEvent where
  | call (event : MapperEvent)
  | plain (call : PlainCall) (buffer : Ptr) (error : AIMapperError)
  | own

def clientSystem : System Session ClientEvent where
  initial := mapperSystem.initial
  step session event next :=
    match event with
    | .call event =>
        event.call.Possible session ∧
          event.call.perform session.mapper = .ok (event.result, next.mapper) ∧
          next.outstanding = event.outstanding session.outstanding
    | .plain call buffer error =>
        call.perform session.mapper buffer = (error, next.mapper) ∧
          next.outstanding = session.outstanding
    | .own => OwnChange session next

theorem MapperCall.Admissible.possible {session : Session} {call : MapperCall}
    (admissible : call.Admissible session) : call.Possible session := by
  cases call with
  | importBuffer raw env => exact admissible
  | freeBuffer buffer errno => exact .inl admissible
  | lock buffer cpuUsage region fence answer => exact admissible.2
  | unlock | getStandardMetadata | setStandardMetadata => exact trivial

theorem clientStep_of_session {session next : Session} {event : MapperEvent}
    (hstep : mapperSystem.step session event next) :
    clientSystem.step session (.call event) next := by
  obtain ⟨admissible, performed, outstanding⟩ := hstep
  exact ⟨admissible.possible, performed, outstanding⟩

theorem Session.next_clientStep {session : Session} {call : MapperCall} {result : MapperResult}
    (possible : call.Possible session) (returns : session.result call = some result) :
    clientSystem.step session (.call ⟨call, result⟩) (session.next call) := by
  obtain ⟨mapper, performed⟩ := Session.result_eq_some.mp returns
  unfold Session.next
  rw [performed]
  exact ⟨possible, performed, rfl⟩

/-- Every run of a session is one of a client. -/
theorem clientRun_of_session {first last : Session} {labels : List MapperEvent}
    (run : Run mapperSystem first labels last) :
    Run clientSystem first (labels.map .call) last := by
  induction run with
  | refl => exact .refl
  | tail before hstep ih =>
      rw [List.map_append]
      exact ih.tail (clientStep_of_session hstep)

/-! ## What does not concern the imports -/

/-- The registry, the BOs and the device are what they were, and so is what the
imports own. -/
structure Undisturbed (imports : List Import) (m m' : MapperState) : Prop where
  initialized : m'.mInitialized = m.mInitialized
  registry : m'.process.gbmBoHandleMap = m.process.gbmBoHandleMap
  bos : m'.process.bos = m.process.bos
  gbmDevFd : m'.process.gbmDevFd = m.process.gbmDevFd
  gbmDev : m'.process.gbmDev = m.process.gbmDev
  devices : m'.process.devices = m.process.devices
  handles : ∀ entry ∈ imports, m'.process.handles entry.handle = m.process.handles entry.handle
  fds : ∀ entry ∈ imports, m'.process.fds entry.primeFd = m.process.fds entry.primeFd

/-- The process without what its imports own. -/
def withoutImports (imports : List Import) (s : Process) : Process :=
  { s with
    handles := without s.handles (imports.map Import.handle)
    fds := without s.fds (imports.map Import.primeFd) }

/-- A ledger stays one of the same imports, in a process that may have changed elsewhere. -/
theorem Ledger.undisturbed {base : Process} {imports : List Import} {m m' : MapperState}
    (h : Ledger base imports m) (same : Undisturbed imports m m')
    (metadata : ∀ fd, m'.metadataMap fd ≠ none → fd ∈ imports.map Import.primeFd) :
    Ledger (withoutImports imports m'.process) imports m' where
  registry := by rw [same.registry, h.registry]
  handles := by
    change _ = overlay _ (without _ _)
    rw [← keys_handles, overlay_without]
    intro key value hmem
    obtain ⟨entry, hentry, hkey⟩ := List.mem_map.mp hmem
    cases hkey
    exact (same.handles entry hentry).trans (h.native hentry)
  fds := by
    change _ = overlay _ (without _ _)
    rw [← keys_fds, overlay_without]
    intro key value hmem
    obtain ⟨entry, hentry, hkey⟩ := List.mem_map.mp hmem
    cases hkey
    exact (same.fds entry hentry).trans (h.opened hentry)
  bos := by rw [same.bos]; exact h.bos
  locks := by rw [same.bos]; exact h.locks
  metadata := metadata
  distinctHandles := h.distinctHandles
  distinctFds := h.distinctFds
  distinctBos := h.distinctBos
  valid entry hmem :=
    { nonNull := (h.valid entry hmem).nonNull
      freshHandle := without_of_mem _ (List.mem_map_of_mem hmem)
      freshFd := without_of_mem _ (List.mem_map_of_mem hmem)
      ints := (h.valid entry hmem).ints }
  ready := by
    rw [same.initialized, DeviceReady, same.gbmDevFd, same.gbmDev, same.devices]
    exact h.ready
  initialized entry hmem := same.initialized.trans (h.initialized entry hmem)

theorem Undisturbed.of_sameResources {m m' : MapperState} (imports : List Import)
    (initialized : m'.mInitialized = m.mInitialized)
    (same : SameResources m.process m'.process) : Undisturbed imports m m' where
  initialized := initialized
  registry := same.registry
  bos := same.bos
  gbmDevFd := same.gbmDevFd
  gbmDev := same.gbmDev
  devices := same.devices
  handles entry _ := by rw [same.handles]
  fds entry _ := by rw [same.fds]

theorem OwnChange.undisturbed {base : Process} {imports : List Import} {session next : Session}
    (h : OwnChange session next) (ledger : Ledger base imports session.mapper)
    (held : session.outstanding = imports.map Import.handle) :
    Undisturbed imports session.mapper next.mapper := by
  obtain ⟨outstanding, ⟨fds, handles, mapper⟩, sameHandles, sameFds⟩ := h
  have heldOf {entry : Import} (hmem : entry ∈ imports) : entry.handle ∈ session.outstanding := by
    rw [held]
    exact List.mem_map_of_mem hmem
  refine ⟨?_, ?_, ?_, ?_, ?_, ?_, fun entry hmem => sameHandles _ (heldOf hmem),
    fun entry hmem => sameFds _ (heldOf hmem) _ ((ledger.hasPrimeFd hmem).mpr rfl)⟩ <;>
  · rw [mapper]

/-! ## Calls on other handles -/

section Stray

variable {m m' : MapperState} {buffer : Ptr}

/-- A read creates the record of the descriptor it finds, or changes nothing. -/
theorem getStandardMetadata_state {type : BitVec 64} {outDataSize : Nat} {size : Int}
    {bytes : List ByteStream.Byte}
    (returns : getStandardMetadata m buffer type outDataSize = .ok (size, bytes, m')) :
    m' = m ∨ ∃ fd, m' = m.setRecord fd (m.record fd) := by
  have returned := returns
  unfold getStandardMetadata at returns
  by_cases uninitialized : ¬ m.mInitialized
  · rw [if_pos uninitialized] at returns
    cases returns
    exact .inl rfl
  by_cases null : buffer = 0
  · rw [if_neg uninitialized, if_pos null] at returns
    cases returns
    exact .inl rfl
  rw [if_neg uninitialized, if_neg null] at returns
  split at returns
  · cases returns
    exact .inl rfl
  · cases returns
    exact .inl rfl
  obtain ⟨hnd, hhandle, returns⟩ := bind_eq_ok.mp returns
  obtain ⟨primeFd, hprime, -⟩ := bind_eq_ok.mp returns
  have readable : Readable m buffer hnd primeFd :=
    ⟨not_not.mp uninitialized, null, Process.handle_eq_ok.mp hhandle, hprime⟩
  exact (readable.getStandardMetadata_state returned).imp_right fun same => ⟨primeFd, same⟩

/-- A write stores to the record of the descriptor it finds, or changes nothing. -/
theorem setStandardMetadata_state {type : BitVec 64} {metadata : List ByteStream.Byte}
    {error : AIMapperError}
    (returns : setStandardMetadata m buffer type metadata = .ok (error, m')) :
    m' = m ∨ m.mInitialized = true ∧ buffer ≠ 0 ∧ ∃ fd, HasPrimeFd m.process buffer fd ∧
      m' = m.setRecord fd
        (applyMetadata (StandardMetadataType.ofValue type) metadata (m.record fd)).2 := by
  have returned := returns
  unfold setStandardMetadata at returns
  by_cases uninitialized : ¬ m.mInitialized
  · rw [if_pos uninitialized] at returns
    cases returns
    exact .inl rfl
  by_cases null : buffer = 0
  · rw [if_neg uninitialized, if_pos null] at returns
    cases returns
    exact .inl rfl
  rw [if_neg uninitialized, if_neg null] at returns
  obtain ⟨handle, hhandle, returns⟩ := bind_eq_ok.mp returns
  obtain ⟨primeFd, hprime, -⟩ := bind_eq_ok.mp returns
  have readable : Readable m buffer handle primeFd :=
    ⟨not_not.mp uninitialized, null, Process.handle_eq_ok.mp hhandle, hprime⟩
  rw [readable.setStandardMetadata_eq] at returned
  cases returned
  exact .inr ⟨readable.initialized, null, primeFd, ⟨handle, readable.placed, hprime⟩, rfl⟩

/-- Metadata calls change metadata only. -/
theorem getStandardMetadata_process {type : BitVec 64} {outDataSize : Nat} {size : Int}
    {bytes : List ByteStream.Byte}
    (returns : getStandardMetadata m buffer type outDataSize = .ok (size, bytes, m')) :
    m'.process = m.process ∧ m'.mInitialized = m.mInitialized := by
  rcases getStandardMetadata_state returns with rfl | ⟨fd, rfl⟩ <;> exact ⟨rfl, rfl⟩

theorem setStandardMetadata_process {type : BitVec 64} {metadata : List ByteStream.Byte}
    {error : AIMapperError}
    (returns : setStandardMetadata m buffer type metadata = .ok (error, m')) :
    m'.process = m.process ∧ m'.mInitialized = m.mInitialized := by
  rcases setStandardMetadata_state returns with rfl | ⟨-, -, fd, -, rfl⟩ <;> exact ⟨rfl, rfl⟩

theorem lockBody_unregistered (unregistered : m.process.gbmBoHandleMap buffer = none)
    {answer : GbmMapResult} {cpuUsage : BitVec 64} {region : ARect} {error : AIMapperError}
    {addr : Option Ptr} {s : Process}
    (returns : lockBody answer m buffer cpuUsage region = .ok (error, addr, s)) :
    s = m.process ∧
      (error = .noResources ∨ (error = .badBuffer ∧ buffer = 0) ∨ error = .badValue) := by
  unfold lockBody at returns
  by_cases uninitialized : ¬ m.mInitialized
  · rw [if_pos uninitialized] at returns
    cases returns
    exact ⟨rfl, .inl rfl⟩
  by_cases null : buffer = 0
  · rw [if_neg uninitialized, if_pos null] at returns
    cases returns
    exact ⟨rfl, .inr (.inl ⟨rfl, null⟩)⟩
  by_cases unused : cpuUsage = 0
  · rw [if_neg uninitialized, if_neg null, if_pos unused] at returns
    cases returns
    exact ⟨rfl, .inr (.inr rfl)⟩
  rw [if_neg uninitialized, if_neg null, if_neg unused] at returns
  obtain ⟨width, -, returns⟩ := bind_eq_ok.mp returns
  obtain ⟨height, -, returns⟩ := bind_eq_ok.mp returns
  rw [grallocGbmBoLock_unregistered unregistered] at returns
  cases returns
  exact ⟨rfl, .inr (.inr rfl)⟩

/-- A lock of a buffer that is not imported is refused, and its fence is closed. -/
theorem lock_unregistered (unregistered : m.process.gbmBoHandleMap buffer = none)
    {fence : Option (Fd × FileId)} {answer : GbmMapResult} {cpuUsage : BitVec 64} {region : ARect}
    {error : AIMapperError} {addr : Option Ptr}
    (fresh : ∀ fd file, fence = some (fd, file) → 0 ≤ fd.toInt ∧ m.process.fds fd = none)
    (returns : Mapper.lock answer (receiveFence m fence).2 buffer cpuUsage region
      (receiveFence m fence).1 = .ok (error, addr, m')) :
    error ≠ .none ∧ m'.mInitialized = m.mInitialized ∧ m'.metadataMap = m.metadataMap ∧
      SameResources m.process m'.process := by
  obtain ⟨⟨error', addr', s⟩, hbody, returns⟩ := bind_eq_ok.mp returns
  cases returns
  have received := Ledger.receiveFence_eq m fence
  have closed := @Ledger.closeFence_fds m fence fresh
  generalize (receiveFence m fence).1 = fd at closed
  generalize (receiveFence m fence).2 = m₁ at received closed hbody
  generalize m₁.process.fds = fds at received closed
  subst received
  obtain ⟨rfl, refusal⟩ := lockBody_unregistered (by exact unregistered) hbody
  have failed : error ≠ .none := by
    rcases refusal with rfl | ⟨rfl, -⟩ | rfl <;> exact nofun
  exact ⟨failed, rfl, rfl, Ledger.sameResources_closeUniqueFd (.refl m.process) (closed rfl)⟩

theorem unlock_unregistered (unregistered : m.process.gbmBoHandleMap buffer = none) :
    Mapper.unlock m buffer =
      .ok (if m.mInitialized then .badBuffer else .noResources, none, m) := by
  unfold Mapper.unlock
  by_cases uninitialized : ¬ m.mInitialized
  · rw [if_pos uninitialized, if_neg uninitialized]
  have initialized := not_not.mp uninitialized
  rw [if_neg uninitialized, if_pos initialized]
  by_cases null : buffer = 0
  · rw [if_pos null]
  · rw [if_neg null, grallocGbmBoUnlock_unregistered unregistered]
    rfl

/-- A free of a buffer that is not imported drops the record of its descriptor, and
closes and deletes the handle when the error number happens to be 0. -/
theorem freeBuffer_unregistered (unregistered : m.process.gbmBoHandleMap buffer = none)
    {errno : Int} {error : AIMapperError} (returns : freeBuffer errno m buffer = .ok (error, m')) :
    m'.mInitialized = m.mInitialized ∧
      (∀ fd, m'.metadataMap fd ≠ none → m.metadataMap fd ≠ none) ∧
      (m'.process = m.process ∨ ∃ native, m.process.handles buffer = some native ∧
        m'.process = (m.process.nativeHandleClose native).nativeHandleDelete buffer) := by
  unfold freeBuffer at returns
  by_cases uninitialized : ¬ m.mInitialized
  · rw [if_pos uninitialized] at returns
    cases returns
    exact ⟨rfl, fun _ => id, .inl rfl⟩
  by_cases null : buffer = 0
  · rw [if_neg uninitialized, if_pos null] at returns
    cases returns
    exact ⟨rfl, fun _ => id, .inl rfl⟩
  rw [if_neg uninitialized, if_neg null] at returns
  obtain ⟨hnd, hhandle, returns⟩ := bind_eq_ok.mp returns
  obtain ⟨primeFd, -, returns⟩ := bind_eq_ok.mp returns
  have dropped (fd : Fd) (stored : Function.update m.metadataMap primeFd none fd ≠ none) :
      m.metadataMap fd ≠ none := by
    by_cases same : fd = primeFd
    · subst same
      rw [Function.update_self] at stored
      exact absurd rfl stored
    · rwa [Function.update_of_ne same] at stored
  have core := grallocGmBufferFree_unregistered (.inr unregistered) errno
  simp only [core, ok_bind] at returns
  by_cases failed : -errno ≠ 0
  · rw [if_pos failed] at returns
    cases returns
    exact ⟨rfl, dropped, .inl rfl⟩
  · rw [if_neg failed, hhandle, ok_bind] at returns
    cases returns
    exact ⟨rfl, dropped, .inr ⟨hnd, Process.handle_eq_ok.mp hhandle, rfl⟩⟩

end Stray

end GrallocGbmMesa.Mapper
