import GrallocGbmMesa.Mapper.Clients

/-!
# Runs of a client

Whatever a client does, its imports have a ledger.  Only metadata escapes it:
a call on a handle that is not imported may leave a record that no import owns,
so the ledger is kept of the states without their metadata.
-/

namespace GrallocGbmMesa.Mapper

open Checked PartialMap TransitionSystem
open GrallocGbmMesa.Platform GrallocGbmMesa.Core

/-! ## Calls that do not look at metadata -/

/-- The state without its metadata. -/
def MapperState.forget (m : MapperState) : MapperState := { m with metadataMap := fun _ => none }

def Session.forget (session : Session) : Session :=
  { session with mapper := session.mapper.forget }

theorem importBuffer_forget (env : ImportBufferEnv) (m : MapperState) (raw : NativeHandle) :
    importBuffer env m.forget (some raw) =
      (importBuffer env m (some raw)).map fun (error, out, m') => (error, out, m'.forget) := by
  unfold importBuffer MapperState.forget
  by_cases uninitialized : ¬ m.mInitialized
  · rw [if_pos uninitialized, if_pos uninitialized]
    rfl
  rw [if_neg uninitialized, if_neg uninitialized]
  by_cases empty : raw.numFds = 0
  · simp only [if_pos empty]
    rfl
  simp only [if_neg empty]
  generalize nativeHandleClone env.clone m.process raw = made
  obtain ⟨clone, s⟩ := made
  cases clone with
  | none => rfl
  | some imported =>
      dsimp only
      cases grallocGmBufferImport env.gbm s imported with
      | error fault => rfl
      | ok outcome =>
          obtain ⟨ret, s'⟩ := outcome
          by_cases failed : ret ≠ 0
          · simp only [ok_bind, if_pos failed]
            cases s'.handle imported <;> rfl
          · simp only [ok_bind, if_neg failed]
            rfl

theorem freeBuffer_forget (errno : Int) (m : MapperState) (buffer : Ptr) :
    freeBuffer errno m.forget buffer =
      (freeBuffer errno m buffer).map fun (error, m') => (error, m'.forget) := by
  unfold freeBuffer MapperState.forget
  by_cases uninitialized : ¬ m.mInitialized
  · rw [if_pos uninitialized, if_pos uninitialized]
    rfl
  rw [if_neg uninitialized, if_neg uninitialized]
  by_cases null : buffer = 0
  · rw [if_pos null, if_pos null]
    rfl
  rw [if_neg null, if_neg null]
  cases m.process.handle buffer with
  | error fault => rfl
  | ok hnd =>
      simp only [ok_bind]
      cases hnd.primeFd with
      | error fault => rfl
      | ok primeFd =>
          have forgotten : Function.update (fun _ => none) primeFd none =
              fun _ : Fd => (none : Option GrallocMetadata) := Function.update_eq_self primeFd _
          simp only [ok_bind, forgotten]
          cases grallocGmBufferFree errno m.process buffer with
          | error fault => rfl
          | ok outcome =>
              obtain ⟨ret, s⟩ := outcome
              by_cases failed : ret ≠ 0
              · simp only [ok_bind, if_pos failed]
                rfl
              · simp only [ok_bind, if_neg failed]
                cases s.handle buffer <;> rfl

theorem lock_forget (answer : GbmMapResult) (m : MapperState) (buffer : Ptr)
    (cpuUsage : BitVec 64) (region : ARect) (fence : Fd) :
    Mapper.lock answer m.forget buffer cpuUsage region fence =
      (Mapper.lock answer m buffer cpuUsage region fence).map
        fun (error, addr, m') => (error, addr, m'.forget) := by
  unfold Mapper.lock
  change (lockBody answer m buffer cpuUsage region >>= _) = _
  cases lockBody answer m buffer cpuUsage region <;> rfl

theorem unlock_forget (m : MapperState) (buffer : Ptr) :
    Mapper.unlock m.forget buffer =
      (Mapper.unlock m buffer).map fun (error, fence, m') => (error, fence, m'.forget) := by
  unfold Mapper.unlock MapperState.forget
  by_cases uninitialized : ¬ m.mInitialized
  · rw [if_pos uninitialized, if_pos uninitialized]
    rfl
  rw [if_neg uninitialized, if_neg uninitialized]
  by_cases null : buffer = 0
  · rw [if_pos null, if_pos null]
    rfl
  rw [if_neg null, if_neg null]
  cases grallocGbmBoUnlock m.process buffer with
  | error fault => rfl
  | ok outcome =>
      obtain ⟨ret, s⟩ := outcome
      by_cases failed : ret ≠ 0
      · simp only [ok_bind, if_pos failed]
        rfl
      · simp only [ok_bind, if_neg failed]
        rfl

theorem OwnChange.forget {session next : Session} (h : OwnChange session next) :
    OwnChange session.forget next.forget where
  outstanding := h.outstanding
  mapper := by
    obtain ⟨fds, handles, mapper⟩ := h.mapper
    refine ⟨fds, handles, ?_⟩
    unfold Session.forget
    rw [mapper]
    rfl
  handles := h.handles
  fds := h.fds

/-- The calls that look at metadata. -/
def MapperCall.OnMetadata : MapperCall → Prop
  | getStandardMetadata .. | setStandardMetadata .. => True
  | _ => False

/-- Every other call goes the same way without metadata. -/
theorem MapperCall.perform_forget {call : MapperCall} (other : ¬ call.OnMetadata)
    {m m' : MapperState} {result : MapperResult} (performed : call.perform m = .ok (result, m')) :
    call.perform m.forget = .ok (result, m'.forget) := by
  cases call with
  | importBuffer raw env =>
      obtain ⟨⟨error, out, m₁⟩, himport, returns⟩ := bind_eq_ok.mp performed
      cases returns
      rw [perform, importBuffer_forget, himport]
      rfl
  | freeBuffer buffer errno =>
      obtain ⟨⟨error, m₁⟩, hfree, returns⟩ := bind_eq_ok.mp performed
      cases returns
      rw [perform, freeBuffer_forget, hfree]
      rfl
  | lock buffer cpuUsage region fence answer =>
      obtain ⟨⟨error, addr, m₁⟩, hlock, returns⟩ := bind_eq_ok.mp performed
      cases returns
      have received : receiveFence m.forget fence =
          ((receiveFence m fence).1, (receiveFence m fence).2.forget) := by
        cases fence <;> rfl
      have locked : Mapper.lock answer (receiveFence m fence).2 buffer cpuUsage region
          (receiveFence m fence).1 = .ok (error, addr, m') := hlock
      rw [perform, received]
      dsimp only
      rw [lock_forget, locked]
      rfl
  | unlock buffer =>
      obtain ⟨⟨error, fence, m₁⟩, hunlock, returns⟩ := bind_eq_ok.mp performed
      cases returns
      rw [perform, unlock_forget, hunlock]
      rfl
  | getStandardMetadata | setStandardMetadata => exact absurd trivial other

/-- A metadata call leaves everything but metadata, on any handle. -/
theorem MapperCall.OnMetadata.forget_eq {call : MapperCall} (metadata : call.OnMetadata)
    {m m' : MapperState} {result : MapperResult} (performed : call.perform m = .ok (result, m')) :
    m'.forget = m.forget ∧ ∀ handles, MapperEvent.outstanding ⟨call, result⟩ handles = handles := by
  have same (process : m'.process = m.process) (initialized : m'.mInitialized = m.mInitialized) :
      m'.forget = m.forget := by
    unfold MapperState.forget
    rw [process, initialized]
  cases call with
  | getStandardMetadata buffer type outDataSize =>
      obtain ⟨⟨size, bytes, m₁⟩, hget, returns⟩ := bind_eq_ok.mp performed
      cases returns
      obtain ⟨process, initialized⟩ := getStandardMetadata_process hget
      exact ⟨same process initialized, fun _ => rfl⟩
  | setStandardMetadata buffer type bytes =>
      obtain ⟨⟨error, m₁⟩, hset, returns⟩ := bind_eq_ok.mp performed
      cases returns
      obtain ⟨process, initialized⟩ := setStandardMetadata_process hset
      exact ⟨same process initialized, fun _ => rfl⟩
  | importBuffer | freeBuffer | lock | unlock => exact metadata.elim

/-! ## Runs -/

namespace Ledger

variable {base : Process} {imports : List Import}

/-- A pointer that is not a buffer of the session is not registered. -/
theorem unregistered_of_unheld {session : Session} (h : Ledger base imports session.mapper)
    (held : session.outstanding = imports.map Import.handle) {buffer : Ptr}
    (unheld : buffer ∉ session.outstanding) :
    session.mapper.process.gbmBoHandleMap buffer = none := by
  rw [h.registry, overlay_eq_none, keys_registry, ← held]
  exact ⟨unheld, rfl⟩

/-- A free of a handle with descriptors of its own concerns no buffer. -/
theorem undisturbed_free {session : Session} {m' : MapperState}
    (h : Ledger base imports session.mapper)
    (held : session.outstanding = imports.map Import.handle) {buffer : Ptr}
    (unheld : buffer ∉ session.outstanding) (apart : Apart session buffer) {errno : Int}
    {error : AIMapperError}
    (returns : Mapper.freeBuffer errno session.mapper buffer = .ok (error, m')) :
    Undisturbed imports session.mapper m' := by
  have heldOf {entry : Import} (hmem : entry ∈ imports) : entry.handle ∈ session.outstanding := by
    rw [held]
    exact List.mem_map_of_mem hmem
  obtain ⟨initialized, -, process⟩ :=
    freeBuffer_unregistered (h.unregistered_of_unheld held unheld) returns
  rcases process with same | ⟨native, hnative, process⟩
  · exact .of_sameResources imports initialized (same ▸ .refl _)
  obtain ⟨table, calls, closed, -, others⟩ :=
    nativeHandleClose_eq session.mapper.process native
  rw [closed] at process
  refine ⟨initialized, by rw [process]; rfl, by rw [process]; rfl, by rw [process]; rfl,
    by rw [process]; rfl, by rw [process]; rfl, ?_, ?_⟩
  · intro entry hmem
    rw [process]
    refine Function.update_of_ne ?_ ..
    rintro rfl
    exact unheld (heldOf hmem)
  · intro entry hmem
    rw [process]
    refine others entry.primeFd fun mine => ?_
    exact apart native hnative _ mine _ (heldOf hmem) ((h.hasPrimeFd hmem).mpr rfl)

/-- A call on a pointer that is not a buffer of the session concerns none of them. -/
theorem undisturbed_stray {session : Session} {call : MapperCall} {result : MapperResult}
    {m' : MapperState} (h : Ledger base imports session.mapper)
    (held : session.outstanding = imports.map Import.handle) {buffer : Ptr}
    (on : call.buffer = some buffer) (unheld : buffer ∉ session.outstanding)
    (possible : call.Possible session)
    (performed : call.perform session.mapper = .ok (result, m')) :
    Undisturbed imports session.mapper m' ∧
      MapperEvent.outstanding ⟨call, result⟩ session.outstanding = session.outstanding := by
  have unregistered := h.unregistered_of_unheld held unheld
  cases call with
  | importBuffer => cases on
  | freeBuffer stray errno =>
      cases on
      obtain ⟨⟨error, m₁⟩, hfree, returns⟩ := bind_eq_ok.mp performed
      cases returns
      refine ⟨h.undisturbed_free held unheld (possible.resolve_left unheld) hfree, ?_⟩
      cases error with
      | none =>
          refine List.filter_eq_self.mpr fun p hmem => decide_eq_true ?_
          rintro rfl
          exact unheld hmem
      | _ => rfl
  | lock stray cpuUsage region fence answer =>
      cases on
      obtain ⟨⟨error, addr, m₁⟩, hlock, returns⟩ := bind_eq_ok.mp performed
      cases returns
      obtain ⟨-, initialized, -, same⟩ := lock_unregistered unregistered possible.2 hlock
      exact ⟨.of_sameResources imports initialized same, rfl⟩
  | unlock stray =>
      cases on
      obtain ⟨⟨error, fence, m₁⟩, hunlock, returns⟩ := bind_eq_ok.mp performed
      cases returns
      rw [unlock_unregistered unregistered] at hunlock
      cases hunlock
      exact ⟨.of_sameResources imports rfl (.refl _), rfl⟩
  | getStandardMetadata stray type outDataSize =>
      obtain ⟨⟨size, bytes, m₁⟩, hget, returns⟩ := bind_eq_ok.mp performed
      cases returns
      obtain ⟨process, initialized⟩ := getStandardMetadata_process hget
      exact ⟨.of_sameResources imports initialized (process ▸ .refl _), rfl⟩
  | setStandardMetadata stray type metadata =>
      obtain ⟨⟨error, m₁⟩, hset, returns⟩ := bind_eq_ok.mp performed
      cases returns
      obtain ⟨process, initialized⟩ := setStandardMetadata_process hset
      exact ⟨.of_sameResources imports initialized (process ▸ .refl _), rfl⟩

/-- On a buffer of the session a call is one of its steps. -/
theorem step_of_held {session next : Session} {event : MapperEvent}
    (possible : event.call.Possible session)
    (performed : event.call.perform session.mapper = .ok (event.result, next.mapper))
    (outstanding : next.outstanding = event.outstanding session.outstanding)
    (on : ∀ buffer, event.call.buffer = some buffer → buffer ∈ session.outstanding) :
    mapperSystem.step session event next := by
  refine ⟨?_, performed, outstanding⟩
  cases hcall : event.call with
  | importBuffer raw env =>
      rw [hcall] at possible
      exact possible
  | lock buffer cpuUsage region fence answer =>
      rw [hcall] at possible on
      exact ⟨on buffer rfl, possible.1, possible.2⟩
  | freeBuffer buffer | unlock buffer | getStandardMetadata buffer | setStandardMetadata buffer =>
      rw [hcall] at on
      exact on buffer rfl

/-- Whatever a client does, the buffers it holds have a ledger, but for metadata, and a
buffer it keeps has the same entry in it. -/
theorem client_step {session next : Session} {event : ClientEvent}
    (h : Ledger base imports session.mapper.forget)
    (held : session.outstanding = imports.map Import.handle)
    (hstep : clientSystem.step session event next) :
    ∃ base' imports', Ledger base' imports' next.mapper.forget ∧
      next.outstanding = imports'.map Import.handle ∧
      ∀ entry ∈ imports, entry.handle ∈ next.outstanding → entry ∈ imports' := by
  have noRecord (m : MapperState) (fd : Fd) (stored : m.forget.metadataMap fd ≠ none) :
      fd ∈ imports.map Import.primeFd := absurd rfl stored
  have forgetful : Ledger base imports session.forget.mapper := h
  cases event with
  | call event =>
      obtain ⟨possible, performed, outstanding⟩ := hstep
      by_cases metadata : event.call.OnMetadata
      · obtain ⟨same, unmoved⟩ := metadata.forget_eq performed
        exact ⟨base, imports, same ▸ h, outstanding.trans ((unmoved _).trans held),
          fun _ kept _ => kept⟩
      have forgotten := MapperCall.perform_forget metadata performed
      have possible' : event.call.Possible session.forget := possible
      by_cases stray : ∃ buffer, event.call.buffer = some buffer ∧ buffer ∉ session.outstanding
      · obtain ⟨buffer, on, unheld⟩ := stray
        obtain ⟨same, unmoved⟩ := forgetful.undisturbed_stray held on unheld possible' forgotten
        exact ⟨_, imports, forgetful.undisturbed same (noRecord next.mapper),
          outstanding.trans (unmoved.trans held), fun _ kept _ => kept⟩
      · have on (buffer : Ptr) (hbuffer : event.call.buffer = some buffer) :
            buffer ∈ session.outstanding := by
          by_contra unheld
          exact stray ⟨buffer, hbuffer, unheld⟩
        have hheld : mapperSystem.step session.forget event next.forget :=
          step_of_held possible' forgotten outstanding on
        obtain ⟨imports', moved, after, held'⟩ := forgetful.step held hheld
        refine ⟨base, imports', after, held', fun entry hmem still => ?_⟩
        have kept : entry.handle ∈ next.forget.outstanding := still
        rw [held'] at kept
        exact moved.keeps h.distinctHandles hmem kept
  | plain call buffer error =>
      obtain ⟨performed, outstanding⟩ := hstep
      have same : next.mapper = session.mapper := by
        rw [← call.perform_state session.mapper buffer, performed]
      exact ⟨base, imports, same ▸ h, outstanding.trans held, fun _ kept _ => kept⟩
  | own =>
      have change : OwnChange session next := hstep
      exact ⟨_, imports,
        forgetful.undisturbed (change.forget.undisturbed forgetful held) (noRecord next.mapper),
        change.outstanding.trans held, fun _ kept _ => kept⟩

/-- Every state that the client reaches has a ledger, but for metadata. -/
theorem of_clientRun {first last : Session} {labels : List ClientEvent}
    (initial : clientSystem.initial first) (run : Run clientSystem first labels last) :
    ∃ base imports, Ledger base imports last.mapper.forget ∧
      last.outstanding = imports.map Import.handle := by
  refine run.invariant (fun session => ∃ base imports, Ledger base imports session.mapper.forget ∧
    session.outstanding = imports.map Import.handle) ?_ ?_
  · obtain ⟨imports, ledger, held⟩ := mapperSystem_ledger initial .refl
    have noRecord (fd : Fd) (stored : first.mapper.forget.metadataMap fd ≠ none) :
        fd ∈ imports.map Import.primeFd := absurd rfl stored
    exact ⟨_, imports, ledger.of_metadata noRecord, held⟩
  · rintro state event next ⟨base, imports, ledger, held⟩ hstep
    obtain ⟨base', imports', after, held', -⟩ := ledger.client_step held hstep
    exact ⟨base', imports', after, held'⟩

end Ledger

end GrallocGbmMesa.Mapper
