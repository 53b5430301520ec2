import GrallocGbmMesa.Mapper.ClientRuns

/-!
# Counting locks

The history of a client tells how often each buffer was locked and unlocked
since its import, and the BO of the buffer counts the locks that are left.
-/

namespace GrallocGbmMesa.Mapper

open Checked PartialMap TransitionSystem
open GrallocGbmMesa.Platform GrallocGbmMesa.Core

/-- The locks of a buffer that were accepted since its import, and the unlocks. -/
structure Tally where
  locks : Nat
  unlocks : Nat

namespace ClientEvent

/-- The event imports the handle. -/
def imports (handle : Ptr) : ClientEvent → Bool
  | .call event => event.importedHandle == some handle
  | _ => false

/-- The event is a lock of the handle that was accepted. -/
def locks (handle : Ptr) : ClientEvent → Bool
  | .call ⟨.lock buffer .., .locked .none _⟩ => buffer == handle
  | _ => false

/-- The event is an unlock of the handle that was accepted. -/
def unlocks (handle : Ptr) : ClientEvent → Bool
  | .call ⟨.unlock buffer, .unlocked .none⟩ => buffer == handle
  | _ => false

def tally (handle : Ptr) (event : ClientEvent) (before : Tally) : Tally :=
  if event.imports handle then ⟨0, 0⟩
  else if event.locks handle then { before with locks := before.locks + 1 }
  else if event.unlocks handle then { before with unlocks := before.unlocks + 1 }
  else before

end ClientEvent

def tally (handle : Ptr) (history : List ClientEvent) : Tally :=
  history.foldl (fun before event => event.tally handle before) ⟨0, 0⟩

theorem tally_append (handle : Ptr) (history : List ClientEvent) (event : ClientEvent) :
    tally handle (history ++ [event]) = event.tally handle (tally handle history) := by
  simp [tally, List.foldl_append]

/-! ## What a client does to its buffers -/

/-- The event imports nothing, and has no lock or unlock accepted. -/
def ClientEvent.Quiet (event : ClientEvent) : Prop :=
  ∀ handle, event.imports handle = false ∧ event.locks handle = false ∧
    event.unlocks handle = false

/-- What a step of a client is for the buffers it holds: nothing, or a call on one of them. -/
inductive ClientMove (imports : List Import) (m m' : MapperState) : ClientEvent → Prop where
  | undisturbed {event : ClientEvent} (quiet : event.Quiet)
      (same : Undisturbed imports m.forget m'.forget) : ClientMove imports m m' event
  | imported {raw : NativeHandle} {env : ImportBufferEnv} {error : AIMapperError}
      {out : Option Ptr} (fresh : env.Fresh m.process)
      (returns : importBuffer env m (some raw) = .ok (error, out, m')) :
      ClientMove imports m m' (.call ⟨.importBuffer raw env, .imported error out⟩)
  | freed {entry : Import} {errno : Int} {error : AIMapperError} (hmem : entry ∈ imports)
      (returns : freeBuffer errno m entry.handle = .ok (error, m')) :
      ClientMove imports m m' (.call ⟨.freeBuffer entry.handle errno, .freed error⟩)
  | locked {entry : Import} {cpuUsage : BitVec 64} {region : ARect}
      {fence : Option (Fd × FileId)} {answer : GbmMapResult} {error : AIMapperError}
      {addr : Option Ptr} (hmem : entry ∈ imports) (valid : answer.Valid)
      (returns : Mapper.lock answer (receiveFence m fence).2 entry.handle cpuUsage region
        (receiveFence m fence).1 = .ok (error, addr, m')) :
      ClientMove imports m m'
        (.call ⟨.lock entry.handle cpuUsage region fence answer, .locked error addr⟩)
  | unlocked {entry : Import} {error : AIMapperError} {fence : Option Fd} (hmem : entry ∈ imports)
      (returns : Mapper.unlock m entry.handle = .ok (error, fence, m')) :
      ClientMove imports m m' (.call ⟨.unlock entry.handle, .unlocked error⟩)

theorem MapperCall.OnMetadata.quiet {call : MapperCall} (metadata : call.OnMetadata)
    {m m' : MapperState} {result : MapperResult} (performed : call.perform m = .ok (result, m')) :
    (ClientEvent.call ⟨call, result⟩).Quiet := by
  intro handle
  cases call with
  | getStandardMetadata buffer type outDataSize =>
      obtain ⟨⟨size, bytes, m₁⟩, -, returns⟩ := bind_eq_ok.mp performed
      cases returns
      exact ⟨rfl, rfl, rfl⟩
  | setStandardMetadata buffer type metadata =>
      obtain ⟨⟨error, m₁⟩, -, returns⟩ := bind_eq_ok.mp performed
      cases returns
      exact ⟨rfl, rfl, rfl⟩
  | importBuffer | freeBuffer | lock | unlock => exact metadata.elim

/-- A call on a handle that is not registered has no lock and no unlock accepted. -/
theorem MapperCall.quiet_unregistered {call : MapperCall} {session : Session}
    {result : MapperResult} {m' : MapperState} {buffer : Ptr} (on : call.buffer = some buffer)
    (unregistered : session.mapper.process.gbmBoHandleMap buffer = none)
    (possible : call.Possible session)
    (performed : call.perform session.mapper = .ok (result, m')) :
    (ClientEvent.call ⟨call, result⟩).Quiet := by
  by_cases metadata : call.OnMetadata
  · exact metadata.quiet performed
  intro handle
  cases call with
  | importBuffer => cases on
  | freeBuffer stray errno =>
      obtain ⟨⟨error, m₁⟩, -, returns⟩ := bind_eq_ok.mp performed
      cases returns
      exact ⟨rfl, rfl, rfl⟩
  | getStandardMetadata | setStandardMetadata => exact absurd trivial metadata
  | lock stray cpuUsage region fence answer =>
      cases on
      obtain ⟨⟨error, addr, m₁⟩, hlock, returns⟩ := bind_eq_ok.mp performed
      cases returns
      obtain ⟨failed, -⟩ := lock_unregistered unregistered possible.2 hlock
      cases error with
      | none => exact absurd rfl failed
      | _ => exact ⟨rfl, rfl, rfl⟩
  | unlock stray =>
      cases on
      obtain ⟨⟨error, fence, m₁⟩, hunlock, returns⟩ := bind_eq_ok.mp performed
      cases returns
      rw [unlock_unregistered unregistered] at hunlock
      cases hunlock
      cases session.mapper.mInitialized <;> exact ⟨rfl, rfl, rfl⟩

theorem Ledger.clientMove {base : Process} {imports : List Import} {session next : Session}
    {event : ClientEvent} (h : Ledger base imports session.mapper.forget)
    (held : session.outstanding = imports.map Import.handle)
    (hstep : clientSystem.step session event next) :
    ClientMove imports session.mapper next.mapper event := by
  have forgetful : Ledger base imports session.forget.mapper := h
  cases event with
  | call event =>
      obtain ⟨call, result⟩ := event
      obtain ⟨possible, performed, -⟩ := hstep
      by_cases metadata : call.OnMetadata
      · refine .undisturbed (metadata.quiet performed) ?_
        rw [(metadata.forget_eq performed).1]
        exact .of_sameResources imports rfl (.refl _)
      by_cases stray : ∃ buffer, call.buffer = some buffer ∧ buffer ∉ session.outstanding
      · obtain ⟨buffer, on, unheld⟩ := stray
        have unregistered : session.mapper.process.gbmBoHandleMap buffer = none :=
          forgetful.unregistered_of_unheld held unheld
        have possible' : call.Possible session.forget := possible
        have forgotten := MapperCall.perform_forget metadata performed
        exact .undisturbed (MapperCall.quiet_unregistered on unregistered possible performed)
          (forgetful.undisturbed_stray held on unheld possible' forgotten).1
      have entryOf {buffer : Ptr} (on : call.buffer = some buffer) :
          ∃ entry ∈ imports, entry.handle = buffer := by
        have hmem : buffer ∈ session.outstanding := by
          by_contra unheld
          exact stray ⟨buffer, on, unheld⟩
        rw [held] at hmem
        exact List.mem_map.mp hmem
      cases call with
      | importBuffer raw env =>
          obtain ⟨⟨error, out, m₁⟩, himport, returns⟩ := bind_eq_ok.mp performed
          cases returns
          exact .imported possible.2 himport
      | freeBuffer buffer errno =>
          obtain ⟨entry, hmem, rfl⟩ := entryOf rfl
          obtain ⟨⟨error, m₁⟩, hfree, returns⟩ := bind_eq_ok.mp performed
          cases returns
          exact .freed hmem hfree
      | lock buffer cpuUsage region fence answer =>
          obtain ⟨entry, hmem, rfl⟩ := entryOf rfl
          obtain ⟨⟨error, addr, m₁⟩, hlock, returns⟩ := bind_eq_ok.mp performed
          cases returns
          exact .locked hmem possible.1 hlock
      | unlock buffer =>
          obtain ⟨entry, hmem, rfl⟩ := entryOf rfl
          obtain ⟨⟨error, fence, m₁⟩, hunlock, returns⟩ := bind_eq_ok.mp performed
          cases returns
          exact .unlocked hmem hunlock
      | getStandardMetadata | setStandardMetadata => exact absurd trivial metadata
  | plain call buffer error =>
      have same : next.mapper = session.mapper := by
        rw [← call.perform_state session.mapper buffer, hstep.1]
      rw [same]
      exact .undisturbed (fun _ => ⟨rfl, rfl, rfl⟩) (.of_sameResources imports rfl (.refl _))
  | own =>
      have change : OwnChange session next := hstep
      exact .undisturbed (fun _ => ⟨rfl, rfl, rfl⟩) (change.forget.undisturbed forgetful held)

/-! ## How locks are counted -/

/-- The number of outstanding locks of an imported buffer. -/
def lockCountOf (s : Process) (handle : Ptr) : Option Int :=
  (s.gbmBoHandleMap handle).bind fun p => (s.bos p).map fun bo => (boData bo).lockCount

theorem lockCountOf_buffer {s : Process} {handle p : Ptr} {bo : GbmBo}
    (buffer : Buffer s handle p bo) : lockCountOf s handle = some (boData bo).lockCount := by
  unfold lockCountOf
  rw [buffer.1, Option.bind_some, buffer.2]
  rfl

/-- The count is that of the registered BO. -/
theorem lockCountOf_congr {s s' : Process} {handle : Ptr}
    (registry : s'.gbmBoHandleMap handle = s.gbmBoHandleMap handle)
    (bos : ∀ p, s.gbmBoHandleMap handle = some p → s'.bos p = s.bos p) :
    lockCountOf s' handle = lockCountOf s handle := by
  unfold lockCountOf
  rw [registry]
  cases registered : s.gbmBoHandleMap handle with
  | none => rfl
  | some p =>
      rw [Option.bind_some, Option.bind_some, bos p registered]

/-- What an event does to the count of one handle. -/
inductive CountStep (event : ClientEvent) (handle : Ptr) : Option Int → Option Int → Prop where
  | imported {before : Option Int} (given : event.imports handle = true) :
      CountStep event handle before (some 0)
  | freed {before : Option Int} (noImport : event.imports handle = false)
      (noLock : event.locks handle = false) (noUnlock : event.unlocks handle = false) :
      CountStep event handle before none
  | locked {count : Int} (noImport : event.imports handle = false)
      (lock : event.locks handle = true) :
      CountStep event handle (some count) (some (count + 1))
  | unlocked {count : Int} (noImport : event.imports handle = false)
      (noLock : event.locks handle = false) (unlock : event.unlocks handle = true)
      (held : 0 < count) : CountStep event handle (some count) (some (count - 1))
  | idle (noImport : event.imports handle = false) (noLock : event.locks handle = false)
      (unlock : event.unlocks handle = true) : CountStep event handle (some 0) (some 0)
  | kept {before : Option Int} (noImport : event.imports handle = false)
      (noLock : event.locks handle = false) (noUnlock : event.unlocks handle = false) :
      CountStep event handle before before

/-- An event that leaves the registry and the BOs. -/
theorem CountStep.of_same {event : ClientEvent} {handle : Ptr}
    (noImport : event.imports handle = false) (noLock : event.locks handle = false)
    (noUnlock : event.unlocks handle = false) {s s' : Process}
    (registry : s'.gbmBoHandleMap = s.gbmBoHandleMap) (bos : s'.bos = s.bos) :
    CountStep event handle (lockCountOf s handle) (lockCountOf s' handle) := by
  have same : lockCountOf s' handle = lockCountOf s handle :=
    lockCountOf_congr (by rw [registry]) fun p _ => by rw [bos]
  rw [same]
  exact .kept noImport noLock noUnlock

/-- A step that only touches the entry of one handle and one BO leaves the count of
every other handle. -/
theorem CountStep.of_other {event : ClientEvent} {handle own p : Ptr} {s s' : Process}
    {entry : Option Ptr} {bo : Option GbmBo}
    (registry : s'.gbmBoHandleMap = Function.update s.gbmBoHandleMap own entry)
    (bos : s'.bos = Function.update s.bos p bo) (other : handle ≠ own)
    (apart : ∀ q, s.gbmBoHandleMap handle = some q → q ≠ p)
    (noImport : event.imports handle = false) (noLock : event.locks handle = false)
    (noUnlock : event.unlocks handle = false) :
    CountStep event handle (lockCountOf s handle) (lockCountOf s' handle) := by
  have same : lockCountOf s' handle = lockCountOf s handle := by
    apply lockCountOf_congr
    · rw [registry, Function.update_of_ne other]
    · intro q registered
      rw [bos, Function.update_of_ne (apart q registered)]
  rw [same]
  exact .kept noImport noLock noUnlock

section Moves

variable {base : Process} {imports : List Import} {m m' : MapperState} {handle : Ptr}

/-- What is registered is a live BO, and not that of another buffer. -/
theorem Ledger.registered_bo (h : Ledger base imports m.forget) {p : Ptr}
    (registered : m.process.gbmBoHandleMap handle = some p) :
    m.process.bos p ≠ none ∧ ∀ entry ∈ imports, handle ≠ entry.handle → p ≠ entry.bo := by
  have forgetful : Ledger base imports (Session.mapper ⟨m.forget, []⟩) := h
  obtain ⟨own, hown, rfl, rfl⟩ := forgetful.of_registered registered
  refine ⟨h.live hown, fun entry hmem different same => different ?_⟩
  rw [entry_eq h.distinctBos hown hmem same]

theorem countStep_import (h : Ledger base imports m.forget) {raw : NativeHandle}
    {env : ImportBufferEnv} {error : AIMapperError} {out : Option Ptr}
    (fresh : env.Fresh m.process)
    (returns : importBuffer env m (some raw) = .ok (error, out, m')) :
    CountStep (.call ⟨.importBuffer raw env, .imported error out⟩) handle
      (lockCountOf m.process handle) (lockCountOf m'.process handle) := by
  have can : CanImport m := ⟨h.canImport.ready, h.canImport.registry⟩
  rcases importBuffer_returns can fresh returns with
    ⟨failed, -, -, -, same⟩ | ⟨rfl, -, -, p, fds, new, data, calls, rfl, -, -, hnew, after⟩
  · refine .of_same ?_ rfl rfl same.registry same.bos
    cases error with
    | none => exact absurd rfl failed
    | _ => rfl
  obtain ⟨table, opened, -⟩ :=
    openAll_eq m.process (raw.fds.map fun fd => (m.process.fds fd).getD 0) fds
  have registry : m'.process.gbmBoHandleMap =
      Function.update m.process.gbmBoHandleMap p (some new.bo) := by
    rw [after, ← cloned_registry m.process p fds raw]
  have bos : m'.process.bos = Function.update m.process.bos new.bo
      (some (importedBo new data (cloned m.process p fds raw))) := by
    rw [after]
    unfold cloned
    rw [opened]
    rfl
  by_cases own : handle = p
  · subst own
    have placed : Buffer m'.process handle new.bo
        (importedBo new data (cloned m.process handle fds raw)) :=
      ⟨by rw [registry, Function.update_self], by rw [bos, Function.update_self]⟩
    rw [lockCountOf_buffer placed]
    exact .imported (beq_self_eq_true _)
  · refine .of_other registry bos own ?_ (beq_false_of_ne ?_) rfl rfl
    · rintro q registered rfl
      exact (h.registered_bo registered).1 (fresh.bo new hnew)
    · exact fun same => own (Option.some.inj same).symm

theorem countStep_free (h : Ledger base imports m.forget) {entry : Import} (hmem : entry ∈ imports)
    {errno : Int} {error : AIMapperError}
    (returns : freeBuffer errno m entry.handle = .ok (error, m')) :
    CountStep (.call ⟨.freeBuffer entry.handle errno, .freed error⟩) handle
      (lockCountOf m.process handle) (lockCountOf m'.process handle) := by
  have valid := h.valid entry hmem
  have performed := freeBuffer_registered (h.initialized entry hmem) valid.nonNull
    (h.registered hmem) (h.live hmem) (h.native hmem) valid.wellFormed.covers rfl errno
  have forgotten := freeBuffer_forget errno m entry.handle
  rw [performed, returns] at forgotten
  obtain ⟨-, after⟩ := Prod.mk.inj (Except.ok.inj forgotten)
  have registry : m'.process.gbmBoHandleMap =
      Function.update m.process.gbmBoHandleMap entry.handle none :=
    (congrArg (fun state => state.process.gbmBoHandleMap) after).symm
  have bos : m'.process.bos = Function.update m.process.bos entry.bo none :=
    (congrArg (fun state => state.process.bos) after).symm
  by_cases own : handle = entry.handle
  · subst own
    have gone : lockCountOf m'.process entry.handle = none := by
      unfold lockCountOf
      rw [registry, Function.update_self]
      rfl
    rw [gone]
    exact .freed rfl rfl rfl
  · exact .of_other registry bos own
      (fun q registered => (h.registered_bo registered).2 entry hmem own) rfl rfl rfl

theorem countStep_lock (h : Ledger base imports m.forget) {entry : Import} (hmem : entry ∈ imports)
    {cpuUsage : BitVec 64} {region : ARect} {fence : Option (Fd × FileId)} {answer : GbmMapResult}
    {error : AIMapperError} {addr : Option Ptr} (valid : answer.Valid)
    (returns : Mapper.lock answer (receiveFence m fence).2 entry.handle cpuUsage region
      (receiveFence m fence).1 = .ok (error, addr, m')) :
    CountStep (.call ⟨.lock entry.handle cpuUsage region fence answer, .locked error addr⟩) handle
      (lockCountOf m.process handle) (lockCountOf m'.process handle) := by
  obtain ⟨⟨error', addr', s⟩, hbody, returns⟩ := bind_eq_ok.mp returns
  obtain ⟨rfl, rest⟩ := Prod.mk.inj (Except.ok.inj returns)
  obtain ⟨rfl, after⟩ := Prod.mk.inj rest
  have received : (receiveFence m fence).2.process.gbmBoHandleMap = m.process.gbmBoHandleMap ∧
      (receiveFence m fence).2.process.bos = m.process.bos := by
    cases fence <;> exact ⟨rfl, rfl⟩
  have closed : m'.process.gbmBoHandleMap = s.gbmBoHandleMap ∧ m'.process.bos = s.bos := by
    rw [← after]
    unfold closeUniqueFd
    split <;> exact ⟨rfl, rfl⟩
  have registered : m.process.gbmBoHandleMap entry.handle = some entry.bo := h.registered hmem
  rcases lockBody_returns (by rw [received.1, registered]) (by rw [received.2]; exact h.live hmem)
      hbody with ⟨failed, same⟩ | ⟨bo, native, handleUsage, ret, bo', calls, hbo, -, -, hlock, put,
        succeeded⟩
  · refine .of_same rfl ?_ rfl (by rw [closed.1, same, received.1])
      (by rw [closed.2, same, received.2])
    cases error' with
    | none => exact absurd rfl failed
    | _ => rfl
  have registry : m'.process.gbmBoHandleMap = m.process.gbmBoHandleMap := by
    rw [closed.1, put]
    exact received.1
  have bos : m'.process.bos = Function.update m.process.bos entry.bo (some bo') := by
    rw [closed.2, put, ← received.2]
    rfl
  rw [received.2] at hbo
  by_cases own : handle = entry.handle
  · subst own
    obtain ⟨hold, represents⟩ := h.locks _ _ hbo
    rw [lockCountOf_buffer ⟨registered, hbo⟩,
      lockCountOf_buffer (⟨by rw [registry, registered], by rw [bos, Function.update_self]⟩ :
        Buffer m'.process entry.handle entry.bo bo')]
    rcases represents.lock valid hlock with ⟨failed, same⟩ | ⟨locked, hold', locks, taken⟩
    · rw [represents.lockCount, same.lockCount]
      refine .kept rfl ?_ rfl
      cases error' with
      | none => exact absurd (succeeded.mp rfl) failed
      | _ => rfl
    · obtain rfl := succeeded.mpr locked
      rw [represents.lockCount, taken.lockCount, locks.count]
      exact .locked rfl (beq_self_eq_true _)
  · have same := (Function.update_eq_self entry.handle m.process.gbmBoHandleMap).symm
    refine .of_other (registry.trans same) bos own
      (fun q hq => (h.registered_bo hq).2 entry hmem own) rfl ?_ rfl
    cases error' with
    | none => exact beq_false_of_ne (Ne.symm own)
    | _ => rfl

theorem countStep_unlock (h : Ledger base imports m.forget) {entry : Import}
    (hmem : entry ∈ imports) {error : AIMapperError} {fence : Option Fd}
    (returns : Mapper.unlock m entry.handle = .ok (error, fence, m')) :
    CountStep (.call ⟨.unlock entry.handle, .unlocked error⟩) handle
      (lockCountOf m.process handle) (lockCountOf m'.process handle) := by
  have registered : m.process.gbmBoHandleMap entry.handle = some entry.bo := h.registered hmem
  rcases unlock_returns registered (h.live hmem) returns with
    ⟨failed, rfl⟩ | ⟨bo, bo', calls, hbo, hunlock, rfl, after⟩
  · refine .of_same rfl rfl ?_ rfl rfl
    cases error with
    | none => exact absurd rfl failed
    | _ => rfl
  have registry : m'.process.gbmBoHandleMap = m.process.gbmBoHandleMap := by
    rw [after]
    rfl
  have bos : m'.process.bos = Function.update m.process.bos entry.bo (some bo') := by
    rw [after]
    rfl
  by_cases own : handle = entry.handle
  · subst own
    obtain ⟨hold, represents⟩ := h.locks _ _ hbo
    obtain ⟨after, -⟩ := represents.unlock hunlock
    rw [lockCountOf_buffer ⟨registered, hbo⟩,
      lockCountOf_buffer (⟨by rw [registry, registered], by rw [bos, Function.update_self]⟩ :
        Buffer m'.process entry.handle entry.bo bo'),
      represents.lockCount, after.lockCount, Hold.unlock_count]
    by_cases held : hold.count = 0
    · rw [held]
      exact .idle rfl rfl (beq_self_eq_true _)
    · have fewer : ((hold.count - 1 : Nat) : Int) = hold.count - 1 := by omega
      rw [fewer]
      exact .unlocked rfl rfl (beq_self_eq_true _) (by omega)
  · have same := (Function.update_eq_self entry.handle m.process.gbmBoHandleMap).symm
    exact .of_other (registry.trans same) bos own
      (fun q hq => (h.registered_bo hq).2 entry hmem own) rfl rfl (beq_false_of_ne (Ne.symm own))

/-- What a client does counts the locks of every handle. -/
theorem Ledger.countStep {session next : Session} {event : ClientEvent}
    (h : Ledger base imports session.mapper.forget)
    (held : session.outstanding = imports.map Import.handle)
    (hstep : clientSystem.step session event next) (handle : Ptr) :
    CountStep event handle (lockCountOf session.mapper.process handle)
      (lockCountOf next.mapper.process handle) := by
  cases h.clientMove held hstep with
  | undisturbed quiet same =>
      obtain ⟨noImport, noLock, noUnlock⟩ := quiet handle
      exact .of_same noImport noLock noUnlock same.registry same.bos
  | imported fresh returns => exact countStep_import h fresh returns
  | freed hmem returns => exact countStep_free h hmem returns
  | locked hmem valid returns => exact countStep_lock h hmem valid returns
  | unlocked hmem returns => exact countStep_unlock h hmem returns

end Moves

end GrallocGbmMesa.Mapper
