import GrallocGbmMesa.Mapper.LockCounts

/-!
# Calls on locked buffers

`unlock`, `flushLockedBuffer` and `rereadLockedBuffer` are for locked buffers.
Unlock looks at the user data of the BO, which is only there from the first lock
on, and takes an unlocked buffer for success; the other two look at nothing.
-/

namespace GrallocGbmMesa.Mapper

open Checked PartialMap TransitionSystem
open GrallocGbmMesa.Platform GrallocGbmMesa.Core

inductive LockedCall where
  | unlock
  | flushLockedBuffer
  | rereadLockedBuffer
  deriving DecidableEq, Repr

def LockedCall.perform (m : MapperState) (buffer : Ptr) :
    LockedCall → Except Fault (AIMapperError × MapperState)
  | unlock => do
      let (error, _, m) ← Mapper.unlock m buffer
      return (error, m)
  | flushLockedBuffer => .ok (Mapper.flushLockedBuffer m buffer)
  | rereadLockedBuffer => .ok (Mapper.rereadLockedBuffer m buffer)

/-- The buffer is imported and has outstanding locks. -/
def Locked (m : MapperState) (buffer : Ptr) : Prop :=
  ∃ p bo, Buffer m.process buffer p bo ∧ 0 < (boData bo).lockCount

/-- The call returns, accepts the buffer exactly if it is locked, and has no effect otherwise. -/
def AcceptsLocked (call : LockedCall) (m : MapperState) (buffer : Ptr) : Prop :=
  ∃ error m', call.perform m buffer = .ok (error, m') ∧ (error = .none ↔ Locked m buffer) ∧
    (¬ Locked m buffer → error = .badBuffer ∧ m' = m)

/-! ## One call -/

/-- The other two calls accept every buffer. -/
theorem acceptsLocked_plain_iff {call : LockedCall} (plain : call ≠ .unlock) {m : MapperState}
    {buffer : Ptr} : AcceptsLocked call m buffer ↔ Locked m buffer := by
  have accepted : call.perform m buffer = .ok (.none, m) := by
    cases call with
    | unlock => exact absurd rfl plain
    | flushLockedBuffer | rereadLockedBuffer => rfl
  constructor
  · rintro ⟨error, m', returns, accepts, -⟩
    cases accepted.symm.trans returns
    exact accepts.mp rfl
  · intro locked
    exact ⟨.none, m, accepted, iff_of_true rfl locked, absurd locked⟩

section Unlock

variable {base : Process} {imports : List Import} {m : MapperState} {buffer : Ptr}

theorem unlock_refused (unregistered : m.process.gbmBoHandleMap buffer = none) :
    LockedCall.unlock.perform m buffer =
      .ok (if m.mInitialized then .badBuffer else .noResources, m) := by
  unfold LockedCall.perform
  rw [unlock_unregistered unregistered]
  rfl

theorem not_locked_of_unregistered (unregistered : m.process.gbmBoHandleMap buffer = none) :
    ¬ Locked m buffer := by
  rintro ⟨p, bo, ⟨registered, -⟩, -⟩
  cases unregistered.symm.trans registered

/-- An unlock of an imported buffer is accepted if the buffer has ever been locked, and
reads through `NULL` if it has not. -/
theorem Ledger.unlock_imported (h : Ledger base imports m.forget) {p : Ptr} {bo : GbmBo}
    (hbuffer : Buffer m.process buffer p bo) :
    (bo.userData ≠ none ∧ ∃ m', LockedCall.unlock.perform m buffer = .ok (.none, m')) ∨
      (bo.userData = none ∧ LockedCall.unlock.perform m buffer = .error .invalidPointer) := by
  have forgetful : Ledger base imports (Session.mapper ⟨m.forget, []⟩) := h
  obtain ⟨entry, hmem, rfl, rfl⟩ := forgetful.of_registered hbuffer.1
  obtain ⟨hold, represents⟩ := h.locks _ _ hbuffer.2
  have initialized : m.mInitialized = true := h.initialized entry hmem
  unfold LockedCall.perform Mapper.unlock
  rw [if_neg (not_not_intro initialized), if_neg (h.valid entry hmem).nonNull]
  by_cases attached : bo.userData = none
  · refine .inr ⟨attached, ?_⟩
    rw [grallocGbmBoUnlock_eq hbuffer.1 hbuffer.2]
    unfold unlockBo
    rw [attached]
    rfl
  · obtain ⟨s', bo', returns, -⟩ := represents.unlock_process hbuffer attached
    rw [returns]
    exact .inl ⟨attached, _, rfl⟩

/-- An unlock accepts exactly locked buffers unless the mapper is not initialised, or
the buffer is imported and not locked. -/
theorem Ledger.acceptsLocked_unlock_iff (h : Ledger base imports m.forget) :
    AcceptsLocked .unlock m buffer ↔
      m.mInitialized = true ∧ ∀ p bo, Buffer m.process buffer p bo → 0 < (boData bo).lockCount := by
  cases registered : m.process.gbmBoHandleMap buffer with
  | none =>
      have refused := unlock_refused registered
      have unlocked := not_locked_of_unregistered registered
      constructor
      · rintro ⟨error, m', returns, -, rejected⟩
        obtain ⟨rfl, rfl⟩ := rejected unlocked
        refine ⟨?_, fun p bo hbuffer => nomatch registered.symm.trans hbuffer.1⟩
        by_contra uninitialized
        rw [refused, if_neg uninitialized] at returns
        cases returns
      · rintro ⟨initialized, -⟩
        rw [if_pos initialized] at refused
        exact ⟨.badBuffer, m, refused, iff_of_false nofun unlocked, fun _ => ⟨rfl, rfl⟩⟩
  | some p =>
      have forgetful : Ledger base imports (Session.mapper ⟨m.forget, []⟩) := h
      obtain ⟨entry, hmem, rfl, rfl⟩ := forgetful.of_registered registered
      obtain ⟨bo, hbo⟩ := Option.ne_none_iff_exists'.mp (h.live hmem)
      have hbuffer : Buffer m.process entry.handle entry.bo bo := ⟨registered, hbo⟩
      constructor
      · rintro ⟨error, m', returns, accepts, -⟩
        refine ⟨h.initialized entry hmem, ?_⟩
        rcases h.unlock_imported hbuffer with ⟨-, after, accepted⟩ | ⟨-, fault⟩
        · cases accepted.symm.trans returns
          obtain ⟨q, bo₁, hbuffer₁, locked⟩ := accepts.mp rfl
          intro r bo₂ hbuffer₂
          rwa [(hbuffer₂.unique hbuffer₁).2]
        · cases fault.symm.trans returns
      · rintro ⟨-, locked⟩
        have count := locked _ _ hbuffer
        have here : Locked m entry.handle := ⟨_, _, hbuffer, count⟩
        rcases h.unlock_imported hbuffer with ⟨-, after, accepted⟩ | ⟨detached, -⟩
        · exact ⟨.none, after, accepted, iff_of_true rfl here, absurd here⟩
        · rw [boData, detached] at count
          exact absurd count (Int.lt_irrefl 0)

end Unlock

/-! ## Runs -/

/-- An unlock in the run is of a buffer that is locked, or not imported. -/
def UnlocksHeld (session : Session) : ClientEvent → Prop
  | .call ⟨.unlock buffer, _⟩ =>
      ∀ p bo, Buffer session.mapper.process buffer p bo → 0 < (boData bo).lockCount
  | _ => True

/-- What was accepted of a buffer adds up to its count. -/
def Counted (s : Process) (history : List ClientEvent) (handle : Ptr) : Prop :=
  (tally handle history).unlocks ≤ (tally handle history).locks ∧
    ∀ count, lockCountOf s handle = some count →
      (tally handle history).unlocks + count = (tally handle history).locks

/-- An accepted unlock that meets the guard is of a buffer with locks. -/
theorem UnlocksHeld.not_idle {session : Session} {event : ClientEvent} {handle : Ptr}
    (guard : UnlocksHeld session event) (unlock : event.unlocks handle = true)
    (idle : lockCountOf session.mapper.process handle = some 0) : False := by
  unfold ClientEvent.unlocks at unlock
  split at unlock
  · rename_i buffer
    obtain rfl := eq_of_beq unlock
    obtain ⟨p, registered, counted⟩ := Option.bind_eq_some_iff.mp idle
    obtain ⟨bo, hbo, count⟩ := Option.map_eq_some_iff.mp counted
    exact absurd (guard p bo ⟨registered, hbo⟩) (by omega)
  · cases unlock

theorem Counted.step {session next : Session} {history : List ClientEvent} {event : ClientEvent}
    {handle : Ptr} (h : Counted session.mapper.process history handle)
    (guard : UnlocksHeld session event)
    (moves : CountStep event handle (lockCountOf session.mapper.process handle)
      (lockCountOf next.mapper.process handle)) :
    Counted next.mapper.process (history ++ [event]) handle := by
  obtain ⟨bounded, counts⟩ := h
  have notIdle (unlock : event.unlocks handle = true) := guard.not_idle unlock
  unfold Counted
  rw [tally_append]
  unfold ClientEvent.tally
  generalize lockCountOf session.mapper.process handle = before at moves counts notIdle
  generalize lockCountOf next.mapper.process handle = after at moves
  generalize tally handle history = tally at bounded counts
  cases moves with
  | imported given =>
      rw [if_pos given]
      exact ⟨Nat.le_refl 0, by rintro count ⟨⟩; rfl⟩
  | freed noImport noLock noUnlock =>
      simp only [noImport, noLock, noUnlock]
      exact ⟨bounded, nofun⟩
  | @locked count noImport lock =>
      have sum := counts count rfl
      simp only [noImport, lock, if_true]
      refine ⟨Nat.le_succ_of_le bounded, ?_⟩
      rintro _ ⟨⟩
      change (tally.unlocks : Int) + (count + 1) = (tally.locks + 1 : Nat)
      omega
  | @unlocked count noImport noLock unlock positive =>
      have sum := counts count rfl
      simp only [noImport, noLock, unlock, if_true]
      change tally.unlocks + 1 ≤ tally.locks ∧ _
      refine ⟨by omega, ?_⟩
      rintro _ ⟨⟩
      change ((tally.unlocks + 1 : Nat) : Int) + (count - 1) = tally.locks
      omega
  | idle noImport noLock unlock => exact (notIdle unlock rfl).elim
  | kept noImport noLock noUnlock =>
      simp only [noImport, noLock, noUnlock]
      exact ⟨bounded, counts⟩

/-- A run whose unlocks meet the guard counts every handle. -/
theorem counted_of_run {first last : Session} {labels : List ClientEvent}
    (initial : clientSystem.initial first)
    (run : Run (clientSystem.guarded UnlocksHeld) first labels last) (handle : Ptr) :
    Counted last.mapper.process labels handle := by
  obtain ⟨imports, ledger, held⟩ := mapperSystem_ledger initial .refl
  induction run with
  | refl =>
      refine ⟨Nat.le_refl 0, ?_⟩
      have none : imports = [] := by
        rw [initial.1] at held
        exact List.map_eq_nil_iff.mp held.symm
      have unregistered : first.mapper.process.gbmBoHandleMap handle = .none := by
        rw [ledger.registry, none]
        rfl
      intro count counted
      unfold lockCountOf at counted
      rw [unregistered] at counted
      cases counted
  | tail before hstep ih =>
      obtain ⟨base, imports, ledger, held⟩ := Ledger.of_clientRun initial before.of_guarded
      exact ih.step hstep.1 (ledger.countStep held hstep.2 handle)

/-- In every state a client reaches: which pointers the three calls accept rightly, and,
as long as every unlock is of a locked buffer or of none, no buffer is unlocked more
often than it was locked. -/
theorem lockedCalls_iff {first last : Session} {labels : List ClientEvent}
    (initial : clientSystem.initial first) (run : Run clientSystem first labels last) :
    (∀ buffer, AcceptsLocked .unlock last.mapper buffer ↔ last.mapper.mInitialized = true ∧
        ∀ p bo, Buffer last.mapper.process buffer p bo → 0 < (boData bo).lockCount) ∧
      (∀ call, call ≠ .unlock → ∀ buffer,
        AcceptsLocked call last.mapper buffer ↔ Locked last.mapper buffer) ∧
      (Run (clientSystem.guarded UnlocksHeld) first labels last → ∀ handle,
        (tally handle labels).unlocks ≤ (tally handle labels).locks) := by
  obtain ⟨base, imports, ledger, -⟩ := Ledger.of_clientRun initial run
  refine ⟨fun buffer => ledger.acceptsLocked_unlock_iff, ?_, ?_⟩
  · exact fun call plain buffer => acceptsLocked_plain_iff plain
  · exact fun guarded handle => (counted_of_run initial guarded handle).1

def clientLock : MapperCall :=
  .lock 16 3#64 ⟨0, 0, 64#32, 64#32⟩ none (.mapped 4096 7 256#32)

def lockedSession : Session := importedSession.next clientLock

def unlockedSession : Session := lockedSession.next (.unlock 16)

theorem lockedSession_step : mapperSystem.step importedSession
    ⟨clientLock, .locked .none (some 4096)⟩ lockedSession := by
  refine Session.next_step ⟨?_, ?_, nofun⟩ ?_
  · decide +kernel
  · decide
  · decide +kernel

theorem unlockedSession_step : mapperSystem.step lockedSession
    ⟨.unlock 16, .unlocked .none⟩ unlockedSession :=
  Session.next_step (show 16 ∈ lockedSession.outstanding by decide +kernel) (by decide +kernel)

theorem unlockedSession_run : Run mapperSystem startedSession
    [⟨clientImport, .imported .none (some 16)⟩, ⟨clientLock, .locked .none (some 4096)⟩,
      ⟨.unlock 16, .unlocked .none⟩] unlockedSession :=
  ((Run.single importedSession_step).tail lockedSession_step).tail unlockedSession_step

/-- What the calls accept inside a lock, and the counts when it was taken back. -/
theorem lockedCalls_iff_locked :
    (∀ call, AcceptsLocked call lockedSession.mapper 16) ∧
      (tally 16 [.call ⟨clientImport, .imported .none (some 16)⟩,
        .call ⟨clientLock, .locked .none (some 4096)⟩,
        .call ⟨.unlock 16, .unlocked .none⟩]).unlocks ≤
      (tally 16 [.call ⟨clientImport, .imported .none (some 16)⟩,
        .call ⟨clientLock, .locked .none (some 4096)⟩,
        .call ⟨.unlock 16, .unlocked .none⟩]).locks := by
  have imports := clientStep_of_session importedSession_step
  have locks := clientStep_of_session lockedSession_step
  have unlocks := clientStep_of_session unlockedSession_step
  have counted : lockCountOf lockedSession.mapper.process 16 = some 1 := by decide +kernel
  have held : ∀ p bo, Buffer lockedSession.mapper.process 16 p bo → 0 < (boData bo).lockCount := by
    intro p bo hbuffer
    obtain one : (boData bo).lockCount = 1 :=
      Option.some.inj ((lockCountOf_buffer hbuffer).symm.trans counted)
    omega
  have locked : Locked lockedSession.mapper 16 := by
    obtain ⟨p, registered, present⟩ := Option.bind_eq_some_iff.mp counted
    obtain ⟨bo, live, -⟩ := Option.map_eq_some_iff.mp present
    exact ⟨p, bo, ⟨registered, live⟩, held p bo ⟨registered, live⟩⟩
  have opened : Run (clientSystem.guarded UnlocksHeld) startedSession
      [.call ⟨clientImport, .imported .none (some 16)⟩] importedSession :=
    .single ⟨trivial, imports⟩
  have inside : Run (clientSystem.guarded UnlocksHeld) startedSession
      [.call ⟨clientImport, .imported .none (some 16)⟩,
        .call ⟨clientLock, .locked .none (some 4096)⟩] lockedSession :=
    opened.tail ⟨trivial, locks⟩
  have outside : Run (clientSystem.guarded UnlocksHeld) startedSession
      [.call ⟨clientImport, .imported .none (some 16)⟩,
        .call ⟨clientLock, .locked .none (some 4096)⟩,
        .call ⟨.unlock 16, .unlocked .none⟩] unlockedSession :=
    inside.tail ⟨held, unlocks⟩
  obtain ⟨unlock, plain, -⟩ := lockedCalls_iff startedSession_initial inside.of_guarded
  obtain ⟨-, -, counts⟩ := lockedCalls_iff startedSession_initial outside.of_guarded
  refine ⟨?_, counts outside 16⟩
  intro call
  by_cases unlocking : call = .unlock
  · rw [unlocking]
    exact (unlock 16).mpr ⟨by decide +kernel, held⟩
  · exact (plain call unlocking 16).mpr locked

/-- An unlock of a buffer that was never locked faults, the other two calls accept `NULL`,
and a buffer that was locked once is unlocked twice. -/
theorem lockedCalls_wrong :
    Reachable clientSystem importedSession ∧ ¬ AcceptsLocked .unlock importedSession.mapper 16 ∧
      ¬ AcceptsLocked .flushLockedBuffer importedSession.mapper 0 ∧
      ¬ AcceptsLocked .rereadLockedBuffer importedSession.mapper 0 ∧
      ∃ labels last, Run clientSystem startedSession labels last ∧
        (tally 16 labels).locks < (tally 16 labels).unlocks := by
  have reachable : Reachable clientSystem importedSession :=
    ⟨_, _, startedSession_initial, clientRun_of_session (.single importedSession_step)⟩
  have unlocked : ¬ Locked importedSession.mapper 0 := by
    rintro ⟨p, bo, ⟨registered, -⟩, -⟩
    have null : importedSession.mapper.process.gbmBoHandleMap 0 = none := by decide +kernel
    cases null.symm.trans registered
  refine ⟨reachable, ?_, ?_, ?_, ?_⟩
  · rintro ⟨error, m', returns, -⟩
    have faulted : importedSession.result (.unlock 16) = none := by decide +kernel
    obtain ⟨⟨error₁, fence, m₁⟩, hunlock, same⟩ := bind_eq_ok.mp returns
    have performed : importedSession.result (.unlock 16) = some (.unlocked error₁) :=
      Session.result_eq_some.mpr ⟨m₁, by unfold MapperCall.perform; simp only [hunlock]; rfl⟩
    exact nomatch faulted.symm.trans performed
  · exact fun accepts => unlocked ((acceptsLocked_plain_iff (by decide)).mp accepts)
  · exact fun accepts => unlocked ((acceptsLocked_plain_iff (by decide)).mp accepts)
  · have again : mapperSystem.step unlockedSession ⟨.unlock 16, .unlocked .none⟩
        (unlockedSession.next (.unlock 16)) :=
      Session.next_step (show 16 ∈ unlockedSession.outstanding by decide +kernel)
        (by decide +kernel)
    exact ⟨_, _, clientRun_of_session (unlockedSession_run.tail again), by decide⟩

end GrallocGbmMesa.Mapper
