import GrallocGbmMesa.Core.LockState
import GrallocGbmMesa.Lib.Run

/-!
# Runs of locks and unlocks

The lock functions as the steps of a system.  A label is a call with what it
returned; a step is a call that returns, so a run ends where the library would
fault.  Every buffer represents a lock state in every reachable state.
-/

namespace GrallocGbmMesa.Core

open Bits Checked TransitionSystem
open GrallocGbmMesa.Platform

/-- A call of a lock function, with the answers it gets from the platform. -/
inductive LockCall where
  | lock (handle : Ptr) (usage : Word) (answer : GbmMapResult)
  | lockAsync (handle : Ptr) (usage : Word) (fenceFd : Fd) (syncWait : Int)
      (answer : GbmMapResult)
  | lockYcbcr (handle : Ptr) (usage : Word) (answer : GbmMapResult)
  | lockAsyncYcbcr (handle : Ptr) (usage : Word) (fenceFd : Fd) (syncWait : Int)
      (answer : GbmMapResult)
  | unlock (handle : Ptr)
  | unlockAsync (handle : Ptr)
  deriving DecidableEq, Repr

namespace LockCall

def handle : LockCall → Ptr
  | lock handle .. | lockAsync handle .. | lockYcbcr handle .. | lockAsyncYcbcr handle ..
  | unlock handle | unlockAsync handle => handle

/-- The usage a lock asks for and the answer it gets from `gbm_bo_map`. -/
def request : LockCall → Option (Word × GbmMapResult)
  | lock _ usage answer | lockAsync _ usage _ _ answer | lockYcbcr _ usage answer
  | lockAsyncYcbcr _ usage _ _ answer => some (usage, answer)
  | unlock _ | unlockAsync _ => none

/-- Run a call; the second result is the address it gives out. -/
def perform : LockCall → Process → Except Fault (Int × Option Ptr × Process)
  | lock handle usage answer, s => grallocGbmBoLock answer s handle usage
  | lockAsync handle usage fenceFd syncWait answer, s =>
      grallocGbmBoLockAsync answer syncWait s handle usage fenceFd
  | lockYcbcr handle usage answer, s => do
      let (ret, ycbcr, s) ← grallocGbmBoLockYcbcr answer s handle usage
      return (ret, ycbcr.map AndroidYcbcr.y, s)
  | lockAsyncYcbcr handle usage fenceFd syncWait answer, s => do
      let (ret, ycbcr, s) ← grallocGbmBoLockAsyncYcbcr answer syncWait s handle usage fenceFd
      return (ret, ycbcr.map AndroidYcbcr.y, s)
  | unlock handle, s => do
      let (ret, s) ← grallocGbmBoUnlock s handle
      return (ret, none, s)
  | unlockAsync handle, s => do
      let (ret, _, s) ← grallocGbmBoUnlockAsync s handle
      return (ret, none, s)

end LockCall

structure LockEvent where
  call : LockCall
  ret : Int
  addr : Option Ptr

/-- The calls between two states neither map nor unmap, and no buffer changes. -/
structure SameBuffers (s s' : Process) : Prop where
  registry : s'.gbmBoHandleMap = s.gbmBoHandleMap
  bos : s'.bos = s.bos
  handles : s'.handles = s.handles
  made : ∀ p, made p s'.calls = made p s.calls
  released : ∀ p, released p s'.calls = released p s.calls

namespace SameBuffers

theorem refl (s : Process) : SameBuffers s s := ⟨rfl, rfl, rfl, fun _ => rfl, fun _ => rfl⟩

theorem log {s s' : Process} (h : SameBuffers s s') {call : Call}
    (hmap : ∀ p, mapOf p call = none) (hunmap : ∀ p, unmapOf p call = none) :
    SameBuffers s (s'.log call) where
  registry := h.registry
  bos := h.bos
  handles := h.handles
  made p := by
    change Core.made p ([call] ++ s'.calls) = _
    rw [made_append, h.made]
    simp [Core.made, hmap p]
  released p := by
    change Core.released p ([call] ++ s'.calls) = _
    rw [released_append, h.released]
    simp [Core.released, hunmap p]

theorem close {s s' : Process} (h : SameBuffers s s') (fd : Fd) : SameBuffers s (s'.close fd) := by
  have logged : SameBuffers s (s'.log (.close fd)) := h.log (fun _ => rfl) fun _ => rfl
  exact ⟨logged.registry, logged.bos, logged.handles, logged.made, logged.released⟩

theorem waited (s : Process) (fd : Fd) : SameBuffers s (s.log (.syncWait fd 3000)) :=
  (refl s).log (fun _ => rfl) fun _ => rfl

end SameBuffers

/-- What a call that returns has done: nothing to any buffer, or one lock or
unlock of the BO behind its handle. -/
inductive BufferStep (call : LockCall) (s : Process) : Int → Option Ptr → Process → Prop where
  | untouched {ret : Int} {addr : Option Ptr} {s' : Process} (failed : ret ≠ 0)
      (same : SameBuffers s s') : BufferStep call s ret addr s'
  | locked {usage handleUsage : Word} {answer : GbmMapResult} {s₁ : Process} {p : Ptr}
      {bo bo' : GbmBo} {native : NativeHandle} {ret ret' : Int} {addr addr' : Option Ptr}
      {calls : List Call} (hrequest : call.request = some (usage, answer))
      (same : SameBuffers s s₁) (registered : s.gbmBoHandleMap call.handle = some p)
      (live : s.bos p = some bo) (hnative : s.handles call.handle = some native)
      (husage : native.usage = .ok handleUsage)
      (returns : LockReturns answer p handleUsage usage bo ret addr bo' calls)
      (given : ret' = 0 → ret = 0 ∧ ∀ given, addr = some given → addr' = some given) :
      BufferStep call s ret' addr' (putBo s₁ p bo' calls)
  | unlocked {p : Ptr} {bo bo' : GbmBo} {calls : List Call} (hrequest : call.request = none)
      (registered : s.gbmBoHandleMap call.handle = some p) (live : s.bos p = some bo)
      (returns : UnlockReturns p bo bo' calls) : BufferStep call s 0 none (putBo s p bo' calls)

/-- Every registered handle has a live BO. -/
def RegistryLive (s : Process) : Prop :=
  ∀ handle p, s.gbmBoHandleMap handle = some p → s.bos p ≠ none

theorem SameBuffers.registryLive {s s' : Process} (h : SameBuffers s s') (hlive : RegistryLive s) :
    RegistryLive s' := by
  intro handle p
  rw [h.registry, h.bos]
  exact hlive handle p

/-- A lock that runs on a state with the same buffers. -/
theorem BufferStep.of_lock {call : LockCall} {usage : Word} {answer : GbmMapResult}
    {s s₁ s' : Process} {ret ret' : Int} {addr addr' : Option Ptr} (hlive : RegistryLive s)
    (hrequest : call.request = some (usage, answer)) (same : SameBuffers s s₁)
    (h : grallocGbmBoLock answer s₁ call.handle usage = .ok (ret, addr, s'))
    (given : ret' = 0 → ret = 0 ∧ ∀ given, addr = some given → addr' = some given) :
    BufferStep call s ret' addr' s' := by
  rcases grallocGbmBoLock_returns (same.registryLive hlive call.handle) h with
    ⟨failed, -, rfl⟩ | ⟨p, bo, native, handleUsage, bo', calls, registered, live, hnative, husage,
      returns, rfl⟩
  · exact .untouched (fun zero => failed (given zero).1) same
  · rw [same.registry] at registered
    rw [same.bos] at live
    rw [same.handles] at hnative
    exact .locked hrequest same registered live hnative husage returns given

theorem BufferStep.of_lockYcbcr {call : LockCall} {usage : Word} {answer : GbmMapResult}
    {s s₁ s' : Process} {ret : Int} {ycbcr : Option AndroidYcbcr} (hlive : RegistryLive s)
    (hrequest : call.request = some (usage, answer)) (same : SameBuffers s s₁)
    (h : grallocGbmBoLockYcbcr answer s₁ call.handle usage = .ok (ret, ycbcr, s')) :
    BufferStep call s ret (ycbcr.map AndroidYcbcr.y) s' := by
  unfold grallocGbmBoLockYcbcr at h
  obtain ⟨⟨err, addr, s₂⟩, hlock, h⟩ := bind_eq_ok.mp h
  simp only at h
  by_cases failed : err ≠ 0
  · rw [if_pos failed] at h
    cases h
    exact .of_lock hlive hrequest same hlock fun zero => absurd zero failed
  rw [if_neg failed] at h
  rw [not_not] at failed
  obtain ⟨hnd, -, h⟩ := bind_eq_ok.mp h
  obtain ⟨format, -, h⟩ := bind_eq_ok.mp h
  obtain ⟨width, -, h⟩ := bind_eq_ok.mp h
  obtain ⟨height, -, h⟩ := bind_eq_ok.mp h
  cases hlayout : ycbcrLayout (addr.getD 0) format width height with
  | none =>
      simp only [hlayout] at h
      cases h
      exact .of_lock hlive hrequest same hlock fun zero => absurd zero (by decide)
  | some layout =>
      simp only [hlayout] at h
      cases h
      refine .of_lock hlive hrequest same hlock fun _ => ⟨failed, ?_⟩
      rintro given rfl
      have base : layout.y = given := ycbcrLayout_y hlayout
      rw [Option.map_some, base]

theorem BufferStep.of_unlock {call : LockCall} {s s' : Process} {ret : Int}
    (hlive : RegistryLive s) (hrequest : call.request = none)
    (h : grallocGbmBoUnlock s call.handle = .ok (ret, s')) : BufferStep call s ret none s' := by
  rcases grallocGbmBoUnlock_returns (hlive call.handle) h with
    ⟨failed, -, rfl⟩ | ⟨p, bo, bo', calls, registered, live, returns, rfl, rfl⟩
  · exact .untouched failed (.refl _)
  · exact .unlocked hrequest registered live returns

/-- Every call that returns is one step of at most one buffer. -/
theorem LockCall.perform_step {call : LockCall} {s s' : Process} {ret : Int} {addr : Option Ptr}
    (hlive : RegistryLive s) (h : call.perform s = .ok (ret, addr, s')) :
    BufferStep call s ret addr s' := by
  cases call with
  | lock handle usage answer =>
      exact .of_lock hlive rfl (.refl s) h fun zero => ⟨zero, fun _ given => given⟩
  | lockAsync handle usage fenceFd syncWait answer =>
      simp only [perform, grallocGbmBoLockAsync] at h
      by_cases fenced : fenceFd.toInt ≥ 0
      · rw [if_pos fenced] at h
        by_cases failed : syncWait < 0
        · rw [if_pos failed] at h
          cases h
          exact .untouched (Int.ne_of_lt failed) (SameBuffers.waited s fenceFd)
        · rw [if_neg failed] at h
          exact .of_lock hlive rfl ((SameBuffers.waited s fenceFd).close fenceFd) h
            fun zero => ⟨zero, fun _ given => given⟩
      · rw [if_neg fenced] at h
        exact .of_lock hlive rfl (.refl s) h fun zero => ⟨zero, fun _ given => given⟩
  | lockYcbcr handle usage answer =>
      obtain ⟨⟨err, ycbcr, s₂⟩, hlock, h⟩ := bind_eq_ok.mp h
      cases h
      exact .of_lockYcbcr hlive rfl (.refl s) hlock
  | lockAsyncYcbcr handle usage fenceFd syncWait answer =>
      obtain ⟨⟨err, ycbcr, s₂⟩, hlock, h⟩ := bind_eq_ok.mp h
      cases h
      simp only [grallocGbmBoLockAsyncYcbcr] at hlock
      by_cases fenced : fenceFd.toInt ≥ 0
      · rw [if_pos fenced] at hlock
        by_cases failed : syncWait < 0
        · rw [if_pos failed] at hlock
          cases hlock
          exact .untouched (Int.ne_of_lt failed) (SameBuffers.waited s fenceFd)
        · rw [if_neg failed] at hlock
          exact .of_lockYcbcr hlive rfl ((SameBuffers.waited s fenceFd).close fenceFd) hlock
      · rw [if_neg fenced] at hlock
        exact .of_lockYcbcr hlive rfl (.refl s) hlock
  | unlock handle =>
      obtain ⟨⟨err, s₂⟩, hunlock, h⟩ := bind_eq_ok.mp h
      cases h
      exact .of_unlock hlive rfl hunlock
  | unlockAsync handle =>
      obtain ⟨⟨err, fence, s₂⟩, hasync, h⟩ := bind_eq_ok.mp h
      cases h
      obtain ⟨⟨err, s₂⟩, hunlock, hasync⟩ := bind_eq_ok.mp hasync
      simp only at hasync
      by_cases failed : err ≠ 0
      · rw [if_pos failed] at hasync
        cases hasync
        exact .of_unlock hlive rfl hunlock
      · rw [if_neg failed] at hasync
        rw [not_not] at failed
        cases hasync
        exact failed ▸ .of_unlock hlive rfl hunlock

/-! ## The system -/

/-- Registered handles have distinct BOs, none of which has been locked. -/
structure LocksReady (s : Process) : Prop where
  distinct : ∀ handle handle' p, s.gbmBoHandleMap handle = some p →
    s.gbmBoHandleMap handle' = some p → handle = handle'
  fresh : ∀ handle p, s.gbmBoHandleMap handle = some p →
    ∃ bo, s.bos p = some bo ∧ bo.userData = none ∧ bo.mappings = []
  silent : s.calls = []

/-- A lock finds that `gbm_bo_map` answers with pointers or with `NULL`. -/
def LockCall.Answered (call : LockCall) : Prop :=
  ∀ usage answer, call.request = some (usage, answer) → answer.Valid

def lockSystem : System Process LockEvent where
  initial := LocksReady
  step s event s' :=
    event.call.Answered ∧ event.call.perform s = .ok (event.ret, event.addr, s')

/-- Every registered buffer represents a lock state, and the mappings that were
made are those released and the live one. -/
structure LockInv (s : Process) : Prop where
  distinct : ∀ handle handle' p, s.gbmBoHandleMap handle = some p →
    s.gbmBoHandleMap handle' = some p → handle = handle'
  holds : ∀ handle p, s.gbmBoHandleMap handle = some p →
    ∃ bo hold, s.bos p = some bo ∧ Represents bo hold
  ledger : ∀ handle p bo, s.gbmBoHandleMap handle = some p → s.bos p = some bo →
    made p s.calls = released p s.calls ++ live bo

/-- A BO without user data and mappings is idle. -/
theorem represents_idle {bo : GbmBo} (unlocked : bo.userData = none) (unmapped : bo.mappings = []) :
    Represents bo .idle := by
  refine ⟨?_, unmapped, ?_⟩
  · rw [boData, unlocked]
    rfl
  · rintro mapping ⟨⟩

theorem LocksReady.inv {s : Process} (h : LocksReady s) : LockInv s where
  distinct := h.distinct
  holds handle p registered := by
    obtain ⟨bo, hbo, unlocked, unmapped⟩ := h.fresh handle p registered
    exact ⟨bo, .idle, hbo, represents_idle unlocked unmapped⟩
  ledger handle p bo registered hbo := by
    obtain ⟨bo', hbo', -, unmapped⟩ := h.fresh handle p registered
    rw [hbo] at hbo'
    cases hbo'
    simp [h.silent, made, released, live, unmapped]

theorem LockInv.registryLive {s : Process} (h : LockInv s) : RegistryLive s := by
  intro handle p registered dead
  obtain ⟨bo, hold, live, -⟩ := h.holds handle p registered
  rw [dead] at live
  cases live

/-- The usage of a handle admits a lock for `usage`. -/
def Accepts (s : Process) (handle : Ptr) (usage : Word) : Prop :=
  ∃ native handleUsage, s.handles handle = some native ∧ native.usage = .ok handleUsage ∧
    ¬ UsageRefused handleUsage usage

/-- How a call moves the lock state of the buffer behind `handle`. -/
inductive HoldStep (s : Process) (event : LockEvent) (handle : Ptr) (bo : GbmBo) :
    Hold → Hold → Prop where
  | kept {hold : Hold} (hcall : event.call.handle = handle → event.ret ≠ 0) :
      HoldStep s event handle bo hold hold
  | locked {usage : Word} {answer : GbmMapResult} {addr : Option Ptr} {hold hold' : Hold}
      (hhandle : event.call.handle = handle) (hrequest : event.call.request = some (usage, answer))
      (accepted : Accepts s handle usage) (locks : Hold.Locks bo usage hold addr hold')
      (given : event.ret = 0 → ∀ given, addr = some given → event.addr = some given) :
      HoldStep s event handle bo hold hold'
  | unlocked {hold : Hold} (hhandle : event.call.handle = handle)
      (hrequest : event.call.request = none) : HoldStep s event handle bo hold hold.unlock

/-- One buffer across a step: its state moves as the call says and its mappings
stay accounted for. -/
structure BufferMoves (event : LockEvent) (s s' : Process) (handle p : Ptr) (bo bo' : GbmBo)
    (hold hold' : Hold) : Prop where
  live : s'.bos p = some bo'
  represents : Represents bo' hold'
  moves : HoldStep s event handle bo hold hold'
  ledger : made p s.calls = released p s.calls ++ Core.live bo →
    made p s'.calls = released p s'.calls ++ Core.live bo'

/-- A buffer whose BO and mappings a step leaves alone. -/
theorem BufferMoves.of_same {event : LockEvent} {s s' : Process} {handle p : Ptr} {bo : GbmBo}
    {hold : Hold} (represents : Represents bo hold) (hbo : s'.bos p = some bo)
    (hmade : made p s'.calls = made p s.calls)
    (hreleased : released p s'.calls = released p s.calls)
    (hcall : event.call.handle = handle → event.ret ≠ 0) :
    BufferMoves event s s' handle p bo bo hold hold where
  live := hbo
  represents := represents
  moves := .kept hcall
  ledger h := by rw [hmade, hreleased, h]

theorem LockInv.moves {event : LockEvent} {s s' : Process} (inv : LockInv s)
    (hstep : lockSystem.step s event s') {handle p : Ptr} {bo : GbmBo} {hold : Hold}
    (registered : s.gbmBoHandleMap handle = some p) (hbo : s.bos p = some bo)
    (represents : Represents bo hold) :
    ∃ bo' hold', BufferMoves event s s' handle p bo bo' hold hold' := by
  obtain ⟨⟨call, ret, addr⟩, answered, hperform⟩ := event, hstep
  have hstep := LockCall.perform_step inv.registryLive hperform
  cases hstep with
  | untouched failed same =>
      refine ⟨bo, hold, .of_same represents ?_ (same.made p) (same.released p) fun _ => failed⟩
      rw [same.bos, hbo]
  | @locked usage handleUsage answer s₁ q bo₀ bo' native ret' _ addr' _ calls hrequest same
      registered' live hnative husage returns given =>
      have valid := answered _ _ hrequest
      have effect := returns.calls valid p
      have logMade : made p (putBo s₁ q bo' calls).calls = made p s.calls ++ made p calls := by
        rw [putBo_calls, made_append, same.made]
      have logReleased : released p (putBo s₁ q bo' calls).calls = released p s.calls := by
        rw [putBo_calls, released_append, same.released, effect.1, List.append_nil]
      by_cases hhandle : call.handle = handle
      · rw [hhandle] at registered'
        cases registered.symm.trans registered'
        cases hbo.symm.trans live
        have ledger (h : made p s.calls = released p s.calls ++ Core.live bo) :
            made p (putBo s₁ p bo' calls).calls =
              released p (putBo s₁ p bo' calls).calls ++ Core.live bo' := by
          rw [logMade, logReleased, h, effect.2.1 rfl, List.append_assoc]
        rcases represents.lock valid returns with ⟨failed, after⟩ | ⟨succeeded, hold', locks, after⟩
        · exact ⟨bo', hold, putBo_bos_self .., after,
            .kept fun _ zero => failed (given zero).1, ledger⟩
        · exact ⟨bo', hold', putBo_bos_self .., after,
            .locked hhandle hrequest (hhandle ▸ ⟨native, handleUsage, hnative, husage,
              returns.accepted succeeded⟩) locks fun zero => (given zero).2, ledger⟩
      · have other : p ≠ q := by
          rintro rfl
          exact hhandle (inv.distinct _ _ _ registered' registered)
        refine ⟨bo, hold, .of_same represents ?_ ?_ logReleased fun h => absurd h hhandle⟩
        · rw [putBo_bos_of_ne other, same.bos, hbo]
        · rw [logMade, effect.2.2 other, List.append_nil]
  | @unlocked q bo₀ bo' calls hrequest registered' live returns =>
      have effect := returns.calls p
      have logMade : made p (putBo s q bo' calls).calls = made p s.calls := by
        rw [putBo_calls, made_append, effect.1, List.append_nil]
      have logReleased :
          released p (putBo s q bo' calls).calls = released p s.calls ++ released p calls := by
        rw [putBo_calls, released_append]
      by_cases hhandle : call.handle = handle
      · rw [hhandle] at registered'
        cases registered.symm.trans registered'
        cases hbo.symm.trans live
        obtain ⟨after, hlive⟩ := represents.unlock returns
        refine ⟨bo', hold.unlock, putBo_bos_self .., after, .unlocked hhandle hrequest, ?_⟩
        intro h
        rw [logMade, logReleased, h, hlive, List.append_assoc]
      · have other : p ≠ q := by
          rintro rfl
          exact hhandle (inv.distinct _ _ _ registered' registered)
        refine ⟨bo, hold, .of_same represents ?_ logMade ?_ fun h => absurd h hhandle⟩
        · rw [putBo_bos_of_ne other, hbo]
        · rw [logReleased, effect.2 other, List.append_nil]

/-- No call registers a handle or touches the registry. -/
theorem lockSystem_registry {event : LockEvent} {s s' : Process} (inv : LockInv s)
    (hstep : lockSystem.step s event s') : s'.gbmBoHandleMap = s.gbmBoHandleMap := by
  obtain ⟨call, ret, addr⟩ := event
  cases LockCall.perform_step inv.registryLive hstep.2 with
  | untouched failed same => exact same.registry
  | locked hrequest same registered live hnative husage returns given => exact same.registry
  | unlocked hrequest registered live returns => rfl

theorem LockInv.step {event : LockEvent} {s s' : Process} (inv : LockInv s)
    (hstep : lockSystem.step s event s') : LockInv s' := by
  have registry := lockSystem_registry inv hstep
  refine ⟨?_, ?_, ?_⟩
  · rw [registry]
    exact inv.distinct
  · intro handle p registered
    rw [registry] at registered
    obtain ⟨bo, hold, hbo, represents⟩ := inv.holds handle p registered
    obtain ⟨bo', hold', moved⟩ := inv.moves hstep registered hbo represents
    exact ⟨bo', hold', moved.live, moved.represents⟩
  · intro handle p bo' registered hbo'
    rw [registry] at registered
    obtain ⟨bo, hold, hbo, represents⟩ := inv.holds handle p registered
    obtain ⟨bo'', hold', moved⟩ := inv.moves hstep registered hbo represents
    cases hbo'.symm.trans moved.live
    exact moved.ledger (inv.ledger handle p bo registered hbo)

theorem LockInv.run {labels : List LockEvent} {s s' : Process} (inv : LockInv s)
    (run : Run lockSystem s labels s') : LockInv s' :=
  run.invariant LockInv inv fun inv hstep => inv.step hstep

end GrallocGbmMesa.Core
