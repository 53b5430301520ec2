import GrallocGbmMesa.Mapper.Resources

/-!
# Acquire fences

Three entry points take an acquire fence, and each handles it in its own way.
What they do with it is read off the log of external calls.
-/

namespace GrallocGbmMesa.Mapper

open Bits Checked
open GrallocGbmMesa.Platform GrallocGbmMesa.Core

/-! ## Maps -/

/-- A lock for `usage` has `gbm_bo_map` map the buffer. -/
def MapsBuffer (answer : GbmMapResult) (s : Process) (handle : Ptr) (usage : Word) : Prop :=
  ∃ p bo native handleUsage, s.gbmBoHandleMap handle = some p ∧ s.bos p = some bo ∧
    s.handles handle = some native ∧ native.usage = .ok handleUsage ∧
    ¬ UsageRefused handleUsage usage ∧ Compatible (boData bo) usage ∧
    CpuUsage (usage ||| (boData bo).lockedFor) ∧ (boData bo).mapData = 0 ∧ answer ≠ .null

/-- The calls of a lock that has no mapping to show for them. -/
inductive MapsNothing : List Call → Prop where
  | silent : MapsNothing []
  | failed (p : Ptr) (flags : Word) : MapsNothing [.gbmBoMap p flags 0]

/-- What a lock calls that maps the buffer under a condition. -/
inductive LockCalls (answer : GbmMapResult) (maps : Prop) : List Call → Prop where
  | nothing {made : List Call} (unmapped : ¬ maps) (calls : MapsNothing made) :
      LockCalls answer maps made
  | mapped {p addr mapData : Ptr} {flags stride : Word} (hmaps : maps)
      (answered : answer = .mapped addr mapData stride) :
      LockCalls answer maps [.gbmBoMap p flags mapData]

theorem lockReturns_calls {answer : GbmMapResult} {s : Process} {handle p : Ptr} {bo bo' : GbmBo}
    {native : NativeHandle} {handleUsage usage : Word} {ret : Int} {addr : Option Ptr}
    {calls : List Call} (registered : s.gbmBoHandleMap handle = some p)
    (live : s.bos p = some bo) (hnative : s.handles handle = some native)
    (husage : native.usage = .ok handleUsage)
    (returns : LockReturns answer p handleUsage usage bo ret addr bo' calls) :
    LockCalls answer (MapsBuffer answer s handle usage) calls := by
  -- what a lock that maps has found of the buffer
  have found (maps : MapsBuffer answer s handle usage) :
      ¬ UsageRefused handleUsage usage ∧ Compatible (boData bo) usage ∧
        CpuUsage (usage ||| (boData bo).lockedFor) ∧ (boData bo).mapData = 0 ∧
        answer ≠ .null := by
    obtain ⟨q, bo₁, native₁, usage₁, hq, hbo, hn, hu, rest⟩ := maps
    cases registered.symm.trans hq
    cases live.symm.trans hbo
    cases hnative.symm.trans hn
    cases husage.symm.trans hu
    exact rest
  cases returns with
  | refused hrefused => exact .nothing (fun maps => (found maps).1 hrefused) .silent
  | incompatible accepted clash => exact .nothing (fun maps => clash (found maps).2.1) .silent
  | shared accepted compatible noCpu room =>
      exact .nothing (fun maps => noCpu (found maps).2.2.1) .silent
  | occupied accepted compatible cpu mapped =>
      exact .nothing (fun maps => mapped (found maps).2.2.2.1) .silent
  | mapFailed accepted compatible cpu unmapped failed =>
      exact .nothing (fun maps => (found maps).2.2.2.2 failed) (.failed _ _)
  | mapped accepted compatible cpu unmapped succeeded room =>
      refine .mapped ⟨p, bo, native, handleUsage, registered, live, hnative, husage, accepted,
        compatible, cpu, unmapped, ?_⟩ succeeded
      rw [succeeded]
      exact nofun

/-- A lock maps the buffer or it does not, in any process. -/
theorem grallocGbmBoLock_calls {answer : GbmMapResult} {s s' : Process} {handle : Ptr}
    {usage : Word} {ret : Int} {addr : Option Ptr}
    (h : grallocGbmBoLock answer s handle usage = .ok (ret, addr, s')) :
    ∃ made, s'.calls = made ++ s.calls ∧
      LockCalls answer (MapsBuffer answer s handle usage) made := by
  cases registered : s.gbmBoHandleMap handle with
  | none =>
      rw [grallocGbmBoLock_unregistered registered] at h
      cases h
      refine ⟨[], rfl, .nothing ?_ .silent⟩
      rintro ⟨p, bo, native, handleUsage, hp, -⟩
      cases registered.symm.trans hp
  | some p =>
      cases live : s.bos p with
      | none =>
          -- only a lock that is refused does not look at the BO
          unfold grallocGbmBoLock at h
          simp only [grallocGetGbmBoFromHandle, registered] at h
          obtain ⟨native, -, h⟩ := bind_eq_ok.mp h
          obtain ⟨handleUsage, -, h⟩ := bind_eq_ok.mp h
          have dead : ¬ MapsBuffer answer s handle usage := by
            rintro ⟨q, bo, -, -, hq, hbo, -⟩
            cases registered.symm.trans hq
            cases live.symm.trans hbo
          split at h
          · cases h
            exact ⟨[], rfl, .nothing dead .silent⟩
          · obtain ⟨bo, hbo, -⟩ := bind_eq_ok.mp h
            cases live.symm.trans (Process.bo_eq_ok.mp hbo)
      | some bo =>
          have hlive : ∀ q, s.gbmBoHandleMap handle = some q → s.bos q ≠ none := by
            intro q hq
            cases registered.symm.trans hq
            rw [live]
            exact Option.some_ne_none bo
          rcases grallocGbmBoLock_returns hlive h with
            ⟨-, unregistered, -⟩ | ⟨q, bo₁, native, handleUsage, bo', calls, hq, hbo, hnative,
              husage, returns, rfl⟩
          · cases registered.symm.trans unregistered
          · exact ⟨calls, rfl, lockReturns_calls hq hbo hnative husage returns⟩

/-- A lock of the mapper has `gbm_bo_map` map the buffer. -/
def MapsThrough (answer : GbmMapResult) (m : MapperState) (bufferHandle : Ptr)
    (cpuUsage : BitVec 64) : Prop :=
  m.mInitialized = true ∧ bufferHandle ≠ 0 ∧ cpuUsage ≠ 0 ∧
    MapsBuffer answer m.process bufferHandle (cpuUsage.setWidth 32)

theorem lockBody_calls {answer : GbmMapResult} {m : MapperState} {bufferHandle : Ptr}
    {cpuUsage : BitVec 64} {region : ARect} {error : AIMapperError} {addr : Option Ptr}
    {s : Process} (h : lockBody answer m bufferHandle cpuUsage region = .ok (error, addr, s)) :
    ∃ made, s.calls = made ++ m.process.calls ∧
      LockCalls answer (MapsThrough answer m bufferHandle cpuUsage) made := by
  unfold lockBody at h
  by_cases uninitialized : ¬ m.mInitialized
  · rw [if_pos uninitialized] at h
    cases h
    exact ⟨[], rfl, .nothing (fun maps => uninitialized maps.1) .silent⟩
  by_cases null : bufferHandle = 0
  · rw [if_neg uninitialized, if_pos null] at h
    cases h
    exact ⟨[], rfl, .nothing (fun maps => maps.2.1 null) .silent⟩
  by_cases unused : cpuUsage = 0
  · rw [if_neg uninitialized, if_neg null, if_pos unused] at h
    cases h
    exact ⟨[], rfl, .nothing (fun maps => maps.2.2.1 unused) .silent⟩
  rw [if_neg uninitialized, if_neg null, if_neg unused] at h
  obtain ⟨width, -, h⟩ := bind_eq_ok.mp h
  obtain ⟨height, -, h⟩ := bind_eq_ok.mp h
  obtain ⟨⟨ret, addr₁, s₁⟩, hcore, h⟩ := bind_eq_ok.mp h
  have same : s₁ = s := by
    dsimp only at h
    split at h <;> cases h <;> rfl
  subst same
  obtain ⟨made, made_eq, calls⟩ := grallocGbmBoLock_calls hcore
  refine ⟨made, made_eq, ?_⟩
  cases calls with
  | nothing unmapped calls => exact .nothing (fun maps => unmapped maps.2.2.2) calls
  | mapped maps answered => exact .mapped ⟨not_not.mp uninitialized, null, unused, maps⟩ answered

/-! ## Fences -/

/-- Newest first: nothing is mapped before a wait on the fence, which succeeded,
and the fence is closed once. -/
structure FenceHonoured (fence : Fd) (syncWait : Int) (made : List Call) : Prop where
  waited : ∀ later earlier p flags mapData, made = later ++ .gbmBoMap p flags mapData :: earlier →
    mapData ≠ 0 → 0 ≤ syncWait ∧ ∃ timeout, Call.syncWait fence timeout ∈ earlier
  closed : made.count (.close fence) = 1

/-- A call that takes an acquire fence. -/
inductive FencedCall where
  | lock (bufferHandle : Ptr) (cpuUsage : BitVec 64) (region : ARect)
  | lockAsync (handle : Ptr) (usage : Word)
  | lockAsyncYcbcr (handle : Ptr) (usage : Word)

namespace FencedCall

/-- The process after the call; `syncWait` is what `sync_wait` answers. -/
def perform (answer : GbmMapResult) (syncWait : Int) (m : MapperState) (fence : Fd) :
    FencedCall → Except Fault Process
  | lock bufferHandle cpuUsage region => do
      let (_, _, m) ← Mapper.lock answer m bufferHandle cpuUsage region fence
      return m.process
  | lockAsync handle usage => do
      let (_, _, s) ← grallocGbmBoLockAsync answer syncWait m.process handle usage fence
      return s
  | lockAsyncYcbcr handle usage => do
      let (_, _, s) ← grallocGbmBoLockAsyncYcbcr answer syncWait m.process handle usage fence
      return s

/-- The mapper maps nothing; the core library's wait succeeds. -/
def HonoursWhen (answer : GbmMapResult) (syncWait : Int) (m : MapperState) : FencedCall → Prop
  | lock bufferHandle cpuUsage _ =>
      ¬ MapsThrough answer m bufferHandle cpuUsage
  | lockAsync .. | lockAsyncYcbcr .. => 0 ≤ syncWait

end FencedCall

/-- A call that neither maps nor closes anything but the fence. -/
theorem fenceHonoured_of_mapsNothing {fence : Fd} {made : List Call} (nothing : MapsNothing made)
    (syncWait : Int) : FenceHonoured fence syncWait (.close fence :: made) := by
  constructor
  · intro later earlier p flags mapData split mapped
    have hmem : Call.gbmBoMap p flags mapData ∈ Call.close fence :: made := by
      rw [split]
      exact List.mem_append_right _ List.mem_cons_self
    rcases List.mem_cons.mp hmem with closes | hmem
    · cases closes
    cases nothing with
    | silent => cases hmem
    | failed q flags' =>
        cases List.mem_singleton.mp hmem
        exact absurd rfl mapped
  · cases nothing with
    | silent => simp
    | failed q flags' => simp

/-- A map before the fence is closed has not been waited for. -/
theorem not_fenceHonoured_of_mapped {fence : Fd} {p mapData : Ptr} {flags : Word}
    (valid : mapData ≠ 0) (syncWait : Int) :
    ¬ FenceHonoured fence syncWait [.close fence, .gbmBoMap p flags mapData] := by
  intro h
  obtain ⟨-, timeout, waits⟩ := h.waited [.close fence] [] p flags mapData rfl valid
  cases waits

/-- Before a call that is made last there is what was made before it. -/
theorem earlier_eq {made before later earlier : List Call} {call : Call} (last : made.length ≤ 1)
    (none : call ∉ before) (split : made ++ before = later ++ call :: earlier) :
    earlier = before := by
  rcases List.append_eq_append_iff.mp split with ⟨between, -, rest⟩ | ⟨between, hmade, rest⟩
  · rw [rest] at none
    exact absurd (List.mem_append_right _ List.mem_cons_self) none
  · cases between with
    | nil =>
        rw [List.nil_append] at rest
        rw [← rest] at none
        exact absurd List.mem_cons_self none
    | cons first between =>
        obtain ⟨-, rfl⟩ := List.cons.inj rest
        rw [hmade, List.length_append, List.length_cons] at last
        have empty : between = [] := List.length_eq_zero_iff.mp (by omega)
        rw [empty]
        rfl

/-- A lock makes at most one call, which is no close. -/
theorem LockCalls.shape {answer : GbmMapResult} {maps : Prop} {made : List Call}
    (h : LockCalls answer maps made) :
    made.length ≤ 1 ∧ ∀ fd, Call.close fd ∉ made := by
  cases h with
  | nothing unmapped calls => cases calls <;> simp
  | mapped hmaps answered => simp

/-- A lock after a wait that succeeded. -/
theorem fenceHonoured_of_waited {answer : GbmMapResult} {maps : Prop} {made : List Call}
    (calls : LockCalls answer maps made) (fence : Fd) {syncWait : Int} (success : 0 ≤ syncWait)
    (timeout : Nat) :
    FenceHonoured fence syncWait (made ++ [.close fence, .syncWait fence timeout]) := by
  obtain ⟨last, noClose⟩ := calls.shape
  constructor
  · intro later earlier p flags mapData split mapped
    refine ⟨success, timeout, ?_⟩
    rw [earlier_eq last (by simp) split]
    exact List.mem_cons_of_mem _ (List.mem_singleton_self _)
  · rw [List.count_append, List.count_eq_zero.mpr (noClose fence)]
    simp

namespace FencedCall

variable {answer : GbmMapResult} {syncWait : Int} {m : MapperState} {fence : Fd} {s' : Process}

/-- The mapper closes the fence last, and does not wait on it. -/
theorem lock_honoured_iff {bufferHandle : Ptr} {cpuUsage : BitVec 64} {region : ARect}
    (valid : answer.Valid) (positive : 0 ≤ fence.toInt)
    (h : (lock bufferHandle cpuUsage region).perform answer syncWait m fence = .ok s') :
    FenceHonoured fence syncWait (m.process.callsSince s') ↔
      ¬ MapsThrough answer m bufferHandle cpuUsage := by
  have given : fence ≠ -1 := by
    rintro rfl
    exact absurd positive (by decide)
  obtain ⟨⟨error, addr, m'⟩, hlock, h⟩ := bind_eq_ok.mp h
  cases h
  obtain ⟨⟨error', addr', s⟩, hbody, hlock⟩ := bind_eq_ok.mp hlock
  cases hlock
  obtain ⟨made, made_eq, calls⟩ := lockBody_calls hbody
  have since : m.process.callsSince (closeUniqueFd s fence) = .close fence :: made := by
    apply Process.callsSince_eq
    unfold closeUniqueFd
    rw [if_neg given]
    change Call.close fence :: s.calls = _
    rw [made_eq]
    rfl
  dsimp only
  rw [since]
  cases calls with
  | nothing unmapped calls =>
      exact iff_of_true (fenceHonoured_of_mapsNothing calls syncWait) unmapped
  | mapped maps answered =>
      rw [answered] at valid
      exact iff_of_false (not_fenceHonoured_of_mapped valid.2 syncWait) (not_not_intro maps)

/-- A wait that fails leaves the fence open. -/
theorem not_honoured_of_failed (s : Process) :
    ¬ FenceHonoured fence syncWait (s.callsSince (s.log (.syncWait fence 3000))) := by
  intro h
  have waits : s.callsSince (s.log (.syncWait fence 3000)) = [.syncWait fence 3000] :=
    Process.callsSince_eq rfl
  have closed := h.closed
  rw [waits] at closed
  simp at closed

/-- A wait that succeeds is followed by the close and the lock. -/
theorem waited_honoured {s s' : Process} {handle : Ptr} {usage : Word} {ret : Int}
    {addr : Option Ptr} (success : 0 ≤ syncWait)
    (h : grallocGbmBoLock answer ((s.log (.syncWait fence 3000)).close fence) handle usage =
      .ok (ret, addr, s')) : FenceHonoured fence syncWait (s.callsSince s') := by
  obtain ⟨made, made_eq, calls⟩ := grallocGbmBoLock_calls h
  have since : s.callsSince s' = made ++ [.close fence, .syncWait fence 3000] := by
    apply Process.callsSince_eq
    rw [made_eq, List.append_assoc]
    rfl
  rw [since]
  exact fenceHonoured_of_waited calls fence success 3000

theorem lockAsync_honoured_iff {handle : Ptr} {usage : Word} (positive : 0 ≤ fence.toInt)
    (h : (lockAsync handle usage).perform answer syncWait m fence = .ok s') :
    FenceHonoured fence syncWait (m.process.callsSince s') ↔ 0 ≤ syncWait := by
  obtain ⟨⟨ret, addr, s⟩, hlock, h⟩ := bind_eq_ok.mp h
  cases h
  unfold grallocGbmBoLockAsync at hlock
  rw [if_pos positive] at hlock
  by_cases failed : syncWait < 0
  · simp only [if_pos failed] at hlock
    cases hlock
    exact iff_of_false (not_honoured_of_failed m.process) (Int.not_le.mpr failed)
  · simp only [if_neg failed] at hlock
    rw [Int.not_lt] at failed
    exact iff_of_true (waited_honoured failed hlock) failed

/-- The planes are computed from the handle after the lock. -/
theorem grallocGbmBoLockYcbcr_process {s s' : Process} {handle : Ptr} {usage : Word} {ret : Int}
    {ycbcr : Option AndroidYcbcr}
    (h : grallocGbmBoLockYcbcr answer s handle usage = .ok (ret, ycbcr, s')) :
    ∃ ret addr, grallocGbmBoLock answer s handle usage = .ok (ret, addr, s') := by
  obtain ⟨⟨ret₁, addr, s₁⟩, hlock, h⟩ := bind_eq_ok.mp h
  refine ⟨ret₁, addr, ?_⟩
  rw [hlock]
  dsimp only at h
  split at h
  · cases h
    rfl
  · obtain ⟨hnd, -, h⟩ := bind_eq_ok.mp h
    obtain ⟨format, -, h⟩ := bind_eq_ok.mp h
    obtain ⟨width, -, h⟩ := bind_eq_ok.mp h
    obtain ⟨height, -, h⟩ := bind_eq_ok.mp h
    split at h <;> cases h <;> rfl

theorem lockAsyncYcbcr_honoured_iff {handle : Ptr} {usage : Word} (positive : 0 ≤ fence.toInt)
    (h : (lockAsyncYcbcr handle usage).perform answer syncWait m fence = .ok s') :
    FenceHonoured fence syncWait (m.process.callsSince s') ↔ 0 ≤ syncWait := by
  obtain ⟨⟨ret, ycbcr, s⟩, hlock, h⟩ := bind_eq_ok.mp h
  cases h
  unfold grallocGbmBoLockAsyncYcbcr at hlock
  rw [if_pos positive] at hlock
  by_cases failed : syncWait < 0
  · simp only [if_pos failed] at hlock
    cases hlock
    exact iff_of_false (not_honoured_of_failed m.process) (Int.not_le.mpr failed)
  · simp only [if_neg failed] at hlock
    rw [Int.not_lt] at failed
    obtain ⟨ret₁, addr, hcore⟩ := grallocGbmBoLockYcbcr_process hlock
    exact iff_of_true (waited_honoured failed hcore) failed

end FencedCall

/-- Each entry point honours and consumes its fence exactly under its condition. -/
theorem fence_honoured_iff {call : FencedCall} {answer : GbmMapResult} {syncWait : Int}
    {m : MapperState} {fence : Fd} {s' : Process} (valid : answer.Valid)
    (positive : 0 ≤ fence.toInt) (h : call.perform answer syncWait m fence = .ok s') :
    FenceHonoured fence syncWait (m.process.callsSince s') ↔
      call.HonoursWhen answer syncWait m := by
  cases call with
  | lock bufferHandle cpuUsage region => exact FencedCall.lock_honoured_iff valid positive h
  | lockAsync handle usage => exact FencedCall.lockAsync_honoured_iff positive h
  | lockAsyncYcbcr handle usage => exact FencedCall.lockAsyncYcbcr_honoured_iff positive h

theorem fence_honoured_iff_imported :
    ∃ s', (FencedCall.lockAsync 16 3).perform (.mapped 4096 7 256#32) 0 importedSession.mapper
        9#32 = .ok s' ∧
      FenceHonoured 9#32 0 (importedSession.mapper.process.callsSince s') := by
  refine ⟨_, rfl, ?_⟩
  have valid : (GbmMapResult.mapped 4096 7 256#32).Valid := by decide
  exact (fence_honoured_iff valid (by decide)
    (show (FencedCall.lockAsync 16 3).perform (.mapped 4096 7 256#32) 0 importedSession.mapper
      9#32 = _ from rfl)).mpr (Int.le_refl 0)

/-- The mapper maps without a wait, and a timeout leaves the fence open. -/
theorem fence_dishonoured :
    (∃ s', (FencedCall.lock 16 3 ⟨0, 0, 64#32, 64#32⟩).perform (.mapped 4096 7 256#32) 0
        importedSession.mapper 9#32 = .ok s' ∧
      ¬ FenceHonoured 9#32 0 (importedSession.mapper.process.callsSince s')) ∧
      ∃ s', (FencedCall.lockAsync 16 3).perform (.mapped 4096 7 256#32) (-62)
          importedSession.mapper 9#32 = .ok s' ∧
        ¬ FenceHonoured 9#32 (-62) (importedSession.mapper.process.callsSince s') := by
  constructor
  · refine ⟨_, rfl, ?_⟩
    exact not_fenceHonoured_of_mapped (show (7 : Ptr) ≠ 0 by decide) 0
  · refine ⟨_, rfl, ?_⟩
    exact FencedCall.not_honoured_of_failed importedSession.mapper.process

end GrallocGbmMesa.Mapper
