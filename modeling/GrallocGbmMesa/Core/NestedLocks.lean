import GrallocGbmMesa.Core.LockSafety

/-!
# Nested locks

Locks of one buffer may nest as long as none of them has CPU access: a second
lock for CPU access finds the buffer mapped and is turned away, however
compatible its usage is.  The mapping itself is released by the last unlock.
-/

namespace GrallocGbmMesa.Core

open Bits Checked TransitionSystem
open GrallocGbmMesa.Platform

/-- A plain lock or unlock of one buffer. -/
def LockEvent.Plain (handle : Ptr) (event : LockEvent) : Prop :=
  (∃ usage answer, event.call = .lock handle usage answer) ∨ event.call = .unlock handle

/-- The locks outstanding after one more call; a call that fails changes nothing. -/
def countEvent (outstanding : Nat) (event : LockEvent) : Nat :=
  if event.ret ≠ 0 then outstanding
  else if event.call.request = none then outstanding - 1
  else outstanding + 1

/-- The successful locks of a history that no unlock has taken back. -/
def outstandingLocks (history : List LockEvent) : Nat := history.foldl countEvent 0

theorem outstandingLocks_snoc (history : List LockEvent) (event : LockEvent) :
    outstandingLocks (history ++ [event]) = countEvent (outstandingLocks history) event := by
  simp [outstandingLocks]

/-- After a history of one buffer its state counts the locks outstanding, and
its handle admits what it is locked for. -/
structure NestedInv (handle : Ptr) (history : List LockEvent) (s : Process) (p : Ptr) (bo : GbmBo)
    (hold : Hold) : Prop where
  inv : LockInv s
  buffer : Buffer s handle p bo
  represents : Represents bo hold
  count : hold.count = outstandingLocks history
  accepted : hold.count ≠ 0 → Accepts s handle hold.lockedFor

theorem Hold.Locks.accepts {bo : GbmBo} {usage : Word} {hold hold' : Hold} {addr : Option Ptr}
    (h : Hold.Locks bo usage hold addr hold') {s : Process} {handle : Ptr}
    (before : hold.count ≠ 0 → Accepts s handle hold.lockedFor)
    (accepted : Accepts s handle usage) :
    Accepts s handle hold'.lockedFor := by
  cases h with
  | share | map => exact accepted
  | join within => exact before (Nat.succ_ne_zero _)

theorem Accepts.putBo {s : Process} {handle : Ptr} {usage : Word} (h : Accepts s handle usage)
    (p : Ptr) (bo : GbmBo) (calls : List Call) : Accepts (putBo s p bo calls) handle usage := h

theorem NestedInv.step {handle p : Ptr} {history : List LockEvent} {s s' : Process} {bo : GbmBo}
    {hold : Hold} {event : LockEvent} (h : NestedInv handle history s p bo hold)
    (plain : event.Plain handle) (hstep : lockSystem.step s event s') :
    ∃ bo' hold', NestedInv handle (history ++ [event]) s' p bo' hold' := by
  have inv' := h.inv.step hstep
  obtain ⟨answered, returns⟩ := hstep
  obtain ⟨call, ret, addr⟩ := event
  rcases plain with ⟨usage, answer, same⟩ | same
  · obtain rfl : call = .lock handle usage answer := same
    have counts : countEvent hold.count ⟨.lock handle usage answer, ret, addr⟩ =
        if ret ≠ 0 then hold.count else hold.count + 1 := rfl
    rcases grallocGbmBoLock_returns (h.inv.registryLive handle) returns with
      ⟨-, unregistered, -⟩ | ⟨q, bo₀, native, handleUsage, bo', calls, registered, live, hnative,
        husage, lockReturns, rfl⟩
    · rw [h.buffer.1] at unregistered
      cases unregistered
    · cases h.buffer.1.symm.trans registered
      cases h.buffer.2.symm.trans live
      rcases h.represents.lock (answered _ _ rfl) lockReturns with
        ⟨failed, after⟩ | ⟨succeeded, hold', locks, after⟩
      · refine ⟨bo', hold, inv', ⟨registered, putBo_bos_self ..⟩, after, ?_, h.accepted⟩
        rw [outstandingLocks_snoc, ← h.count, counts, if_pos failed]
      · refine ⟨bo', hold', inv', ⟨registered, putBo_bos_self ..⟩, after, ?_, fun _ => ?_⟩
        · rw [outstandingLocks_snoc, ← h.count, counts, if_neg (not_not_intro succeeded),
            locks.count]
        · exact locks.accepts h.accepted
            ⟨native, handleUsage, hnative, husage, lockReturns.accepted succeeded⟩
  · obtain rfl : call = .unlock handle := same
    obtain ⟨⟨ret', s₁⟩, unlocks, same⟩ := bind_eq_ok.mp returns
    cases same
    rcases grallocGbmBoUnlock_returns (h.inv.registryLive handle) unlocks with
      ⟨-, unregistered, -⟩ | ⟨q, bo₀, bo', calls, registered, live, unlockReturns, rfl, rfl⟩
    · rw [h.buffer.1] at unregistered
      cases unregistered
    · cases h.buffer.1.symm.trans registered
      cases h.buffer.2.symm.trans live
      refine ⟨bo', hold.unlock, inv', ⟨registered, putBo_bos_self ..⟩,
        (h.represents.unlock unlockReturns).1, ?_, ?_⟩
      · rw [outstandingLocks_snoc, ← h.count, Hold.unlock_count]
        rfl
      · intro held
        rw [Hold.unlock_lockedFor held]
        refine (h.accepted ?_).putBo ..
        rw [Hold.unlock_count] at held
        omega

theorem NestedInv.run {handle p : Ptr} {first s : Process} {labels : List LockEvent}
    (ready : LocksReady first) (registered : first.gbmBoHandleMap handle = some p)
    (run : Run lockSystem first labels s) (plain : ∀ event ∈ labels, event.Plain handle) :
    ∃ bo hold, NestedInv handle labels s p bo hold := by
  obtain ⟨bo, hbo, fresh, unmapped⟩ := ready.fresh handle p registered
  have idle := represents_idle fresh unmapped
  refine run.history_invariant
    (fun history s => (∀ event ∈ history, event.Plain handle) →
      ∃ bo hold, NestedInv handle history s p bo hold) ?_ ?_ plain
  · intro _
    exact ⟨bo, .idle, ready.inv, ⟨registered, hbo⟩, idle, rfl, fun held => absurd rfl held⟩
  · intro history state event next ih hstep plain
    obtain ⟨bo, hold, before⟩ := ih fun event hmem => plain event (List.mem_append_left _ hmem)
    exact before.step (plain event (by simp)) hstep

/-! ## Which nested locks are granted -/

/-- `gbm_bo_map` succeeds. -/
def GbmMapResult.Maps (bo : GbmBo) (answer : GbmMapResult) : Prop :=
  ∃ addr mapData, answer = .mapped addr mapData bo.stride ∧ addr ≠ 0 ∧ mapData ≠ 0

theorem GbmMapResult.Maps.fits {bo : GbmBo} {answer : GbmMapResult} (h : answer.Maps bo) :
    answer.Fits bo := by
  obtain ⟨addr, mapData, rfl, -⟩ := h
  exact rfl

/-- The lock succeeds, and a lock for CPU access gives out the address the
buffer is mapped at. -/
def LockGranted (s : Process) (handle : Ptr) (bo : GbmBo) (answer : GbmMapResult)
    (usage : Word) : Prop :=
  ∃ addr s', grallocGbmBoLock answer s handle usage = .ok (0, addr, s') ∧
    (CpuUsage usage → ∃ mapping ∈ bo.mappings, addr = some mapping.addr)

/-- A held buffer has room for a lock without CPU access, and for no other. -/
theorem NestedInv.granted_iff {handle p : Ptr} {history : List LockEvent} {s : Process}
    {bo : GbmBo} {hold : Hold} (h : NestedInv handle history s p bo hold) {answer : GbmMapResult}
    {usage : Word} (maps : answer.Maps bo) (held : hold.count ≠ 0)
    (within : Within usage hold.lockedFor) :
    LockGranted s handle bo answer usage ↔
      ¬ CpuUsage hold.lockedFor ∧ (boData bo).lockCount ≠ intMax := by
  obtain ⟨native, handleUsage, hnative, husage, accepted⟩ := h.accepted held
  have inPlace := grallocGbmBoLock_eq h.buffer.1 hnative husage h.buffer.2 answer usage
  have usages : usage ||| (boData bo).lockedFor = hold.lockedFor := by
    rw [h.represents.lockedFor, within.or_eq']
  constructor
  · rintro ⟨addr, s', granted, -⟩
    rw [inPlace] at granted
    obtain ⟨⟨ret, addr', bo', calls⟩, hlock, same⟩ := map_eq_ok.mp granted
    obtain rfl : ret = 0 := congrArg Prod.fst same
    cases lockBo_returns hlock with
    | shared accepted compatible noCpu room => exact ⟨usages ▸ noCpu, room⟩
    | mapped accepted compatible cpu unmapped succeeded room =>
        obtain ⟨rfl, -⟩ := h.represents.idle_of_unmapped compatible cpu unmapped
        exact absurd rfl held
  · rintro ⟨noCpu, room⟩
    obtain ⟨ret, addr, bo', calls, hlock⟩ := lockBo_defined p handleUsage usage maps.fits room
    have quiet : ¬ CpuUsage usage := fun cpu => noCpu (within.meets cpu)
    cases lockBo_returns hlock with
    | refused hrefused =>
        exact absurd hrefused (not_usageRefused_of_within within accepted)
    | incompatible accepted clash =>
        exact absurd (.inr (h.represents.lockedFor ▸ within)) clash
    | shared accepted compatible noCpu room =>
        rw [hlock] at inPlace
        exact ⟨none, _, inPlace, fun cpu => absurd cpu quiet⟩
    | occupied accepted compatible cpu => exact absurd (usages ▸ cpu) noCpu
    | mapFailed accepted compatible cpu => exact absurd (usages ▸ cpu) noCpu
    | mapped accepted compatible cpu => exact absurd (usages ▸ cpu) noCpu

/-- While locks are outstanding the buffer keeps its mapping, and an unlock
releases it only when it takes back the last of them. -/
structure MappedToTheLast (s : Process) (handle p : Ptr) (bo : GbmBo) (outstanding : Nat) :
    Prop where
  mapped : bo.mappings ≠ [] ↔ 0 < outstanding ∧ CpuUsage (boData bo).lockedFor
  kept : ∀ labels s' bo', Run (lockSystem.within (Held p)) s labels s' → s'.bos p = some bo' →
    bo'.mappings = bo.mappings
  last : ∀ s' bo', grallocGbmBoUnlock s handle = .ok (0, s') → s'.bos p = some bo' →
    bo.mappings ≠ [] → (outstanding = 1 ∧ bo'.mappings = [])

theorem NestedInv.mappedToTheLast {handle p : Ptr} {history : List LockEvent} {s : Process}
    {bo : GbmBo} {hold : Hold} (h : NestedInv handle history s p bo hold) :
    MappedToTheLast s handle p bo (outstandingLocks history) where
  mapped := by
    rw [← h.count, h.represents.mappings, h.represents.lockedFor]
    cases hold with
    | idle => exact iff_of_false (not_not_intro rfl) fun held => Nat.lt_irrefl 0 held.1
    | shared more usage noCpu => exact iff_of_false (not_not_intro rfl) fun held => noCpu held.2
    | mapped usage mapping cpu mapDataNonNull addrNonNull flags =>
        exact iff_of_true (List.cons_ne_nil _ _) ⟨Nat.one_pos, cpu⟩
  kept labels s' bo' run hbo' := by
    obtain ⟨-, bo₁, hold₁, buffer₁, represents₁, -, same⟩ :=
      h.inv.held_run h.buffer h.represents run
    obtain rfl : bo₁ = bo' := Option.some.inj (buffer₁.2.symm.trans hbo')
    rw [represents₁.mappings, same, h.represents.mappings]
  last s' bo' unlocks hbo' mapped := by
    rcases grallocGbmBoUnlock_returns (h.inv.registryLive handle) unlocks with
      ⟨failed, -⟩ | ⟨q, bo₀, bo₁, calls, registered, live, returns, -, rfl⟩
    · exact absurd rfl failed
    · cases h.buffer.1.symm.trans registered
      cases h.buffer.2.symm.trans live
      obtain rfl : bo₁ = bo' := Option.some.inj ((putBo_bos_self ..).symm.trans hbo')
      rw [← h.count, (h.represents.unlock returns).1.mappings]
      rw [h.represents.mappings] at mapped
      cases hold with
      | idle | shared => exact absurd rfl mapped
      | mapped usage mapping cpu mapDataNonNull addrNonNull flags => exact ⟨rfl, rfl⟩

/-- Locks and unlocks of one buffer, nested to any depth: the counter holds the
locks outstanding and the last of them to be taken back releases the mapping,
but a further lock that the outstanding ones allow is granted exactly when they
have no CPU access. -/
theorem nestedLocks {handle p : Ptr} {first s : Process} {labels : List LockEvent}
    (ready : LocksReady first) (registered : first.gbmBoHandleMap handle = some p)
    (run : Run lockSystem first labels s) (plain : ∀ event ∈ labels, event.Plain handle) :
    ∃ bo, Buffer s handle p bo ∧ (boData bo).lockCount = outstandingLocks labels ∧
      MappedToTheLast s handle p bo (outstandingLocks labels) ∧
      ∀ answer usage, answer.Maps bo → 0 < (boData bo).lockCount →
        Within usage (boData bo).lockedFor →
        (LockGranted s handle bo answer usage ↔
          ¬ CpuUsage (boData bo).lockedFor ∧ (boData bo).lockCount ≠ intMax) := by
  obtain ⟨bo, hold, h⟩ := NestedInv.run ready registered run plain
  refine ⟨bo, h.buffer, ?_, h.mappedToTheLast, ?_⟩
  · rw [h.represents.lockCount, h.count]
  · intro answer usage maps held within
    rw [h.represents.lockedFor] at within ⊢
    rw [h.represents.lockCount, Int.natCast_pos] at held
    exact h.granted_iff maps (Nat.ne_of_gt held) within

/-- A read lock inside a read lock is turned away. -/
theorem nestedLocks_refused :
    ∃ s bo, grallocGbmBoLock (.mapped 4096 7 256#32) oneBuffer 16 grallocUsageSwReadOften =
        .ok (0, some 4096, s) ∧
      Buffer s 16 32 bo ∧ 0 < (boData bo).lockCount ∧
      Within grallocUsageSwReadOften (boData bo).lockedFor ∧
      ∃ s', grallocGbmBoLock (.mapped 4096 7 256#32) s 16 grallocUsageSwReadOften =
        .ok (-einval, none, s') :=
  ⟨_, _, rfl, ⟨rfl, rfl⟩, by decide, by decide, _, rfl⟩

def textureLock : LockEvent :=
  ⟨.lock 16 grallocUsageHwTexture (.mapped 4096 7 256#32), 0, none⟩

/-- A third lock without CPU access is granted inside two. -/
theorem nestedLocks_oneBuffer :
    ∃ s bo, Run lockSystem oneBuffer [textureLock, textureLock] s ∧ Buffer s 16 32 bo ∧
      (boData bo).lockCount = 2 ∧ MappedToTheLast s 16 32 bo 2 ∧
      LockGranted s 16 bo (.mapped 4096 7 256#32) grallocUsageHwTexture := by
  obtain ⟨s₁, s, bo, first, second, buffer, stride, lockedFor⟩ : ∃ s₁ s bo,
      textureLock.call.perform oneBuffer = .ok (0, none, s₁) ∧
      textureLock.call.perform s₁ = .ok (0, none, s) ∧ Buffer s 16 32 bo ∧
      bo.stride = 256#32 ∧ (boData bo).lockedFor = grallocUsageHwTexture :=
    ⟨_, _, _, rfl, rfl, ⟨rfl, rfl⟩, rfl, rfl⟩
  have answered : textureLock.call.Answered := by
    rintro _ _ ⟨⟩
    exact ⟨by decide, by decide⟩
  have once : Run lockSystem oneBuffer [textureLock] s₁ := .single ⟨answered, first⟩
  have run : Run lockSystem oneBuffer [textureLock, textureLock] s :=
    once.tail ⟨answered, second⟩
  have plain : ∀ event ∈ [textureLock, textureLock], event.Plain 16 := by
    intro event hmem
    obtain rfl : event = textureLock := by simpa using hmem
    exact .inl ⟨_, _, rfl⟩
  obtain ⟨bo', buffer', count, mapped, grants⟩ :=
    nestedLocks oneBuffer_ready (show _ = some 32 from rfl) run plain
  obtain rfl := (buffer'.unique buffer).2
  have two : (boData bo').lockCount = 2 := count
  refine ⟨s, bo', run, buffer, two, mapped, (grants _ _ ?_ ?_ ?_).mpr ⟨?_, ?_⟩⟩
  · exact ⟨4096, 7, by rw [stride], by decide, by decide⟩
  · omega
  · exact lockedFor ▸ Within.refl _
  · rw [lockedFor]
    decide
  · rw [two]
    decide

end GrallocGbmMesa.Core
