import GrallocGbmMesa.Core.LockRuns

/-!
# Safety of the lock state machine

The words of every buffer stay consistent along every run of lock and unlock
calls, no mapping is released twice, and the address a CPU lock gives out stays
mapped until the buffer is unlocked.
-/

namespace GrallocGbmMesa.Core

open Bits Checked TransitionSystem
open GrallocGbmMesa.Platform

/-- What the words of a BO and its mappings say about each other. -/
structure LockWords (bo : GbmBo) : Prop where
  free : (boData bo).lockCount = 0 → (boData bo).lockedFor = 0 ∧ (boData bo).mapData = 0
  mapped : (boData bo).mapData ≠ 0 ↔ 0 < (boData bo).lockCount ∧ CpuUsage (boData bo).lockedFor
  single : bo.mappings.length ≤ 1
  writable : ∀ mapping ∈ bo.mappings,
    (Meets mapping.flags gbmBoTransferWrite ↔ CpuWrite (boData bo).lockedFor)

theorem mapFlags_write (write : Bool) :
    Meets (mapFlags write) gbmBoTransferWrite ↔ write = true := by
  cases write <;> decide

theorem Represents.lockWords {bo : GbmBo} {hold : Hold} (h : Represents bo hold) :
    LockWords bo := by
  refine ⟨?_, ?_, ?_, ?_⟩
  · rw [h.data]
    intro free
    obtain rfl := Hold.eq_idle (Int.natCast_eq_zero.mp free)
    exact ⟨rfl, rfl⟩
  · rw [h.data]
    cases hold with
    | idle => exact iff_of_false (not_not_intro rfl) fun held => Int.lt_irrefl 0 held.1
    | shared more usage noCpu => exact iff_of_false (not_not_intro rfl) fun held => noCpu held.2
    | mapped usage mapping cpu mapDataNonNull addrNonNull flags =>
        exact iff_of_true mapDataNonNull ⟨Int.one_pos, cpu⟩
  · rw [h.mappings]
    cases hold.mapping <;> simp
  · rw [h.mappings, h.lockedFor]
    cases hold with
    | idle | shared => rintro mapping ⟨⟩
    | mapped usage mapping cpu mapDataNonNull addrNonNull flags =>
        intro other hmem
        obtain rfl := List.mem_singleton.mp hmem
        rw [flags, mapFlags_write, decide_eq_true_eq]
        rfl

/-- A buffer that is held has user data. -/
theorem Represents.attached {bo : GbmBo} {hold : Hold} (h : Represents bo hold)
    (held : hold.count ≠ 0) : bo.userData ≠ none := by
  intro none
  have count := h.lockCount
  rw [boData, none] at count
  exact held (Int.natCast_eq_zero.mp count.symm)

/-- A mapping that was made has a `map_data`. -/
theorem made_ne_zero (p : Ptr) (calls : List Call) : 0 ∉ made p calls := by
  intro hmem
  obtain ⟨call, -, hcall⟩ := List.mem_filterMap.mp hmem
  unfold mapOf at hcall
  split at hcall
  · split at hcall
    · rename_i nonNull
      cases hcall
      exact nonNull.2 rfl
    · cases hcall
  · cases hcall

/-! ## Steps of one buffer -/

namespace HoldStep

variable {s : Process} {event : LockEvent} {handle : Ptr} {bo : GbmBo} {hold hold' : Hold}

/-- Between its first lock and its last unlock a buffer is locked for one usage. -/
theorem lockedFor (h : HoldStep s event handle bo hold hold') (held : hold.count ≠ 0)
    (still : hold'.count ≠ 0) : hold'.lockedFor = hold.lockedFor := by
  cases h with
  | kept hcall => rfl
  | locked hhandle hrequest accepted locks given => exact locks.lockedFor held
  | unlocked hhandle hrequest => exact Hold.unlock_lockedFor still

/-- As long as a buffer is held its mapping stays. -/
theorem mapping (h : HoldStep s event handle bo hold hold') (held : hold.count ≠ 0)
    (still : hold'.count ≠ 0) : hold'.mapping = hold.mapping := by
  cases h with
  | kept hcall => rfl
  | locked hhandle hrequest accepted locks given =>
      cases locks with
      | share | map => exact absurd rfl held
      | join within => rfl
  | unlocked hhandle hrequest => exact Hold.unlock_mapping still

/-- A mapped buffer stays as it is until it is unlocked. -/
theorem keeps_mapped (h : HoldStep s event handle bo hold hold') {mapping : Mapping}
    (mapped : hold.mapping = some mapping)
    (noUnlock : event.call.request = none → event.call.handle ≠ handle) :
    hold'.mapping = some mapping := by
  cases h with
  | kept hcall => exact mapped
  | locked hhandle hrequest accepted locks given => cases locks <;> cases mapped
  | unlocked hhandle hrequest => exact absurd hhandle (noUnlock hrequest)

/-- A lock that succeeds takes the lock. -/
theorem of_success (h : HoldStep s event handle bo hold hold')
    (hhandle : event.call.handle = handle)
    {usage : Word} {answer : GbmMapResult} (hrequest : event.call.request = some (usage, answer))
    (succeeded : event.ret = 0) :
    ∃ addr, Hold.Locks bo usage hold addr hold' ∧
      ∀ given, addr = some given → event.addr = some given := by
  cases h with
  | kept hcall => exact absurd succeeded (hcall hhandle)
  | locked hhandle hrequest' accepted locks given =>
      rw [hrequest] at hrequest'
      cases hrequest'
      exact ⟨_, locks, given succeeded⟩
  | unlocked hhandle hrequest' =>
      rw [hrequest] at hrequest'
      cases hrequest'

end HoldStep

/-- A lock for CPU access that succeeds gives out the address of the mapping. -/
theorem Hold.Locks.mapping {bo : GbmBo} {usage : Word} {hold hold' : Hold} {addr : Option Ptr}
    (h : Hold.Locks bo usage hold addr hold') (cpu : CpuUsage usage) :
    ∃ mapping, hold'.mapping = some mapping ∧ addr = some mapping.addr := by
  cases h with
  | share noCpu => exact absurd cpu noCpu
  | @join more held noCpu within => exact absurd (within.meets cpu) noCpu
  | map cpu mapDataNonNull addrNonNull => exact ⟨_, rfl, rfl⟩

/-! ## Runs -/

/-- A registered buffer and its BO. -/
def Buffer (s : Process) (handle p : Ptr) (bo : GbmBo) : Prop :=
  s.gbmBoHandleMap handle = some p ∧ s.bos p = some bo

theorem Buffer.unique {s : Process} {handle p q : Ptr} {bo bo' : GbmBo}
    (first : Buffer s handle p bo) (second : Buffer s handle q bo') : p = q ∧ bo = bo' := by
  obtain rfl := Option.some.inj (first.1.symm.trans second.1)
  exact ⟨rfl, Option.some.inj (first.2.symm.trans second.2)⟩

/-- The buffer behind `p` is locked. -/
def Held (p : Ptr) (s : Process) : Prop := ∃ bo, s.bos p = some bo ∧ 0 < (boData bo).lockCount

/-- Every buffer has consistent words, every mapping that was made is the live
one or was released in its turn, and neither a lock nor an unlock goes wrong
before the counter is full. -/
structure LocksConsistent (s : Process) : Prop where
  live : ∀ handle p, s.gbmBoHandleMap handle = some p → ∃ bo, s.bos p = some bo
  words : ∀ handle p bo, Buffer s handle p bo → LockWords bo
  released : ∀ handle p bo, Buffer s handle p bo →
    made p s.calls = Core.released p s.calls ++ Core.live bo ∧ 0 ∉ Core.released p s.calls
  unlock : ∀ handle p bo, Buffer s handle p bo → bo.userData ≠ none →
    ∃ s', grallocGbmBoUnlock s handle = .ok (0, s')
  lock : ∀ handle p bo native handleUsage answer usage, Buffer s handle p bo →
    s.handles handle = some native → native.usage = .ok handleUsage → answer.Fits bo →
    (boData bo).lockCount ≠ intMax →
    ∃ ret addr s', grallocGbmBoLock answer s handle usage = .ok (ret, addr, s')

/-- As long as a buffer is held, it is locked for the same usage. -/
def LockedForKept (s : Process) : Prop :=
  ∀ handle p bo labels s' bo', Buffer s handle p bo →
    Run (lockSystem.within (Held p)) s labels s' → s'.bos p = some bo' →
    (boData bo').lockedFor = (boData bo).lockedFor

/-- What a successful CPU lock gives out stays mapped until the buffer is unlocked. -/
def PointerKept (s : Process) : Prop :=
  ∀ event s₁ usage answer, lockSystem.step s event s₁ →
    event.call.request = some (usage, answer) → CpuUsage usage → event.ret = 0 →
    ∃ addr, event.addr = some addr ∧ ∀ labels s₂, Run lockSystem s₁ labels s₂ →
      (∀ later ∈ labels, later.call.request = none → later.call.handle ≠ event.call.handle) →
      ∃ p bo mapping, Buffer s₂ event.call.handle p bo ∧ mapping ∈ bo.mappings ∧
        mapping.addr = addr

/-- An unlock right after a successful lock restores the words of the buffer. -/
def UnlockRestores (s : Process) : Prop :=
  ∀ event s₁, lockSystem.step s event s₁ → event.call.request ≠ none → event.ret = 0 →
    ∃ p bo s₂ bo₂, Buffer s event.call.handle p bo ∧
      grallocGbmBoUnlock s₁ event.call.handle = .ok (0, s₂) ∧
      Buffer s₂ event.call.handle p bo₂ ∧ boData bo₂ = boData bo

/-- What an unlock does to a buffer with user data. -/
theorem Represents.unlock_process {s : Process} {handle p : Ptr} {bo : GbmBo} {hold : Hold}
    (h : Represents bo hold) (buffer : Buffer s handle p bo) (attached : bo.userData ≠ none) :
    ∃ s' bo', grallocGbmBoUnlock s handle = .ok (0, s') ∧ Buffer s' handle p bo' ∧
      Represents bo' hold.unlock := by
  obtain ⟨bo', calls, returns⟩ := h.unlock_defined attached p
  refine ⟨putBo s p bo' calls, bo', ?_, ⟨buffer.1, putBo_bos_self ..⟩, (h.unlock returns).1⟩
  rw [grallocGbmBoUnlock_eq buffer.1 buffer.2, unlockBo_eq_ok.mpr returns]
  rfl

namespace LockInv

variable {s : Process}

theorem represents (inv : LockInv s) {handle p : Ptr} {bo : GbmBo} (buffer : Buffer s handle p bo) :
    ∃ hold, Represents bo hold := by
  obtain ⟨bo', hold, hbo, represents⟩ := inv.holds handle p buffer.1
  cases hbo.symm.trans buffer.2
  exact ⟨hold, represents⟩

theorem consistent (inv : LockInv s) : LocksConsistent s where
  live handle p registered := by
    obtain ⟨bo, hold, hbo, -⟩ := inv.holds handle p registered
    exact ⟨bo, hbo⟩
  words handle p bo buffer := by
    obtain ⟨hold, represents⟩ := inv.represents buffer
    exact represents.lockWords
  released handle p bo buffer := by
    have ledger := inv.ledger handle p bo buffer.1 buffer.2
    refine ⟨ledger, fun zero => made_ne_zero p s.calls ?_⟩
    rw [ledger]
    exact List.mem_append_left _ zero
  unlock handle p bo buffer attached := by
    obtain ⟨hold, represents⟩ := inv.represents buffer
    obtain ⟨s', bo', returns, -⟩ := represents.unlock_process buffer attached
    exact ⟨s', returns⟩
  lock handle p bo native handleUsage answer usage buffer hnative husage fits room := by
    obtain ⟨ret, addr, bo', calls, hlock⟩ := lockBo_defined p handleUsage usage fits room
    refine ⟨ret, addr, putBo s p bo' calls, ?_⟩
    rw [grallocGbmBoLock_eq buffer.1 hnative husage buffer.2, hlock]
    rfl

/-- The buffers after a step, and how their states moved. -/
theorem buffer_step (inv : LockInv s) {event : LockEvent} {s' : Process}
    (hstep : lockSystem.step s event s') {handle p : Ptr} {bo : GbmBo} {hold : Hold}
    (buffer : Buffer s handle p bo) (represents : Represents bo hold) :
    ∃ bo' hold', Buffer s' handle p bo' ∧ Represents bo' hold' ∧
      HoldStep s event handle bo hold hold' := by
  obtain ⟨bo', hold', moved⟩ := inv.moves hstep buffer.1 buffer.2 represents
  refine ⟨bo', hold', ⟨?_, moved.live⟩, moved.represents, moved.moves⟩
  rw [lockSystem_registry inv hstep]
  exact buffer.1

/-- A run through which a buffer is held keeps its usage and its mapping. -/
theorem held_run (inv : LockInv s) {handle p : Ptr} {bo : GbmBo} {hold : Hold}
    (buffer : Buffer s handle p bo) (represents : Represents bo hold) {labels : List LockEvent}
    {s' : Process} (run : Run (lockSystem.within (Held p)) s labels s') :
    LockInv s' ∧ ∃ bo' hold', Buffer s' handle p bo' ∧ Represents bo' hold' ∧
      hold'.lockedFor = hold.lockedFor ∧ hold'.mapping = hold.mapping := by
  refine run.invariant
    (fun s' => LockInv s' ∧ ∃ bo' hold', Buffer s' handle p bo' ∧ Represents bo' hold' ∧
      hold'.lockedFor = hold.lockedFor ∧ hold'.mapping = hold.mapping)
    ⟨inv, bo, hold, buffer, represents, rfl, rfl⟩ ?_
  rintro state event next ⟨inv, bo₁, hold₁, buffer₁, represents₁, usage, mapping⟩
    ⟨⟨held₁, hbo₁, held⟩, hstep, still₂⟩
  obtain ⟨held₂, hbo₂, still⟩ := still₂
  obtain ⟨bo₂, hold₂, buffer₂, represents₂, moves⟩ := inv.buffer_step hstep buffer₁ represents₁
  obtain rfl : held₁ = bo₁ := Option.some.inj (hbo₁.symm.trans buffer₁.2)
  obtain rfl : held₂ = bo₂ := Option.some.inj (hbo₂.symm.trans buffer₂.2)
  rw [represents₁.lockCount, Int.natCast_pos] at held
  rw [represents₂.lockCount, Int.natCast_pos] at still
  refine ⟨inv.step hstep, held₂, hold₂, buffer₂, represents₂, ?_, ?_⟩
  · rw [moves.lockedFor (Nat.ne_of_gt held) (Nat.ne_of_gt still), usage]
  · rw [moves.mapping (Nat.ne_of_gt held) (Nat.ne_of_gt still), mapping]

theorem lockedForKept (inv : LockInv s) : LockedForKept s := by
  intro handle p bo labels s' bo' buffer run hbo'
  obtain ⟨hold, represents⟩ := inv.represents buffer
  obtain ⟨-, bo₁, hold₁, buffer₁, represents₁, same, -⟩ := inv.held_run buffer represents run
  obtain rfl : bo₁ = bo' := Option.some.inj (buffer₁.2.symm.trans hbo')
  rw [represents₁.lockedFor, same, represents.lockedFor]

/-- A lock that succeeds takes the lock of a registered buffer. -/
theorem success (inv : LockInv s) {event : LockEvent} {s₁ : Process}
    (hstep : lockSystem.step s event s₁) {usage : Word} {answer : GbmMapResult}
    (hrequest : event.call.request = some (usage, answer)) (succeeded : event.ret = 0) :
    ∃ p bo bo₁ hold hold₁ addr, Buffer s event.call.handle p bo ∧ Represents bo hold ∧
      Buffer s₁ event.call.handle p bo₁ ∧ Represents bo₁ hold₁ ∧
      Hold.Locks bo usage hold addr hold₁ ∧
      ∀ given, addr = some given → event.addr = some given := by
  have registered : ∃ p, s.gbmBoHandleMap event.call.handle = some p := by
    obtain ⟨call, ret, addr⟩ := event
    cases LockCall.perform_step inv.registryLive hstep.2 with
    | untouched failed same => exact absurd succeeded failed
    | locked hrequest same registered live hnative husage returns given => exact ⟨_, registered⟩
    | unlocked hrequest registered live returns => exact ⟨_, registered⟩
  obtain ⟨p, registered⟩ := registered
  obtain ⟨bo, hold, hbo, represents⟩ := inv.holds _ p registered
  obtain ⟨bo₁, hold₁, buffer₁, represents₁, moves⟩ :=
    inv.buffer_step hstep ⟨registered, hbo⟩ represents
  obtain ⟨addr, locks, given⟩ := moves.of_success rfl hrequest succeeded
  exact ⟨p, bo, bo₁, hold, hold₁, addr, ⟨registered, hbo⟩, represents, buffer₁, represents₁,
    locks, given⟩

theorem pointerKept (inv : LockInv s) : PointerKept s := by
  intro event s₁ usage answer hstep hrequest cpu succeeded
  obtain ⟨p, bo, bo₁, hold, hold₁, addr, -, -, buffer₁, represents₁, locks, given⟩ :=
    inv.success hstep hrequest succeeded
  obtain ⟨mapping, mapped, rfl⟩ := locks.mapping cpu
  refine ⟨mapping.addr, given _ rfl, ?_⟩
  intro labels s₂ run noUnlock
  have kept : LockInv s₂ ∧ ∃ bo₂ hold₂, Buffer s₂ event.call.handle p bo₂ ∧
      Represents bo₂ hold₂ ∧ hold₂.mapping = some mapping := by
    refine run.guarded_invariant
      (fun s₂ => LockInv s₂ ∧ ∃ bo₂ hold₂, Buffer s₂ event.call.handle p bo₂ ∧
        Represents bo₂ hold₂ ∧ hold₂.mapping = some mapping)
      (fun later => later.call.request = none → later.call.handle ≠ event.call.handle)
      noUnlock ⟨inv.step hstep, bo₁, hold₁, buffer₁, represents₁, mapped⟩ ?_
    rintro state later next quiet ⟨inv, bo₂, hold₂, buffer₂, represents₂, mapped⟩ hstep
    obtain ⟨bo₃, hold₃, buffer₃, represents₃, moves⟩ := inv.buffer_step hstep buffer₂ represents₂
    exact ⟨inv.step hstep, bo₃, hold₃, buffer₃, represents₃, moves.keeps_mapped mapped quiet⟩
  obtain ⟨-, bo₂, hold₂, buffer₂, represents₂, mapped₂⟩ := kept
  refine ⟨p, bo₂, mapping, buffer₂, ?_, rfl⟩
  rw [represents₂.mappings, mapped₂]
  exact List.mem_singleton_self mapping

theorem unlockRestores (inv : LockInv s) : UnlockRestores s := by
  intro event s₁ hstep isLock succeeded
  obtain ⟨⟨usage, answer⟩, hrequest⟩ := Option.ne_none_iff_exists'.mp isLock
  obtain ⟨p, bo, bo₁, hold, hold₁, addr, buffer, represents, buffer₁, represents₁, locks, -⟩ :=
    inv.success hstep hrequest succeeded
  have attached := represents₁.attached (locks.count ▸ Nat.succ_ne_zero _)
  obtain ⟨s₂, bo₂, returns, buffer₂, represents₂⟩ := represents₁.unlock_process buffer₁ attached
  refine ⟨p, bo, s₂, bo₂, buffer, returns, buffer₂, ?_⟩
  rw [represents₂.data, locks.unlock, represents.data]

end LockInv

/-- The lock state machine, along every run of lock and unlock calls: the words
of each buffer are consistent, its usage is kept while it is held, what a CPU
lock gives out stays mapped, and an unlock takes a lock back. -/
theorem lockSystem_safe {first s : Process} {labels : List LockEvent} (ready : LocksReady first)
    (run : Run lockSystem first labels s) :
    LocksConsistent s ∧ LockedForKept s ∧ PointerKept s ∧ UnlockRestores s := by
  have inv := ready.inv.run run
  exact ⟨inv.consistent, inv.lockedForKept, inv.pointerKept, inv.unlockRestores⟩

/-- A process with one registered buffer that has not been locked. -/
def oneBuffer : Process where
  gbmDevFd := 3#32
  gbmDev := 1
  gbmBoHandleMap handle := if handle = 16 then some 32 else none
  devices dev := if dev = 1 then some 3#32 else none
  bos p := if p = 32 then
    some
      { width := 64#32
        height := 64#32
        stride := 256#32
        modifier := 0
        file := 9
        userData := none
        mappings := [] } else none
  handles handle := if handle = 16 then
    some (GrallocHandle.native
      { primeFd := 5#32
        magic := grallocHandleMagic
        version := grallocHandleVersion
        width := 64#32
        height := 64#32
        format := halPixelFormatRgba8888
        usage := grallocUsageSwReadOften ||| grallocUsageSwWriteOften ||| grallocUsageHwTexture
        stride := 256#32
        dataOwner := 0
        modifier := 0
        data := 0 }) else none
  fds fd := if fd = 5#32 then some 9 else none
  calls := []

theorem oneBuffer_ready : LocksReady oneBuffer := by
  have only {handle p : Ptr} (h : oneBuffer.gbmBoHandleMap handle = some p) :
      handle = 16 ∧ p = 32 := by
    change (if handle = 16 then some 32 else none) = some p at h
    split at h
    · cases h
      exact ⟨‹_›, rfl⟩
    · cases h
  refine ⟨?_, ?_, rfl⟩
  · intro handle handle' p h h'
    rw [(only h).1, (only h').1]
  · intro handle p h
    obtain ⟨rfl, rfl⟩ := only h
    exact ⟨_, rfl, rfl, rfl⟩

theorem lockSystem_safe_oneBuffer :
    ∃ s, (boData <$> s.bos 32) = some ⟨7, 1, grallocUsageSwReadOften⟩ ∧
      LocksConsistent s ∧ LockedForKept s ∧ PointerKept s ∧ UnlockRestores s := by
  obtain ⟨s, returns, words⟩ : ∃ s,
      grallocGbmBoLock (.mapped 4096 7 256#32) oneBuffer 16 grallocUsageSwReadOften =
        .ok (0, some 4096, s) ∧
      (boData <$> s.bos 32) = some ⟨7, 1, grallocUsageSwReadOften⟩ := ⟨_, rfl, rfl⟩
  have answered : (LockCall.lock 16 grallocUsageSwReadOften (.mapped 4096 7 256#32)).Answered := by
    rintro _ _ ⟨⟩
    exact ⟨by decide, by decide⟩
  have hstep : lockSystem.step oneBuffer ⟨.lock 16 _ _, 0, some 4096⟩ s := ⟨answered, returns⟩
  exact ⟨s, words, lockSystem_safe oneBuffer_ready (.single hstep)⟩

end GrallocGbmMesa.Core
