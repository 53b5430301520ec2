import GrallocGbmMesa.Core.FailedLocks

/-!
# The stride of a mapping

A CPU lock asserts that the mapping has the stride of the BO, which `gbm_bo_map` answers for
a BO with linear storage.  Linear storage is decided by the usage of the allocation, and the
mapping by the usage check of the lock.
-/

namespace GrallocGbmMesa.Core

open Bits Checked TransitionSystem
open GrallocGbmMesa.Platform

/-! ## Linear storage -/

theorem createArgs_flags (env : AllocEnv) (desc : GrallocBufferDesc) :
    (createArgs (createdHandle env desc)).flags =
      grallocGmGetGbmFlagsFromAndroidUsage desc.androidUsage desc.androidFormat := by
  rw [createArgs_eq]
  rfl

/-- Whatever the platform answers, the BO is created with `GBM_BO_USE_LINEAR`. -/
def CreatedLinear (desc : GrallocBufferDesc) : Prop :=
  ∀ env, Meets (createArgs (createdHandle env desc)).flags gbmBoUseLinear

/-- The usage of an allocation that requests linear storage. -/
def LinearUsage (usage : Word) : Prop :=
  Meets usage (grallocUsageSwReadOften ||| grallocUsageSwWriteOften)

instance (usage : Word) : Decidable (LinearUsage usage) := inferInstanceAs (Decidable (Meets ..))

theorem createdLinear_iff (desc : GrallocBufferDesc) :
    CreatedLinear desc ↔ LinearUsage desc.androidUsage := by
  unfold CreatedLinear
  simp only [createArgs_flags, flags_linear_iff]
  exact ⟨fun linear => linear cursorEnv, fun linear _ => linear⟩

/-- `gbm_bo_map` answers the stride of a BO that was created with `GBM_BO_USE_LINEAR`, and any
stride for another. -/
def HonoursLinear (desc : GrallocBufferDesc) (bo : GbmBo) (answer : GbmMapResult) : Prop :=
  answer.Valid ∧ (CreatedLinear desc → answer.Fits bo)

/-! ## Locks that map -/

/-- The lock gets as far as `gbm_bo_map`. -/
structure ReachesMap (handleUsage usage : Word) (bo : GbmBo) : Prop where
  accepted : ¬ UsageRefused handleUsage usage
  compatible : Compatible (boData bo) usage
  cpu : CpuUsage (usage ||| (boData bo).lockedFor)
  unmapped : (boData bo).mapData = 0

/-- The assertion fails on the stride of a mapping and on nothing else. -/
theorem lockBo_assertionFailed_iff (answer : GbmMapResult) (p : Ptr) (handleUsage usage : Word)
    (bo : GbmBo) : lockBo answer p handleUsage usage bo = .error .assertionFailed ↔
      ReachesMap handleUsage usage bo ∧ ¬ answer.Fits bo := by
  unfold lockBo
  by_cases refused : UsageRefused handleUsage usage
  · simp only [if_pos refused]
    exact iff_of_false nofun fun ⟨reaches, _⟩ => reaches.accepted refused
  simp only [if_neg refused]
  by_cases clash : (boData bo).lockCount ≠ 0 ∧ ¬ Within usage (boData bo).lockedFor
  · simp only [if_pos clash]
    exact iff_of_false nofun fun ⟨reaches, _⟩ => reaches.compatible.elim clash.1 clash.2
  simp only [if_neg clash]
  have compatible : Compatible (boData bo) usage := by
    rwa [not_and_or, not_not, not_not] at clash
  by_cases cpu : CpuUsage (usage ||| (boData bo).lockedFor)
  · rw [if_neg (not_not_intro cpu)]
    by_cases mapped : (boData bo).mapData ≠ 0
    · rw [if_pos mapped]
      exact iff_of_false nofun fun ⟨reaches, _⟩ => mapped reaches.unmapped
    rw [if_neg mapped]
    have reaches : ReachesMap handleUsage usage bo :=
      ⟨refused, compatible, cpu, not_not.mp mapped⟩
    cases answer with
    | null => exact iff_of_false nofun fun ⟨_, other⟩ => other trivial
    | mapped addr mapData stride =>
        dsimp only
        by_cases fits : stride = bo.stride
        · rw [if_neg (not_not_intro fits)]
          refine iff_of_false ?_ fun ⟨_, other⟩ => other fits
          split <;> nofun
        · rw [if_pos fits]
          exact iff_of_true rfl ⟨reaches, fits⟩
  · rw [if_pos cpu]
    refine iff_of_false ?_ fun ⟨reaches, _⟩ => cpu reaches.cpu
    split <;> nofun

/-- A lock maps a buffer that nobody holds, for CPU access. -/
theorem Represents.reachesMap_iff {bo : GbmBo} {hold : Hold} (h : Represents bo hold)
    (handleUsage usage : Word) : ReachesMap handleUsage usage bo ↔
      ¬ UsageRefused handleUsage usage ∧ (boData bo).lockCount = 0 ∧ CpuUsage usage := by
  constructor
  · rintro ⟨accepted, compatible, cpu, unmapped⟩
    obtain ⟨rfl, same⟩ := h.idle_of_unmapped compatible cpu unmapped
    exact ⟨accepted, h.lockCount, same ▸ cpu⟩
  · rintro ⟨accepted, free, cpu⟩
    have idle : hold = .idle := Hold.eq_idle (Int.natCast_eq_zero.mp (h.lockCount.symm.trans free))
    subst idle
    exact ⟨accepted, .inl free, meets_or.mpr (.inl cpu), h.mapData⟩

/-- The lock of the handle gets as far as `gbm_bo_map`. -/
def LockMaps (s : Process) (handle : Ptr) (usage : Word) (bo : GbmBo) : Prop :=
  ∃ native handleUsage, s.handles handle = some native ∧ native.usage = .ok handleUsage ∧
    ReachesMap handleUsage usage bo

section OneBuffer

variable {s : Process} {handle p : Ptr} {bo : GbmBo} {native : NativeHandle} {handleUsage : Word}

theorem lockMaps_iff (placed : s.handles handle = some native)
    (husage : native.usage = .ok handleUsage) (usage : Word) :
    LockMaps s handle usage bo ↔ ReachesMap handleUsage usage bo := by
  constructor
  · rintro ⟨native', handleUsage', placed', husage', reaches⟩
    cases placed.symm.trans placed'
    cases husage.symm.trans husage'
    exact reaches
  · exact fun reaches => ⟨native, handleUsage, placed, husage, reaches⟩

theorem grallocGbmBoLock_assertionFailed_iff (buffer : Buffer s handle p bo)
    (placed : s.handles handle = some native) (husage : native.usage = .ok handleUsage)
    (answer : GbmMapResult) (usage : Word) :
    grallocGbmBoLock answer s handle usage = .error .assertionFailed ↔
      LockMaps s handle usage bo ∧ ¬ answer.Fits bo := by
  rw [grallocGbmBoLock_eq buffer.1 placed husage buffer.2, lockMaps_iff placed husage,
    ← lockBo_assertionFailed_iff answer p]
  cases lockBo answer p handleUsage usage bo with
  | error fault => constructor <;> (rintro ⟨⟩; rfl)
  | ok outcome => exact iff_of_false nofun nofun

/-- The platform can make the assertion fail exactly where a lock maps a BO that was not
created with `GBM_BO_USE_LINEAR`. -/
theorem assertion_holds_iff (buffer : Buffer s handle p bo)
    (placed : s.handles handle = some native) (husage : native.usage = .ok handleUsage)
    (desc : GrallocBufferDesc) (usage : Word) :
    (∀ answer, HonoursLinear desc bo answer →
        grallocGbmBoLock answer s handle usage ≠ .error .assertionFailed) ↔
      (LockMaps s handle usage bo → CreatedLinear desc) := by
  constructor
  · intro holds maps
    by_contra other
    have differs : bo.stride + 1 ≠ bo.stride := by
      intro same
      exact absurd (BitVec.add_right_eq_self.mp same) (by decide)
    refine holds (.mapped 1 1 (bo.stride + 1))
      ⟨⟨Nat.one_ne_zero, Nat.one_ne_zero⟩, fun linear => absurd linear other⟩ ?_
    exact (grallocGbmBoLock_assertionFailed_iff buffer placed husage ..).mpr ⟨maps, differs⟩
  · intro linear answer honours failed
    obtain ⟨maps, differs⟩ :=
      (grallocGbmBoLock_assertionFailed_iff buffer placed husage ..).mp failed
    exact differs (honours.2 (linear maps))

end OneBuffer

/-! ## Buffers of allocations -/

/-- The allocation requested linear storage, the buffer is locked, the lock asks for no CPU
access, or the usage check refuses it. -/
def StrideSafe (allocated usage : Word) (lockCount : Int) : Prop :=
  LinearUsage allocated ∨ lockCount ≠ 0 ∨ ¬ CpuUsage usage ∨
    (¬ Within usage allocated ∧ ¬ Meets allocated grallocUsageHwFb ∧
      ¬ Meets allocated grallocUsageHwTexture)

theorem strideSafe_iff (allocated usage : Word) (lockCount : Int) :
    StrideSafe allocated usage lockCount ↔
      (¬ UsageRefused allocated usage ∧ lockCount = 0 ∧ CpuUsage usage →
        LinearUsage allocated) := by
  constructor
  · rintro (linear | held | noCpu | ⟨outside, noFb, noTexture⟩) ⟨accepted, free, cpu⟩
    · exact linear
    · exact absurd free held
    · exact absurd cpu noCpu
    · -- the check lets the lock through because the CPU may read often
      by_contra other
      refine accepted ⟨outside, fun often => other ?_, noFb, noTexture⟩
      exact meets_comm.mp (meets_or.mpr (.inl (meets_comm.mp often)))
  · intro maps
    by_cases refused : UsageRefused allocated usage
    · exact .inr (.inr (.inr ⟨refused.1, refused.2.2⟩))
    by_cases free : lockCount = 0
    · by_cases cpu : CpuUsage usage
      · exact .inl (maps ⟨refused, free, cpu⟩)
      · exact .inr (.inr (.inl cpu))
    · exact .inr (.inl free)

/-- A buffer that was allocated has the usage word of its descriptor. -/
theorem AllocatedFor.usage {desc : GrallocBufferDesc} {native : NativeHandle} {bo : GbmBo}
    (h : AllocatedFor desc native bo) : native.usage = .ok desc.androidUsage := by
  obtain ⟨env, new, rfl, -⟩ := h
  rfl

/-- In every state that is reached, a lock of a buffer that was allocated meets the assertion
on the stride, and maps only BOs with linear storage, under the same condition. -/
theorem mapStride_iff {first s : Process} {labels : List CoreEvent}
    (initial : coreSystem.initial first) (run : Run coreSystem first labels s)
    {handle p : Ptr} {bo : GbmBo} (buffer : Buffer s handle p bo) {desc : GrallocBufferDesc}
    (created : createdFor labels handle = some desc) (usage : Word) :
    ((∀ answer, HonoursLinear desc bo answer →
        grallocGbmBoLock answer s handle usage ≠ .error .assertionFailed) ↔
      StrideSafe desc.androidUsage usage (boData bo).lockCount) ∧
    ((LockMaps s handle usage bo → CreatedLinear desc) ↔
      StrideSafe desc.androidUsage usage (boData bo).lockCount) := by
  obtain ⟨bo', hold, native, registered⟩ := (CoreInv.of_run initial run).holds handle p buffer.1
  cases buffer.2.symm.trans registered.live
  have husage := (registered.made desc created).usage
  have maps : (LockMaps s handle usage bo → CreatedLinear desc) ↔
      StrideSafe desc.androidUsage usage (boData bo).lockCount := by
    rw [lockMaps_iff registered.placed husage, registered.represents.reachesMap_iff,
      createdLinear_iff, strideSafe_iff]
  exact ⟨(assertion_holds_iff buffer registered.placed husage desc usage).trans maps, maps⟩

theorem mapStride_iff_readable :
    ∃ bo, Buffer (allocatedProcess readableDesc) 16 32 bo ∧
      ∀ answer, HonoursLinear readableDesc bo answer →
        grallocGbmBoLock answer (allocatedProcess readableDesc) 16 grallocUsageSwReadOften ≠
          .error .assertionFailed := by
  obtain ⟨bo, buffer⟩ : ∃ bo, Buffer (allocatedProcess readableDesc) 16 32 bo := ⟨_, rfl, rfl⟩
  have safe := mapStride_iff closedProcess_initial (allocatedProcess_run readableDesc) buffer rfl
    grallocUsageSwReadOften
  exact ⟨bo, buffer, safe.1.mpr (.inl (by decide))⟩

/-- A buffer that is textured from only. -/
def texturedDesc : GrallocBufferDesc := { readableDesc with androidUsage := grallocUsageHwTexture }

/-- The usage check lets the CPU read a texture that was not created with linear storage. -/
theorem mapStride_asserts :
    ∃ bo, Buffer (allocatedProcess texturedDesc) 16 32 bo ∧
      Reachable coreSystem (allocatedProcess texturedDesc) ∧ (boData bo).lockCount = 0 ∧
      HonoursLinear texturedDesc bo (.mapped 4096 7 512#32) ∧
      LockMaps (allocatedProcess texturedDesc) 16 grallocUsageSwReadOften bo ∧
      ¬ CreatedLinear texturedDesc ∧
      grallocGbmBoLock (.mapped 4096 7 512#32) (allocatedProcess texturedDesc) 16
        grallocUsageSwReadOften = .error .assertionFailed := by
  have tiled : ¬ CreatedLinear texturedDesc := by
    rw [createdLinear_iff]
    decide
  obtain ⟨bo, buffer, free, failed⟩ : ∃ bo, Buffer (allocatedProcess texturedDesc) 16 32 bo ∧
      (boData bo).lockCount = 0 ∧
      grallocGbmBoLock (.mapped 4096 7 512#32) (allocatedProcess texturedDesc) 16
        grallocUsageSwReadOften = .error .assertionFailed := ⟨_, ⟨rfl, rfl⟩, rfl, rfl⟩
  have maps := ((grallocGbmBoLock_assertionFailed_iff buffer rfl rfl ..).mp failed).1
  exact ⟨bo, buffer, ⟨_, _, closedProcess_initial, allocatedProcess_run texturedDesc⟩, free,
    ⟨by decide, fun linear => absurd linear tiled⟩, maps, tiled, failed⟩

end GrallocGbmMesa.Core
