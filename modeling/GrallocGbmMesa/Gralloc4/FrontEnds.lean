import GrallocGbmMesa.Core.PixelStride
import GrallocGbmMesa.Allocator.Allocator
import GrallocGbmMesa.Gralloc4.AllocDevice

/-!
# Two front ends of one allocation

The gralloc module and the allocator service both call `gralloc_allocate`.  The
service divides the stride by the size of a pixel, the module hands it on.
-/

namespace GrallocGbmMesa.Gralloc4

open Checked Rounding
open GrallocGbmMesa.Platform GrallocGbmMesa.Core GrallocGbmMesa.Allocator GbmMesaAllocator

/-- Whether a call succeeds, and the stride it stores. -/
structure StrideReport where
  success : Bool
  stride : Option Word
  deriving DecidableEq, Repr

/-- The arguments of the module's call are those of the descriptor. -/
def moduleReport (env : ModuleAllocEnv) (mod : GrallocGbmModule) (s : Process)
    (desc : GrallocBufferDesc) : Except Fault StrideReport := do
  let (err, stored, _) ← grallocModAllocAlloc env mod s desc.width desc.height desc.androidFormat
    desc.androidUsage
  return ⟨decide (err = 0), stored.stride⟩

def allocatorReport (env : AttemptEnv) (allocator : GbmMesaAllocator) (s : Process)
    (desc : GrallocBufferDesc) : Except Fault StrideReport := do
  let (status, stored, _) ← gbmAllocateBuffer env allocator s desc
  return ⟨decide (status = .ok), stored.map Prod.fst⟩

/-! ## The size of a pixel -/

/-- Every size of a pixel is from two to eight bytes, also that of a format that is not listed. -/
theorem bytesPerPixel_bounds (androidFormat : Word) :
    2 ≤ grallocGmGetBytesPerPixelFromAndroidFormat androidFormat ∧
      grallocGmGetBytesPerPixelFromAndroidFormat androidFormat ≤ 8 := by
  have listed : ∀ entry ∈ androidFormatTable,
      2 ≤ grallocGmGetBytesPerPixelFromGbmFormat entry.2 ∧
        grallocGmGetBytesPerPixelFromGbmFormat entry.2 ≤ 8 :=
    PartialMap.forall_mem_of_all (by decide +kernel)
  unfold grallocGmGetBytesPerPixelFromAndroidFormat grallocGmAndroidFormatToGbmFormat
  cases found : androidFormatTable.lookup androidFormat with
  | none => decide +kernel
  | some gbmFormat => exact listed _ (PartialMap.lookup_mem found)

theorem pixelStride_eq_iff (androidFormat stride : Word) :
    grallocGmAndroidCaculatePixelStride androidFormat stride = stride ↔ stride.toNat ≤ 1 := by
  obtain ⟨proper, small⟩ := bytesPerPixel_bounds androidFormat
  have positive : 0 < grallocGmGetBytesPerPixelFromAndroidFormat androidFormat := by omega
  have quotient := pixelStride_toNat rfl positive small stride
  rw [← BitVec.toNat_inj, quotient]
  by_cases room : stride.toNat + grallocGmGetBytesPerPixelFromAndroidFormat androidFormat ≤ 2 ^ 32
  · rw [if_pos room]
    exact ceilDiv_eq_self_iff proper
  · rw [if_neg room]
    omega

/-! ## Agreement -/

/-- The allocation fails, and says so. -/
def AllocFails (env : AllocEnv) (s : Process) : Prop :=
  allocDevice env s = 0 ∨ env.newHandle = 0 ∨
    (DeviceLive env s ∧ env.newBo = none ∧ env.errno ≠ 0)

/-- The allocation fails, or neither front end is initialised, or both are and the stride
is at most one byte (or both crash on a device that does not exist). -/
def ReportsAgreeWhen (env : AttemptEnv) (err : Int) (allocator : GbmMesaAllocator) (s : Process) :
    Prop :=
  AllocFails env.toAllocEnv s ∨ (err ≠ 0 ∧ ¬ allocator.isInitialized) ∨
    (err = 0 ∧ allocator.isInitialized = true ∧
      (¬ DeviceLive env.toAllocEnv s ∨ ∃ new, env.newBo = some new ∧ new.stride.toNat ≤ 1))

section Agreement

variable {env : AttemptEnv} {init : ModuleInitEnv} {mod mod' : GrallocGbmModule}
  {allocator : GbmMesaAllocator} {s s₁ : Process} {err : Int} {desc : GrallocBufferDesc}

/-- The module looks at the sizes, the format and the usage of a descriptor, as the
allocation does. -/
theorem grallocAllocate_moduleDesc (env : AllocEnv) (s : Process) (desc : GrallocBufferDesc) :
    grallocAllocate env s (moduleDesc desc.width desc.height desc.androidFormat
      desc.androidUsage) = grallocAllocate env s desc := by
  rw [grallocAllocate_eq, grallocAllocate_eq]
  rfl

theorem moduleReport_uninitialized (ready : grallocModGbmInit init mod s = .ok (err, mod', s₁))
    (failed : err ≠ 0) :
    moduleReport ⟨init, env.toAllocEnv⟩ mod s desc = .ok ⟨false, none⟩ := by
  unfold moduleReport grallocModAllocAlloc
  rw [ready, ok_bind]
  simp [failed]

/-- The module reports what the allocation returns. -/
theorem moduleReport_ready (ready : grallocModGbmInit init mod s = .ok (0, mod', s₁)) :
    moduleReport ⟨init, env.toAllocEnv⟩ mod s desc = do
      let (ret, stored, _) ← grallocAllocate env.toAllocEnv s₁ desc
      return ⟨decide (ret = 0), stored.map Prod.fst⟩ := by
  unfold moduleReport grallocModAllocAlloc
  rw [ready, ok_bind]
  simp only [ne_eq, not_true_eq_false, if_false, grallocAllocate_moduleDesc]
  cases grallocAllocate env.toAllocEnv s₁ desc with
  | error fault => rfl
  | ok result => rfl

theorem allocatorReport_uninitialized (off : ¬ allocator.isInitialized) :
    allocatorReport env allocator s desc = .ok ⟨false, none⟩ := by
  unfold allocatorReport gbmAllocateBuffer
  rw [if_pos off]
  rfl

theorem allocatorReport_error (initialized : allocator.isInitialized = true) {fault : Fault}
    (faults : grallocAllocate env.toAllocEnv s desc = .error fault) :
    allocatorReport env allocator s desc = .error fault := by
  unfold allocatorReport gbmAllocateBuffer
  rw [if_neg (not_not_intro initialized), if_neg (by simp [grallocIsDescSupport_eq_true]), faults]
  rfl

theorem allocatorReport_failed (initialized : allocator.isInitialized = true) {ret : Int}
    {stored : Option (Word × Ptr)} {s' : Process}
    (returns : grallocAllocate env.toAllocEnv s desc = .ok (ret, stored, s')) (failed : ret ≠ 0) :
    allocatorReport env allocator s desc = .ok ⟨false, none⟩ := by
  unfold allocatorReport gbmAllocateBuffer
  rw [if_neg (not_not_intro initialized), if_neg (by simp [grallocIsDescSupport_eq_true]), returns,
    ok_bind]
  dsimp only
  rw [if_pos failed]
  rfl

/-- The service reports what it makes of the stride, or of the zero that nothing has overwritten. -/
theorem allocatorReport_success (initialized : allocator.isInitialized = true)
    {stored : Option (Word × Ptr)} {s' : Process}
    (returns : grallocAllocate env.toAllocEnv s desc = .ok (0, stored, s')) :
    allocatorReport env allocator s desc = .ok ⟨true,
      some (grallocGmAndroidCaculatePixelStride desc.androidFormat
        (stored.getD (0, env.handleLocal)).1)⟩ := by
  unfold allocatorReport gbmAllocateBuffer
  rw [if_neg (not_not_intro initialized), if_neg (by simp [grallocIsDescSupport_eq_true]), returns,
    ok_bind]
  rfl

/-- An allocation fails and says so, or runs into a device that does not exist, or returns 0. -/
theorem grallocAllocate_ends (env : AllocEnv) (s : Process) (desc : GrallocBufferDesc) :
    (AllocFails env s ∧ ∃ ret s', grallocAllocate env s desc = .ok (ret, none, s') ∧ ret ≠ 0) ∨
      (¬ AllocFails env s ∧ ¬ DeviceLive env s ∧
        grallocAllocate env s desc = .error .invalidPointer) ∨
      (¬ AllocFails env s ∧ DeviceLive env s ∧ ∃ s', grallocAllocate env s desc =
        .ok (0, env.newBo.map fun new => (new.stride, env.newHandle), s')) := by
  unfold AllocFails
  by_cases refused : allocDevice env s = 0 ∨ env.newHandle = 0
  · refine .inl ⟨?_, -einval, _, grallocAllocate_refused refused desc, by decide⟩
    exact refused.imp_right .inl
  obtain ⟨device, handle⟩ := not_or.mp refused
  rw [or_iff_right device, or_iff_right handle]
  by_cases live : DeviceLive env s
  · have asks : AsksForBo env s := ⟨device, handle, live⟩
    rw [and_iff_right live]
    cases newBo : env.newBo with
    | none =>
        have returns := grallocAllocate_noBo asks newBo desc
        by_cases silent : env.errno = 0
        · rw [silent, Int.neg_zero] at returns
          exact .inr (.inr ⟨fun h => h.2 silent, live, _, returns⟩)
        · exact .inl ⟨⟨rfl, silent⟩, _, _, returns, Int.neg_ne_zero.mpr silent⟩
    | some new =>
        refine .inr (.inr ⟨?_, live, _, grallocAllocate_made asks newBo desc⟩)
        rintro ⟨⟨⟩, -⟩
  · exact .inr (.inl ⟨fun h => live h.1, live, grallocAllocate_dangling device handle live desc⟩)

/-- What fails is reported as a failure, by a front end that is initialised and by one
that is not. -/
theorem reports_of_fails (ready : grallocModGbmInit init mod s = .ok (err, mod', s₁))
    (fails : AllocFails env.toAllocEnv s₁) :
    moduleReport ⟨init, env.toAllocEnv⟩ mod s desc = .ok ⟨false, none⟩ ∧
      allocatorReport env allocator s₁ desc = .ok ⟨false, none⟩ := by
  obtain ⟨-, ret, s', returns, nonzero⟩ | ⟨works, -⟩ | ⟨works, -⟩ :=
    grallocAllocate_ends env.toAllocEnv s₁ desc
  · constructor
    · by_cases failed : err = 0
      · subst failed
        rw [moduleReport_ready ready, returns]
        simp [nonzero]
      · exact moduleReport_uninitialized ready failed
    · by_cases initialized : allocator.isInitialized = true
      · exact allocatorReport_failed initialized returns nonzero
      · exact allocatorReport_uninitialized initialized
  · exact absurd fails works
  · exact absurd fails works

/-- What does not fail is not reported as a failure by a front end that is initialised. -/
theorem moduleReport_works (ready : grallocModGbmInit init mod s = .ok (0, mod', s₁))
    (works : ¬ AllocFails env.toAllocEnv s₁) :
    moduleReport ⟨init, env.toAllocEnv⟩ mod s desc ≠ .ok ⟨false, none⟩ := by
  rw [moduleReport_ready ready]
  rcases grallocAllocate_ends env.toAllocEnv s₁ desc with
    ⟨fails, -⟩ | ⟨-, -, faults⟩ | ⟨-, -, s', returns⟩
  · exact absurd fails works
  · rw [faults]
    exact nofun
  · rw [returns]
    exact nofun

theorem allocatorReport_works (initialized : allocator.isInitialized = true)
    (works : ¬ AllocFails env.toAllocEnv s) :
    allocatorReport env allocator s desc ≠ .ok ⟨false, none⟩ := by
  rcases grallocAllocate_ends env.toAllocEnv s desc with
    ⟨fails, -⟩ | ⟨-, -, faults⟩ | ⟨-, -, s', returns⟩
  · exact absurd fails works
  · rw [allocatorReport_error initialized faults]
    exact nofun
  · rw [allocatorReport_success initialized returns]
    exact nofun

/-- Of what does not fail, front ends that are initialised report the same if they crash
alike, or if the stride is its own pixel stride. -/
theorem reports_agree_works_iff (ready : grallocModGbmInit init mod s = .ok (0, mod', s₁))
    (initialized : allocator.isInitialized = true) (works : ¬ AllocFails env.toAllocEnv s₁) :
    moduleReport ⟨init, env.toAllocEnv⟩ mod s desc = allocatorReport env allocator s₁ desc ↔
      ¬ DeviceLive env.toAllocEnv s₁ ∨ ∃ new, env.newBo = some new ∧ new.stride.toNat ≤ 1 := by
  rw [moduleReport_ready ready]
  rcases grallocAllocate_ends env.toAllocEnv s₁ desc with
    ⟨fails, -⟩ | ⟨-, dangling, faults⟩ | ⟨-, live, s', returns⟩
  · exact absurd fails works
  · rw [allocatorReport_error initialized faults, faults]
    exact iff_of_true rfl (.inl dangling)
  rw [allocatorReport_success initialized returns, returns, or_iff_right (not_not_intro live)]
  cases newBo : env.newBo with
  | none =>
      refine iff_of_false nofun ?_
      rintro ⟨new, ⟨⟩, -⟩
  | some new =>
      simp [← pixelStride_eq_iff desc.androidFormat, eq_comm]

/-- The two front ends report the same exactly if there is nothing to report, or the
byte stride is its own pixel stride. -/
theorem strideReports_agree_iff (ready : grallocModGbmInit init mod s = .ok (err, mod', s₁))
    (env : AttemptEnv) (allocator : GbmMesaAllocator) (desc : GrallocBufferDesc) :
    moduleReport ⟨init, env.toAllocEnv⟩ mod s desc = allocatorReport env allocator s₁ desc ↔
      ReportsAgreeWhen env err allocator s₁ := by
  unfold ReportsAgreeWhen
  by_cases fails : AllocFails env.toAllocEnv s₁
  · obtain ⟨module, service⟩ :
        moduleReport ⟨init, env.toAllocEnv⟩ mod s desc = .ok ⟨false, none⟩ ∧
          allocatorReport env allocator s₁ desc = .ok ⟨false, none⟩ :=
      reports_of_fails ready fails
    exact iff_of_true (module.trans service.symm) (.inl fails)
  rw [or_iff_right fails]
  by_cases failed : err = 0
  · subst failed
    by_cases initialized : allocator.isInitialized = true
    · rw [reports_agree_works_iff ready initialized fails]
      simp [initialized]
    · rw [allocatorReport_uninitialized initialized]
      refine iff_of_false (moduleReport_works ready fails) ?_
      simp [initialized]
  · rw [moduleReport_uninitialized ready failed]
    by_cases initialized : allocator.isInitialized = true
    · refine iff_of_false (allocatorReport_works initialized fails).symm ?_
      simp [initialized, failed]
    · exact iff_of_true (allocatorReport_uninitialized initialized).symm
        (.inl ⟨failed, initialized⟩)

end Agreement

/-- A module that has its device already. -/
def initializedModule : GrallocGbmModule := { initialized := true, gbmDev := 1 }

def startedAllocator : GbmMesaAllocator := { gbmDevFd := 3 }

/-- The answers of `cursorEnv`, with another stride. -/
def stridedAttempt (stride : Word) : AttemptEnv :=
  { cursorEnv with
    newBo := some { bo := 32, stride, modifier := 0 }
    handleLocal := 0 }

theorem strideReports_agree_iff_one :
    moduleReport ⟨⟨⟨0, 0, 0⟩, 0⟩, (stridedAttempt 1).toAllocEnv⟩ initializedModule readyProcess
      textureDesc = allocatorReport (stridedAttempt 1) startedAllocator readyProcess textureDesc :=
  (strideReports_agree_iff (grallocModGbmInit_again rfl) (stridedAttempt 1) startedAllocator
    textureDesc).mpr (.inr (.inr ⟨rfl, rfl, .inr ⟨_, rfl, by decide⟩⟩))

/-- Of 256 bytes the module reports all and the service a quarter. -/
theorem strideReports_disagree :
    moduleReport ⟨⟨⟨0, 0, 0⟩, 0⟩, (stridedAttempt 256).toAllocEnv⟩ initializedModule readyProcess
        textureDesc = .ok ⟨true, some 256⟩ ∧
      allocatorReport (stridedAttempt 256) startedAllocator readyProcess textureDesc =
        .ok ⟨true, some 64⟩ ∧
      moduleReport ⟨⟨⟨0, 0, 0⟩, 0⟩, (stridedAttempt 256).toAllocEnv⟩ initializedModule readyProcess
          textureDesc ≠
        allocatorReport (stridedAttempt 256) startedAllocator readyProcess textureDesc := by
  refine ⟨rfl, rfl, ?_⟩
  intro same
  have strides : (⟨true, some 256⟩ : StrideReport) = ⟨true, some 64⟩ := Except.ok.inj same
  exact absurd strides (by decide)

end GrallocGbmMesa.Gralloc4
