import GrallocGbmMesa.Allocator.Allocator
import GrallocGbmMesa.Core.Outcome

/-!
# The calls of an allocation

No operation of the allocator takes a call off the log.  An attempt that gets a
handle has asked gbm for a BO, whatever becomes of it.
-/

namespace GrallocGbmMesa.Allocator

open Checked
open GrallocGbmMesa.Platform GrallocGbmMesa.Core
open Process (Extends)

/-- `gbm_bo_create` has been called since an earlier state. -/
def ReachesCreate (s s' : Process) : Prop :=
  ∃ dev args, Call.gbmBoCreate dev args ∈ s.callsSince s'

theorem not_reachesCreate_self (s : Process) : ¬ ReachesCreate s s := by
  rintro ⟨dev, args, created⟩
  have none : s.callsSince s = [] := Process.callsSince_eq rfl
  rw [none] at created
  cases created

/-! ## One buffer -/

theorem grallocGbmDeviceCreate_extends (created : Ptr) (s : Process) (fd : Fd) :
    Extends s (grallocGbmDeviceCreate created s fd).2.2 := by
  unfold grallocGbmDeviceCreate
  split
  · exact .refl s
  split
  · exact .refl s
  dsimp only
  split <;> exact .log s _

theorem grallocAllocate_extends {env : AllocEnv} {s s' : Process} {desc : GrallocBufferDesc}
    {ret : Int} {stored : Option (Word × Ptr)}
    (h : grallocAllocate env s desc = .ok (ret, stored, s')) : Extends s s' := by
  have device : Extends s (deviceProcess env s) :=
    grallocGbmDeviceCreate_extends env.createdDevice s s.gbmDevFd
  cases grallocAllocate_returns h with
  | refused denied => exact device
  | noBo asks answer | made asks answer => exact device.trans (List.suffix_cons _ _)

/-- With a device and a handle, an attempt asks for a BO. -/
theorem grallocAllocate_creates {env : AllocEnv} {s s' : Process} {desc : GrallocBufferDesc}
    {ret : Int} {stored : Option (Word × Ptr)} (ready : DeviceReady s)
    (nonNull : env.newHandle ≠ 0) (h : grallocAllocate env s desc = .ok (ret, stored, s')) :
    ∃ dev args, Extends (s.log (.gbmBoCreate dev args)) s' := by
  obtain ⟨asks, same⟩ := AsksForBo.of_ready ready nonNull
  cases grallocAllocate_returns h with
  | refused denied => exact (denied.elim asks.device nonNull).elim
  | noBo _ answer | made _ answer =>
      refine ⟨allocDevice env s, createArgs (createdHandle env desc), .of_eq ?_⟩
      change _ :: (deviceProcess env s).calls = _ :: s.calls
      rw [same]

namespace GbmMesaAllocator

theorem gbmAllocateBuffer_extends {env : AttemptEnv} {allocator : GbmMesaAllocator}
    {s s' : Process} {desc : GrallocBufferDesc} {status : ScopedAStatus}
    {stored : Option (Word × Ptr)}
    (h : gbmAllocateBuffer env allocator s desc = .ok (status, stored, s')) : Extends s s' := by
  unfold gbmAllocateBuffer at h
  split at h
  · cases h
    exact .refl s
  split at h
  · cases h
    exact .refl s
  obtain ⟨⟨ret, made, s₁⟩, allocates, h⟩ := bind_eq_ok.mp h
  have extends₁ := grallocAllocate_extends allocates
  dsimp only at h
  split at h
  · cases h
    exact extends₁
  · cases h
    exact extends₁

theorem releaseHandle_extends {errno : Int} {s s' : Process} {handle : Ptr}
    (h : releaseHandle errno s handle = .ok s') : Extends s s' := by
  unfold releaseHandle at h
  split at h
  · cases h
    exact .refl s
  obtain ⟨⟨ret, s₁⟩, frees, h⟩ := bind_eq_ok.mp h
  obtain ⟨hnd, -, h⟩ := bind_eq_ok.mp h
  cases h
  have freed : Extends s s₁ := by
    rcases grallocGmBufferFree_returns frees with ⟨-, -, rfl⟩ | ⟨p, -, -, -, -, -, rfl⟩
    · exact .refl _
    · exact Extends.log s _
  exact freed.trans (Extends.nativeHandleClose s₁ hnd)

theorem releaseAll_extends {errno : Int} (handles : List Ptr) {s s' : Process}
    (h : handles.foldlM (releaseHandle errno) s = .ok s') : Extends s s' := by
  induction handles generalizing s with
  | nil =>
      cases h
      exact .refl _
  | cons handle rest ih =>
      rw [List.foldlM_cons] at h
      obtain ⟨s₁, released, h⟩ := bind_eq_ok.mp h
      exact (releaseHandle_extends released).trans (ih h)

theorem dupFds_calls (fds answers : List Fd) (s : Process) :
    (dupFds fds answers s).2.calls = s.calls := by
  induction fds generalizing answers s with
  | nil => rfl
  | cons fd rest ih =>
      have answered : (s.fcntlDupfd fd (answers.headD (-1))).2.calls = s.calls := by
        unfold Process.fcntlDupfd
        split
        · split <;> rfl
        · rfl
      exact (ih answers.tail _).trans answered

theorem dropHandle_extends (s : Process) (handle : NativeHandle) :
    Extends s (dropHandle s handle) := by
  apply Extends.foldl
  intro s fd
  split
  · exact .refl s
  · exact .close s fd

theorem exportHandle_extends {answers : List Fd} {errno : Int} {entry dup : NativeHandle}
    {s s' : Process} {handle : Ptr}
    (h : exportHandle answers errno entry s handle = .ok (dup, s')) : Extends s s' := by
  unfold exportHandle at h
  split at h
  · cases h
    exact .refl s
  obtain ⟨hnd, -, h⟩ := bind_eq_ok.mp h
  obtain ⟨s₁, releases, h⟩ := bind_eq_ok.mp h
  cases h
  have duplicated : Extends s (dupToAidl answers s hnd).2 := .of_eq (dupFds_calls hnd.fds answers s)
  exact duplicated.trans ((dropHandle_extends _ entry).trans (releaseHandle_extends releases))

/-! ## All buffers of a request -/

theorem allocateHandles_extends {env : DoAllocateEnv} {allocator : GbmMesaAllocator}
    {desc : GrallocBufferDesc} (remaining : Nat) {handles handles' : List Ptr}
    {stride stride' : Word} {s s' : Process} {status : ScopedAStatus}
    (h : allocateHandles env allocator desc remaining handles stride s =
      .ok (status, handles', stride', s')) : Extends s s' := by
  induction remaining generalizing handles stride s with
  | zero =>
      cases h
      exact .refl _
  | succ remaining ih =>
      unfold allocateHandles at h
      obtain ⟨⟨attempted, stored, s₁⟩, allocates, h⟩ := bind_eq_ok.mp h
      have extends₁ := gbmAllocateBuffer_extends allocates
      dsimp only at h
      split at h
      · obtain ⟨s₂, released, h⟩ := bind_eq_ok.mp h
        cases h
        exact extends₁.trans (releaseAll_extends _ released)
      · exact extends₁.trans (ih h)

theorem exportHandles_extends {env : DoAllocateEnv} (handles : List Ptr) {i : Nat}
    {buffers buffers' : List NativeHandle} {s s' : Process}
    (h : exportHandles env i handles buffers s = .ok (buffers', s')) : Extends s s' := by
  induction handles generalizing i buffers s with
  | nil =>
      cases h
      exact .refl _
  | cons handle rest ih =>
      unfold exportHandles at h
      obtain ⟨⟨entry, s₁⟩, exports, h⟩ := bind_eq_ok.mp h
      exact (exportHandle_extends exports).trans (ih h)

theorem resizeBuffers_extends (buffers : List NativeHandle) (count : Nat) (s : Process) :
    Extends s (resizeBuffers buffers count s).2 := Extends.foldl dropHandle_extends _ s

/-! ## Requests that reach gbm -/

section Creates

variable {env : DoAllocateEnv} {allocator : GbmMesaAllocator} {s s' : Process}
  {desc : GrallocBufferDesc} {status : ScopedAStatus}

theorem gbmAllocateBuffer_creates {env : AttemptEnv} {stored : Option (Word × Ptr)}
    (initialized : allocator.isInitialized = true) (ready : DeviceReady s)
    (nonNull : env.newHandle ≠ 0)
    (h : gbmAllocateBuffer env allocator s desc = .ok (status, stored, s')) :
    ∃ dev args, Extends (s.log (.gbmBoCreate dev args)) s' := by
  unfold gbmAllocateBuffer at h
  rw [if_neg (not_not_intro initialized), if_neg (by simp [grallocIsDescSupport_eq_true])] at h
  obtain ⟨⟨ret, made, s₁⟩, creates, h⟩ := bind_eq_ok.mp h
  have logged := grallocAllocate_creates ready nonNull creates
  dsimp only at h
  split at h
  · cases h
    exact logged
  · cases h
    exact logged

theorem allocateHandles_creates {remaining : Nat} {handles : List Ptr} {stride stride' : Word}
    (initialized : allocator.isInitialized = true) (ready : DeviceReady s)
    (nonNull : (env.attempts 0).newHandle ≠ 0)
    (h : allocateHandles env allocator desc (remaining + 1) [] stride s =
      .ok (status, handles, stride', s')) :
    ∃ dev args, Extends (s.log (.gbmBoCreate dev args)) s' := by
  unfold allocateHandles at h
  obtain ⟨⟨attempted, stored, s₁⟩, attempts, h⟩ := bind_eq_ok.mp h
  obtain ⟨dev, args, logged⟩ := gbmAllocateBuffer_creates initialized ready nonNull attempts
  refine ⟨dev, args, logged.trans ?_⟩
  dsimp only at h
  split at h
  · obtain ⟨s₂, released, h⟩ := bind_eq_ok.mp h
    cases h
    exact releaseAll_extends _ released
  · exact allocateHandles_extends remaining h

theorem count_ne_zero {count : Word} (positive : 1 ≤ count.toInt) : count.toNat ≠ 0 := by
  intro none
  rw [BitVec.eq_of_toNat_eq (y := 0#32) none] at positive
  exact absurd positive (by decide)

/-- A request for a buffer asks gbm for a BO once it has a handle. -/
theorem doAllocate_creates {count : Word} {outResult result : AllocationResult}
    (initialized : allocator.isInitialized = true) (ready : DeviceReady s)
    (positive : 1 ≤ count.toInt) (nonNull : (env.attempts 0).newHandle ≠ 0)
    (h : doAllocate env allocator s desc count outResult = .ok (status, result, s')) :
    ReachesCreate s s' := by
  unfold doAllocate at h
  rw [if_neg (not_not_intro initialized), if_neg (by omega)] at h
  obtain ⟨⟨allocated, handles, stride, s₁⟩, allocates, h⟩ := bind_eq_ok.mp h
  obtain ⟨remaining, hcount⟩ := Nat.exists_eq_succ_of_ne_zero (count_ne_zero positive)
  rw [hcount] at allocates
  obtain ⟨dev, args, logged⟩ := allocateHandles_creates initialized ready nonNull allocates
  refine ⟨dev, args, (logged.trans ?_).mem_callsSince⟩
  dsimp only at h
  split at h
  · cases h
    exact .refl _
  · obtain ⟨⟨buffers, s₂⟩, exports, h⟩ := bind_eq_ok.mp h
    cases h
    exact (resizeBuffers_extends _ _ _).trans (exportHandles_extends _ exports)

end Creates

end GbmMesaAllocator

end GrallocGbmMesa.Allocator
