import GrallocGbmMesa.Platform.Process

/-!
# The gbm device

One device serves the whole process.  It is created on the first use and reused
as long as its descriptor is positive.
-/

namespace GrallocGbmMesa.Core

open GrallocGbmMesa.Platform

/-- `gralloc_gbm_device_create`; `created` is what `gbm_create_device` returns,
the second result what is stored through `dev`, if anything is. -/
def grallocGbmDeviceCreate (created : Ptr) (s : Process) (fd : Fd) :
    Int × Option Ptr × Process :=
  if s.gbmDevFd.toInt > 0 ∧ s.gbmDev ≠ 0 then (0, some s.gbmDev, s)
  else if fd.toInt < 0 then (-einval, none, s)
  else
    let s := s.log (.gbmCreateDevice fd)
    if created = 0 then (-einval, none, { s with gbmDev := 0, gbmDevFd := -1 })
    else (0, some created,
      { s with
        gbmDev := created
        gbmDevFd := fd
        devices := Function.update s.devices created (some fd) })

/-- What the platform answers to `gralloc_gbm_device_init`. -/
structure DeviceInitEnv where
  /-- the result of `open` -/
  fd : Fd
  file : FileId
  /-- the result of `gbm_create_device` -/
  created : Ptr

def grallocGbmDeviceInit (env : DeviceInitEnv) (s : Process) : Int × Process :=
  if env.fd.toInt < 0 then (-einval, s)
  else
    let s := s.openFd env.fd env.file
    let (ret, _, s) := grallocGbmDeviceCreate env.created s env.fd
    if ret ≠ 0 then (-einval, s) else (s.gbmDevFd.toInt, s)

/-- A device comes without buffers. -/
theorem grallocGbmDeviceCreate_buffers (created : Ptr) (s : Process) (fd : Fd) :
    (grallocGbmDeviceCreate created s fd).2.2.gbmBoHandleMap = s.gbmBoHandleMap ∧
      (grallocGbmDeviceCreate created s fd).2.2.bos = s.bos := by
  unfold grallocGbmDeviceCreate
  split
  · exact ⟨rfl, rfl⟩
  split
  · exact ⟨rfl, rfl⟩
  simp only
  split <;> exact ⟨rfl, rfl⟩

theorem grallocGbmDeviceCreate_handles (created : Ptr) (s : Process) (fd : Fd) :
    (grallocGbmDeviceCreate created s fd).2.2.handles = s.handles := by
  unfold grallocGbmDeviceCreate
  split
  · rfl
  split
  · rfl
  simp only
  split <;> rfl

theorem grallocGbmDeviceCreate_fds (created : Ptr) (s : Process) (fd : Fd) :
    (grallocGbmDeviceCreate created s fd).2.2.fds = s.fds := by
  unfold grallocGbmDeviceCreate
  split
  · rfl
  split
  · rfl
  simp only
  split <;> rfl

/-- The creation of a device is all that may be logged. -/
theorem grallocGbmDeviceCreate_calls (created : Ptr) (s : Process) (fd : Fd) :
    (grallocGbmDeviceCreate created s fd).2.2.calls = s.calls ∨
      (grallocGbmDeviceCreate created s fd).2.2.calls = .gbmCreateDevice fd :: s.calls := by
  unfold grallocGbmDeviceCreate
  split
  · exact .inl rfl
  split
  · exact .inl rfl
  simp only
  split <;> exact .inr rfl

/-- What is opened stays open, and a device is created on it. -/
theorem grallocGbmDeviceInit_process (env : DeviceInitEnv) (s : Process) :
    (grallocGbmDeviceInit env s).2 =
      if env.fd.toInt < 0 then s
      else (grallocGbmDeviceCreate env.created (s.openFd env.fd env.file) env.fd).2.2 := by
  unfold grallocGbmDeviceInit
  by_cases failed : env.fd.toInt < 0
  · rw [if_pos failed, if_pos failed]
  · rw [if_neg failed, if_neg failed]
    exact apply_ite Prod.snd .. |>.trans (ite_self _)

theorem grallocGbmDeviceInit_buffers (env : DeviceInitEnv) (s : Process) :
    (grallocGbmDeviceInit env s).2.gbmBoHandleMap = s.gbmBoHandleMap ∧
      (grallocGbmDeviceInit env s).2.bos = s.bos := by
  rw [grallocGbmDeviceInit_process]
  split
  · exact ⟨rfl, rfl⟩
  · exact grallocGbmDeviceCreate_buffers env.created (s.openFd env.fd env.file) env.fd

/-- The device of the library has not been destroyed. -/
def DeviceAlive (s : Process) : Prop := s.gbmDev ≠ 0 → s.devices s.gbmDev ≠ none

/-- A device that is given out is live if the one before was. -/
theorem grallocGbmDeviceCreate_alive {s : Process} (alive : DeviceAlive s) (created : Ptr)
    (fd : Fd) :
    DeviceAlive (grallocGbmDeviceCreate created s fd).2.2 ∧
      ∀ dev, (grallocGbmDeviceCreate created s fd).2.1 = some dev → dev ≠ 0 →
        (grallocGbmDeviceCreate created s fd).2.2.devices dev ≠ none := by
  unfold grallocGbmDeviceCreate
  split
  · refine ⟨alive, ?_⟩
    rintro dev ⟨⟩ nonNull
    exact alive nonNull
  split
  · exact ⟨alive, nofun⟩
  simp only
  split
  · exact ⟨fun nonNull => absurd rfl nonNull, nofun⟩
  · have made : Function.update s.devices created (some fd) created ≠ none := by
      rw [Function.update_self]
      exact nofun
    refine ⟨fun _ => made, ?_⟩
    rintro dev ⟨⟩ -
    exact made

/-- A process that has not used the core library: its globals hold their initial values. -/
structure Unused (s : Process) : Prop where
  gbmDevFd : s.gbmDevFd = -1
  gbmDev : s.gbmDev = 0
  registry : s.gbmBoHandleMap = fun _ => none
  bos : s.bos = fun _ => none

/-- The process has a device that `gralloc_gbm_device_create` will reuse. -/
def DeviceReady (s : Process) : Prop :=
  0 < s.gbmDevFd.toInt ∧ s.gbmDev ≠ 0 ∧ s.devices s.gbmDev ≠ none

theorem grallocGbmDeviceCreate_ready {s : Process} (ready : DeviceReady s) (created : Ptr)
    (fd : Fd) : grallocGbmDeviceCreate created s fd = (0, some s.gbmDev, s) := by
  unfold grallocGbmDeviceCreate
  rw [if_pos ⟨ready.1, ready.2.1⟩]

/-- An initialisation that reports a positive descriptor leaves a usable device. -/
theorem grallocGbmDeviceInit_ready {env : DeviceInitEnv} {s : Process}
    (live : s.gbmDev ≠ 0 → s.devices s.gbmDev ≠ none)
    (positive : 0 < (grallocGbmDeviceInit env s).1) :
    DeviceReady (grallocGbmDeviceInit env s).2 := by
  unfold grallocGbmDeviceInit at positive ⊢
  by_cases hopen : env.fd.toInt < 0
  · rw [if_pos hopen] at positive
    cases positive
  rw [if_neg hopen] at positive ⊢
  unfold grallocGbmDeviceCreate at positive ⊢
  by_cases reuse : (s.openFd env.fd env.file).gbmDevFd.toInt > 0 ∧
      (s.openFd env.fd env.file).gbmDev ≠ 0
  · simp only [if_pos reuse] at positive ⊢
    exact ⟨reuse.1, reuse.2, live reuse.2⟩
  simp only [if_neg reuse, if_neg hopen] at positive ⊢
  by_cases hcreated : env.created = 0
  · simp only [if_pos hcreated] at positive
    change 0 < -einval at positive
    exact absurd positive (by decide)
  · simp only [if_neg hcreated] at positive ⊢
    exact ⟨positive, hcreated, by simp⟩

end GrallocGbmMesa.Core
