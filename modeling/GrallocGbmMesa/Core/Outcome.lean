import GrallocGbmMesa.Core.Buffer
import GrallocGbmMesa.Core.DeviceOwner

/-!
# What becomes of an allocation

An allocation finds its device, asks for a handle and for a BO, and exports it; an import
finds its device and asks for a BO.  One lemma says what is left for each way it can end.
-/

namespace GrallocGbmMesa.Core

open Checked
open GrallocGbmMesa.Platform

instance (s : Process) : Decidable (Reused s) := inferInstanceAs (Decidable (_ ∧ _))

/-! ## The device -/

/-- The call that `gralloc_allocate` makes creates a device. -/
def DeviceMade (env : AllocEnv) (s : Process) : Prop :=
  ¬ Reused s ∧ 0 ≤ s.gbmDevFd.toInt ∧ env.createdDevice ≠ 0

instance (env : AllocEnv) (s : Process) : Decidable (DeviceMade env s) :=
  inferInstanceAs (Decidable (_ ∧ _))

/-- What the local `dev` holds after the call. -/
def allocDevice (env : AllocEnv) (s : Process) : Ptr :=
  if Reused s then s.gbmDev else if DeviceMade env s then env.createdDevice else env.devLocal

/-- What `_gbm_dev` holds after the call. -/
def libraryDevice (env : AllocEnv) (s : Process) : Ptr :=
  if Reused s ∨ s.gbmDevFd.toInt < 0 then s.gbmDev else env.createdDevice

/-- The local `dev` points to a live device. -/
def DeviceLive (env : AllocEnv) (s : Process) : Prop :=
  DeviceMade env s ∨ s.devices (allocDevice env s) ≠ none

/-- The process after the call. -/
def deviceProcess (env : AllocEnv) (s : Process) : Process :=
  (grallocGbmDeviceCreate env.createdDevice s s.gbmDevFd).2.2

section Device

variable {env : AllocEnv} {s : Process}

/-- The three ways in which the call ends. -/
theorem grallocGbmDeviceCreate_cases (env : AllocEnv) (s : Process) :
    (Reused s ∧ grallocGbmDeviceCreate env.createdDevice s s.gbmDevFd = (0, some s.gbmDev, s)) ∨
      (¬ Reused s ∧ ¬ DeviceMade env s ∧ ∃ gbmDev gbmDevFd calls,
        gbmDev = libraryDevice env s ∧
          grallocGbmDeviceCreate env.createdDevice s s.gbmDevFd =
            (-einval, none, { s with gbmDev, gbmDevFd, calls })) ∨
      (DeviceMade env s ∧ grallocGbmDeviceCreate env.createdDevice s s.gbmDevFd =
        (0, some env.createdDevice,
          { s.log (.gbmCreateDevice s.gbmDevFd) with
            gbmDev := env.createdDevice
            gbmDevFd := s.gbmDevFd
            devices := Function.update s.devices env.createdDevice (some s.gbmDevFd) })) := by
  by_cases reused : Reused s
  · exact .inl ⟨reused, grallocGbmDeviceCreate_reused reused⟩
  by_cases invalid : s.gbmDevFd.toInt < 0
  · refine .inr (.inl ⟨reused, fun made => Int.not_le.mpr invalid made.2.1, s.gbmDev, s.gbmDevFd,
      s.calls, (if_pos (.inr invalid)).symm, ?_⟩)
    rw [grallocGbmDeviceCreate_refused reused invalid]
  have valid := Int.not_lt.mp invalid
  by_cases null : env.createdDevice = 0
  · refine .inr (.inl ⟨reused, fun made => made.2.2 null, 0, -1,
      .gbmCreateDevice s.gbmDevFd :: s.calls, ?_, ?_⟩)
    · rw [libraryDevice, if_neg (not_or.mpr ⟨reused, invalid⟩), null]
    · rw [null, grallocGbmDeviceCreate_failed reused valid]
      rfl
  · exact .inr (.inr ⟨⟨reused, valid, null⟩, grallocGbmDeviceCreate_made reused valid null⟩)

theorem allocDevice_eq (env : AllocEnv) (s : Process) :
    (grallocGbmDeviceCreate env.createdDevice s s.gbmDevFd).2.1.getD env.devLocal =
      allocDevice env s := by
  unfold allocDevice
  rcases grallocGbmDeviceCreate_cases env s with
    ⟨reused, created⟩ | ⟨new, notMade, _, _, _, -, created⟩ | ⟨made, created⟩
  · rw [created, if_pos reused]
    rfl
  · rw [created, if_neg new, if_neg notMade]
    rfl
  · rw [created, if_neg made.1, if_pos made]
    rfl

/-- Without a device the call has failed. -/
theorem grallocGbmDeviceCreate_einval (null : allocDevice env s = 0) :
    (grallocGbmDeviceCreate env.createdDevice s s.gbmDevFd).1 = -einval := by
  unfold allocDevice at null
  rcases grallocGbmDeviceCreate_cases env s with
    ⟨reused, -⟩ | ⟨-, -, _, _, _, -, created⟩ | ⟨made, -⟩
  · rw [if_pos reused] at null
    exact absurd null reused.2
  · rw [created]
  · rw [if_neg made.1, if_pos made] at null
    exact absurd null made.2.2

theorem deviceProcess_gbmDev (env : AllocEnv) (s : Process) :
    (deviceProcess env s).gbmDev = libraryDevice env s := by
  unfold deviceProcess
  rcases grallocGbmDeviceCreate_cases env s with
    ⟨reused, created⟩ | ⟨-, -, gbmDev, _, _, library, created⟩ | ⟨made, created⟩
  · rw [created, libraryDevice, if_pos (.inl reused)]
  · rw [created, ← library]
  · rw [created, libraryDevice, if_neg (not_or.mpr ⟨made.1, Int.not_lt.mpr made.2.1⟩)]

theorem deviceLive_iff (env : AllocEnv) (s : Process) :
    DeviceLive env s ↔ (deviceProcess env s).devices (allocDevice env s) ≠ none := by
  unfold DeviceLive deviceProcess
  rcases grallocGbmDeviceCreate_cases env s with
    ⟨reused, created⟩ | ⟨-, notMade, _, _, _, -, created⟩ | ⟨made, created⟩
  · rw [created]
    exact or_iff_right fun made => made.1 reused
  · rw [created]
    exact or_iff_right notMade
  · rw [created, allocDevice, if_neg made.1, if_pos made]
    simp [made]

/-- The call concerns the device only. -/
theorem deviceProcess_frame (env : AllocEnv) (s : Process) :
    (deviceProcess env s).gbmBoHandleMap = s.gbmBoHandleMap ∧
      (deviceProcess env s).bos = s.bos ∧ (deviceProcess env s).handles = s.handles ∧
      (deviceProcess env s).fds = s.fds := by
  unfold deviceProcess
  rcases grallocGbmDeviceCreate_cases env s with
    ⟨-, created⟩ | ⟨-, -, _, _, _, -, created⟩ | ⟨-, created⟩ <;>
    rw [created] <;> exact ⟨rfl, rfl, rfl, rfl⟩

end Device

/-! ## The ways an allocation ends -/

/-- The handle before its BO exists. -/
def createdHandle (env : AllocEnv) (desc : GrallocBufferDesc) : GrallocHandle :=
  grallocHandleCreate env.memory desc.width desc.height desc.androidFormat desc.androidUsage

/-- The process in which `gbm_bo_create` has been called. -/
def askedProcess (env : AllocEnv) (s : Process) (desc : GrallocBufferDesc) : Process :=
  ((deviceProcess env s).placeHandle env.newHandle (createdHandle env desc).native).log
    (.gbmBoCreate (allocDevice env s) (createArgs (createdHandle env desc)))

/-- The allocation gets as far as `gbm_bo_create`. -/
structure AsksForBo (env : AllocEnv) (s : Process) : Prop where
  device : allocDevice env s ≠ 0
  handle : env.newHandle ≠ 0
  live : DeviceLive env s

section Ends

variable {env : AllocEnv} {s : Process}

/-- A device that is ready is used as it is. -/
theorem AsksForBo.of_ready (ready : DeviceReady s) (nonNull : env.newHandle ≠ 0) :
    AsksForBo env s ∧ deviceProcess env s = s := by
  have reused : Reused s := ⟨ready.1, ready.2.1⟩
  have device : allocDevice env s = s.gbmDev := if_pos reused
  refine ⟨⟨by rw [device]; exact ready.2.1, nonNull, .inr (by rw [device]; exact ready.2.2)⟩, ?_⟩
  unfold deviceProcess
  rw [grallocGbmDeviceCreate_ready ready]

theorem grallocAllocate_eq (env : AllocEnv) (s : Process) (desc : GrallocBufferDesc) :
    grallocAllocate env s desc =
      if allocDevice env s = 0 ∨ env.newHandle = 0 then .ok (-einval, none, deviceProcess env s)
      else if (deviceProcess env s).devices (allocDevice env s) = none then .error .invalidPointer
      else
        match env.newBo with
        | none => .ok (-env.errno, none,
            (askedProcess env s desc).nativeHandleDelete env.newHandle)
        | some new => .ok (0, some (new.stride, env.newHandle),
            registerAllocated env new (createArgs (createdHandle env desc))
              (createdHandle env desc) (askedProcess env s desc)) := by
  have device := allocDevice_eq env s
  have einval := @grallocGbmDeviceCreate_einval env s
  unfold grallocAllocate
  rw [if_neg (by simp [grallocIsDescSupport_eq_true])]
  unfold askedProcess deviceProcess
  generalize grallocGbmDeviceCreate env.createdDevice s s.gbmDevFd = created at device einval ⊢
  obtain ⟨ret, stored, s₁⟩ := created
  dsimp only at device einval ⊢
  rw [device]
  by_cases null : allocDevice env s = 0
  · rw [if_pos null, if_pos (.inl null), einval null]
  by_cases noHandle : env.newHandle = 0
  · rw [if_neg null, if_pos noHandle, if_pos (.inr noHandle)]
  · rw [if_neg null, if_neg noHandle, if_neg (not_or.mpr ⟨null, noHandle⟩)]
    rfl

theorem grallocAllocate_refused (refused : allocDevice env s = 0 ∨ env.newHandle = 0)
    (desc : GrallocBufferDesc) :
    grallocAllocate env s desc = .ok (-einval, none, deviceProcess env s) := by
  rw [grallocAllocate_eq, if_pos refused]

/-- An indeterminate `dev` may point nowhere. -/
theorem grallocAllocate_dangling (device : allocDevice env s ≠ 0) (handle : env.newHandle ≠ 0)
    (dangling : ¬ DeviceLive env s) (desc : GrallocBufferDesc) :
    grallocAllocate env s desc = .error .invalidPointer := by
  rw [deviceLive_iff, not_not] at dangling
  rw [grallocAllocate_eq, if_neg (not_or.mpr ⟨device, handle⟩), if_pos dangling]

theorem grallocAllocate_asks (asks : AsksForBo env s) (desc : GrallocBufferDesc) :
    grallocAllocate env s desc =
      match env.newBo with
      | none => .ok (-env.errno, none,
          (askedProcess env s desc).nativeHandleDelete env.newHandle)
      | some new => .ok (0, some (new.stride, env.newHandle),
          registerAllocated env new (createArgs (createdHandle env desc))
            (createdHandle env desc) (askedProcess env s desc)) := by
  rw [grallocAllocate_eq, if_neg (not_or.mpr ⟨asks.device, asks.handle⟩),
    if_neg ((deviceLive_iff env s).mp asks.live)]

theorem grallocAllocate_noBo (asks : AsksForBo env s) (none : env.newBo = none)
    (desc : GrallocBufferDesc) :
    grallocAllocate env s desc = .ok (-env.errno, Option.none,
      (askedProcess env s desc).nativeHandleDelete env.newHandle) := by
  rw [grallocAllocate_asks asks, none]

/-- The handle of a BO that could not be created is gone. -/
theorem noBo_same (fresh : s.handles env.newHandle = none) (desc : GrallocBufferDesc) :
    SameResources (deviceProcess env s)
      ((askedProcess env s desc).nativeHandleDelete env.newHandle) := by
  obtain ⟨-, -, handles, -⟩ := deviceProcess_frame env s
  unfold askedProcess
  generalize deviceProcess env s = s₁ at handles ⊢
  refine ⟨rfl, rfl, ?_, rfl, rfl, rfl, rfl⟩
  change Function.update (Function.update s₁.handles env.newHandle _) env.newHandle none =
    s₁.handles
  rw [Function.update_idem, Function.update_eq_self_iff, handles, fresh]

theorem noBo_frame (fresh : s.handles env.newHandle = none) (desc : GrallocBufferDesc) :
    let s' := (askedProcess env s desc).nativeHandleDelete env.newHandle
    s'.gbmBoHandleMap = s.gbmBoHandleMap ∧ s'.bos = s.bos ∧ s'.handles = s.handles ∧
      s'.fds = s.fds := by
  obtain ⟨registry, bos, handles, fds⟩ := deviceProcess_frame env s
  have same := noBo_same fresh desc
  exact ⟨same.registry.trans registry, same.bos.trans bos, same.handles.trans handles,
    same.fds.trans fds⟩

/-- An entry that exists is kept. -/
theorem emplace_eq (s : Process) (key bo : Ptr) :
    emplace s key bo =
      { s with
        gbmBoHandleMap := Function.update s.gbmBoHandleMap key
          ((s.gbmBoHandleMap key).or (some bo)) } := by
  unfold emplace
  cases found : s.gbmBoHandleMap key with
  | none => rfl
  | some old =>
      have kept : Function.update s.gbmBoHandleMap key (some old) = s.gbmBoHandleMap := by
        rw [Function.update_eq_self_iff, found]
      simp only [Option.some_or, kept]

/-- The BO that `gbm_bo_create` makes. -/
def createdBo (env : AllocEnv) (new : NewBo) (args : CreateArgs) : GbmBo where
  width := args.width
  height := args.height
  stride := new.stride
  modifier := new.modifier
  file := env.file
  userData := none
  mappings := []

/-- The process after an allocation that has got its BO. -/
def madeProcess (env : AllocEnv) (s : Process) (new : NewBo) (desc : GrallocBufferDesc) :
    Process :=
  { deviceProcess env s with
    gbmBoHandleMap := Function.update s.gbmBoHandleMap env.newHandle
      ((s.gbmBoHandleMap env.newHandle).or (some new.bo))
    bos := Function.update s.bos new.bo
      (some (createdBo env new (createArgs (createdHandle env desc))))
    handles := Function.update s.handles env.newHandle (some (allocatedHandle env new desc).native)
    fds := if env.exportedFd.toInt < 0 then s.fds
      else Function.update s.fds env.exportedFd (some env.file)
    calls := .gbmBoCreate (allocDevice env s) (createArgs (createdHandle env desc)) ::
      (deviceProcess env s).calls }

theorem registerAllocated_made (env : AllocEnv) (s : Process) (new : NewBo)
    (desc : GrallocBufferDesc) :
    registerAllocated env new (createArgs (createdHandle env desc)) (createdHandle env desc)
      (askedProcess env s desc) = madeProcess env s new desc := by
  obtain ⟨registry, bos, handles, fds⟩ := deviceProcess_frame env s
  unfold registerAllocated madeProcess askedProcess
  rw [emplace_eq, ← registry, ← bos, ← handles, ← fds]
  generalize deviceProcess env s = s₁
  have words : exportHandle env new (createdHandle env desc) = allocatedHandle env new desc := rfl
  rw [words]
  generalize createArgs (createdHandle env desc) = args
  generalize (createdHandle env desc).native = unexported
  generalize (allocatedHandle env new desc).native = native
  have placed : Function.update (Function.update s₁.handles env.newHandle (some unexported))
      env.newHandle (some native) = Function.update s₁.handles env.newHandle (some native) :=
    Function.update_idem ..
  rw [← placed]
  by_cases closed : env.exportedFd.toInt < 0
  · simp only [if_pos closed]
    rfl
  · rw [if_neg closed, if_neg closed]
    simp only [Process.setBo, Process.log, Process.placeHandle, Process.openFd, createdBo]

theorem grallocAllocate_made (asks : AsksForBo env s) {new : NewBo} (made : env.newBo = some new)
    (desc : GrallocBufferDesc) :
    grallocAllocate env s desc =
      .ok (0, some (new.stride, env.newHandle), madeProcess env s new desc) := by
  rw [grallocAllocate_asks asks, made, ← registerAllocated_made]

/-- Every way an allocation returns. -/
inductive AllocReturns (env : AllocEnv) (s : Process) (desc : GrallocBufferDesc) :
    Int → Option (Word × Ptr) → Process → Prop where
  | refused (denied : allocDevice env s = 0 ∨ env.newHandle = 0) :
      AllocReturns env s desc (-einval) none (deviceProcess env s)
  | noBo (asks : AsksForBo env s) (answer : env.newBo = none) :
      AllocReturns env s desc (-env.errno) none
        ((askedProcess env s desc).nativeHandleDelete env.newHandle)
  | made {new : NewBo} (asks : AsksForBo env s) (answer : env.newBo = some new) :
      AllocReturns env s desc 0 (some (new.stride, env.newHandle)) (madeProcess env s new desc)

theorem grallocAllocate_returns {s' : Process} {desc : GrallocBufferDesc} {ret : Int}
    {stored : Option (Word × Ptr)} (h : grallocAllocate env s desc = .ok (ret, stored, s')) :
    AllocReturns env s desc ret stored s' := by
  by_cases denied : allocDevice env s = 0 ∨ env.newHandle = 0
  · cases (grallocAllocate_refused denied desc).symm.trans h
    exact .refused denied
  obtain ⟨device, handle⟩ := not_or.mp denied
  by_cases live : DeviceLive env s
  · have asks : AsksForBo env s := ⟨device, handle, live⟩
    cases answer : env.newBo with
    | none =>
        cases (grallocAllocate_noBo asks answer desc).symm.trans h
        exact .noBo asks answer
    | some new =>
        cases (grallocAllocate_made asks answer desc).symm.trans h
        exact .made asks answer
  · cases (grallocAllocate_dangling device handle live desc).symm.trans h

/-- An allocation that succeeds has placed the handle and created the BO last. -/
theorem grallocAllocate_success {s' : Process} {desc : GrallocBufferDesc} {ret : Int}
    {stride : Word} {handle : Ptr}
    (h : grallocAllocate env s desc = .ok (ret, some (stride, handle), s')) :
    ret = 0 ∧ ∃ new dev rest, env.newBo = some new ∧ stride = new.stride ∧
      s'.handles handle = some (allocatedHandle env new desc).native ∧
      s'.calls = .gbmBoCreate dev (createArgs (createdHandle env desc)) :: rest := by
  cases grallocAllocate_returns h with
  | made asks answer => exact ⟨rfl, _, _, _, answer, rfl, Function.update_self .., rfl⟩

end Ends

/-! ## The ways an import ends -/

section Imports

variable {env : ImportEnv} {s : Process} {handle : Ptr}

/-- The process in which an import has asked for the device. -/
def openedProcess (env : ImportEnv) (s : Process) : Process :=
  (grallocGbmDeviceCreate env.createdDevice s s.gbmDevFd).2.2

/-- Every way an import returns. -/
inductive ImportReturns (env : ImportEnv) (s : Process) (handle : Ptr) : Int → Process → Prop where
  | refused (denied : handle = 0 ∨ s.gbmBoHandleMap handle ≠ none) :
      ImportReturns env s handle (-einval) s
  | noBo {ret : Int} (failed : ret ≠ 0) : ImportReturns env s handle ret (openedProcess env s)
  | asked {ret : Int} {dev : Ptr} {data : ImportData} (failed : ret ≠ 0) :
      ImportReturns env s handle ret ((openedProcess env s).log (.gbmBoImport dev data))
  | imported {native : NativeHandle} {new : NewBo} {format : Word} {dev : Ptr}
      {data : ImportData} (nonNull : handle ≠ 0) (free : s.gbmBoHandleMap handle = none)
      (placed : s.handles handle = some native) (answer : env.newBo = some new)
      (layout : importData native format = .ok data) :
      ImportReturns env s handle 0
        { openedProcess env s with
          gbmBoHandleMap := Function.update s.gbmBoHandleMap handle (some new.bo)
          bos := Function.update s.bos new.bo
            (some (importedBo new data (openedProcess env s)))
          calls := .gbmBoImport dev data :: (openedProcess env s).calls }

theorem grallocGmBufferImport_returns {s' : Process} {ret : Int}
    (h : grallocGmBufferImport env s handle = .ok (ret, s')) :
    ImportReturns env s handle ret s' := by
  unfold grallocGmBufferImport at h
  by_cases null : handle = 0
  · rw [if_pos null] at h
    cases h
    exact .refused (.inl null)
  rw [if_neg null] at h
  by_cases registered : (s.gbmBoHandleMap handle).isSome
  · rw [if_pos registered] at h
    cases h
    exact .refused (.inr (Option.isSome_iff_ne_none.mp registered))
  rw [if_neg registered] at h
  have free := Option.not_isSome_iff_eq_none.mp registered
  obtain ⟨registry, bos⟩ := grallocGbmDeviceCreate_buffers env.createdDevice s s.gbmDevFd
  have handles := grallocGbmDeviceCreate_handles env.createdDevice s s.gbmDevFd
  dsimp only at h
  by_cases noDevice :
      (grallocGbmDeviceCreate env.createdDevice s s.gbmDevFd).2.1.getD 0 = 0
  · rw [if_pos noDevice] at h
    cases h
    exact .noBo (by decide)
  rw [if_neg noDevice] at h
  obtain ⟨native, hnative, h⟩ := bind_eq_ok.mp h
  have placed := Process.handle_eq_ok.mp hnative
  rw [handles] at placed
  rcases importBo_returns ((congrFun registry handle).trans free) h with
    ⟨failed, rfl | ⟨data, rfl⟩⟩ | ⟨rfl, new, format, data, answer, layout, rfl⟩
  · exact .noBo failed
  · exact .asked failed
  · rw [registry, bos]
    exact .imported null free placed answer layout

end Imports

end GrallocGbmMesa.Core
