import GrallocGbmMesa.Core.DeviceOwner

/-!
# The gralloc module

`gralloc_gbm_module_t` is initialised on its first use, and from then on has a
pointer of its own to the gbm device.
-/

namespace GrallocGbmMesa.Gralloc4

open Checked
open GrallocGbmMesa.Platform GrallocGbmMesa.Core

structure GrallocGbmModule where
  initialized : Bool := false
  /-- what the `std::shared_ptr` points to, `0` when it is empty -/
  gbmDev : Ptr := 0

/-- The shared pointer gives up its device, which its deleter destroys. -/
def GrallocGbmModule.releaseGbmDev (mod : GrallocGbmModule) (s : Process) :
    Except Fault (GrallocGbmModule × Process) :=
  if mod.gbmDev ≠ 0 then do
    let s ← gbmDeviceDestroy s mod.gbmDev
    return ({ mod with gbmDev := 0 }, s)
  else .ok (mod, s)

/-- What the platform answers to `gralloc_mod_gbm_init`. -/
structure ModuleInitEnv where
  init : DeviceInitEnv
  /-- the result of `gbm_create_device` after the initialisation -/
  created : Ptr

def grallocModGbmInit (env : ModuleInitEnv) (mod : GrallocGbmModule) (s : Process) :
    Except Fault (Int × GrallocGbmModule × Process) :=
  if mod.initialized then .ok (0, mod, s)
  else
    let (fd, s) := grallocGbmDeviceInit env.init s
    if fd < 0 then .ok (-einval, mod, s)
    else
      let (ret, dev, s) := grallocGbmDeviceCreate env.created s (BitVec.ofInt 32 fd)
      if ret ≠ 0 then .ok (-einval, mod, s)
      else do
        -- the assignment drops what the pointer held before
        let (_, s) ← mod.releaseGbmDev s
        return (0, { initialized := true, gbmDev := dev.getD 0 }, s)

theorem GrallocGbmModule.releaseGbmDev_empty {mod : GrallocGbmModule} (empty : mod.gbmDev = 0)
    {s : Process} : mod.releaseGbmDev s = .ok (mod, s) := if_neg (not_not_intro empty)

theorem grallocModGbmInit_again {mod : GrallocGbmModule} (again : mod.initialized = true)
    {env : ModuleInitEnv} {s : Process} : grallocModGbmInit env mod s = .ok (0, mod, s) :=
  if_pos again

/-- What the first use of the module makes of the process. -/
def moduleProcess (env : ModuleInitEnv) (s : Process) : Process :=
  let (fd, s) := grallocGbmDeviceInit env.init s
  if fd < 0 then s else (grallocGbmDeviceCreate env.created s (BitVec.ofInt 32 fd)).2.2

theorem grallocModGbmInit_first {mod : GrallocGbmModule} (first : mod.initialized = false)
    (empty : mod.gbmDev = 0) (env : ModuleInitEnv) (s : Process) :
    ∃ ret mod', grallocModGbmInit env mod s = .ok (ret, mod', moduleProcess env s) ∧
      (mod'.initialized = false → mod'.gbmDev = 0) := by
  unfold grallocModGbmInit moduleProcess
  rw [if_neg (by simp [first])]
  generalize grallocGbmDeviceInit env.init s = opened
  obtain ⟨fd, s⟩ := opened
  by_cases failed : fd < 0
  · simp only [if_pos failed]
    exact ⟨_, mod, rfl, fun _ => empty⟩
  simp only [if_neg failed]
  generalize grallocGbmDeviceCreate env.created s (BitVec.ofInt 32 fd) = made
  obtain ⟨ret, dev, s⟩ := made
  by_cases refused : ret ≠ 0
  · simp only [if_pos refused]
    exact ⟨_, mod, rfl, fun _ => empty⟩
  simp only [if_neg refused, GrallocGbmModule.releaseGbmDev_empty empty, ok_bind]
  exact ⟨_, _, rfl, nofun⟩

/-- A first use that opens and creates in order tries to create the device again. -/
theorem moduleProcess_inOrder {env : ModuleInitEnv} {s : Process} (inv : DeviceInv s)
    (opened : 0 ≤ env.init.fd.toInt) (order : InitInOrder env.init s) :
    (grallocGbmDeviceInit env.init s).2.gbmDevFd = env.init.fd ∧
      moduleProcess env s =
        (grallocGbmDeviceCreate env.created (grallocGbmDeviceInit env.init s).2
          (grallocGbmDeviceInit env.init s).2.gbmDevFd).2.2 := by
  obtain ⟨none, nonNull⟩ := order.resolve_left (Int.not_lt.mpr opened)
  unfold moduleProcess
  rw [grallocGbmDeviceInit_made opened (inv.not_reused_of_none none) nonNull]
  refine ⟨rfl, ?_⟩
  dsimp only
  rw [if_neg (Int.not_lt.mpr opened), BitVec.ofInt_toInt]

/-- The first use does not destroy a device. -/
theorem moduleProcess_live {env : ModuleInitEnv} {s : Process} {p : Ptr}
    (live : (grallocGbmDeviceInit env.init s).2.devices p ≠ none) :
    (moduleProcess env s).devices p ≠ none := by
  unfold moduleProcess
  dsimp only
  split
  · exact live
  · exact grallocGbmDeviceCreate_live live

theorem moduleProcess_inv {env : ModuleInitEnv} {s : Process} (inv : DeviceInv s)
    (order : InitInOrder env.init s) (again : env.init.fd ≠ 0 ∨ env.created = 0) :
    DeviceInv (moduleProcess env s) := by
  by_cases failed : env.init.fd.toInt < 0
  · unfold moduleProcess
    rw [grallocGbmDeviceInit_unopened failed]
    exact inv
  obtain ⟨current, process⟩ := moduleProcess_inOrder inv (Int.not_lt.mp failed) order
  rw [process]
  exact (inv.init order).create (by rwa [current])

/-- The first use is in order if its initialisation is and the device is not made twice. -/
theorem moduleProcess_inOrder_iff {env : ModuleInitEnv} {s : Process} (inv : DeviceInv s)
    (fresh : env.init.Fresh s)
    (new : env.created ≠ 0 → s.devices env.created = none ∧ env.created ≠ env.init.created) :
    (InitInOrder env.init s ∧ (env.init.fd ≠ 0 ∨ env.created = 0)) ↔
      InitAccounted env.init s ∧ AtMostOneDevice (moduleProcess env s) := by
  constructor
  · rintro ⟨order, again⟩
    exact ⟨((inv.initInOrder_iff fresh).mp order).1, (moduleProcess_inv inv order again).unique⟩
  · rintro ⟨accounted, unique⟩
    have order : InitInOrder env.init s := (inv.initInOrder_iff fresh).mpr
      ⟨accounted, fun p q hp hq => unique p q (moduleProcess_live hp) (moduleProcess_live hq)⟩
    refine ⟨order, ?_⟩
    by_cases failed : env.init.fd.toInt < 0
    · refine .inl ?_
      intro zero
      rw [zero] at failed
      exact absurd failed (by decide)
    have opened := Int.not_lt.mp failed
    obtain ⟨current, process⟩ := moduleProcess_inOrder inv opened order
    rw [process] at unique
    rw [← current]
    refine ((inv.init order).create_inOrder_iff fun nonNull => ?_).mpr unique
    obtain ⟨none, made⟩ := order.resolve_left failed
    rw [grallocGbmDeviceInit_made opened (inv.not_reused_of_none none) made]
    exact (Function.update_of_ne (new nonNull).2 ..).trans (new nonNull).1

end GrallocGbmMesa.Gralloc4
