import GrallocGbmMesa.Allocator.Allocator
import GrallocGbmMesa.Core.AllocateImport
import GrallocGbmMesa.Core.Outcome

/-!
# When an allocation reports that it failed

The result of `gralloc_allocate` against what it has done.  A failure is
reported with an error number that nobody has set, through a device that nobody
has found, or not at all when the export of a descriptor fails.
-/

namespace GrallocGbmMesa.Allocator

open Checked
open GrallocGbmMesa.Platform GrallocGbmMesa.Core GbmMesaAllocator

/-- The buffer of an allocation: its BO is on the device of the library, its handle is
registered with the BO and has a descriptor, and both have been stored. -/
structure Produced (env : AllocEnv) (s' : Process) (stored : Option (Word × Ptr)) (new : NewBo)
    (bo : GbmBo) (handle : GrallocHandle) : Prop where
  created : env.newBo = some new
  asked : ∃ args rest, s'.calls = .gbmBoCreate s'.gbmDev args :: rest
  device : s'.devices s'.gbmDev ≠ none
  live : s'.bos new.bo = some bo
  registered : s'.gbmBoHandleMap env.newHandle = some new.bo
  native : s'.handles env.newHandle = some handle.native
  primeFd : 0 ≤ handle.primeFd.toInt
  stored : stored = some (bo.stride, env.newHandle)

/-- Registry, BOs, handles and open files are what they were. -/
structure KeepsBuffers (s s' : Process) : Prop where
  registry : s'.gbmBoHandleMap = s.gbmBoHandleMap
  bos : s'.bos = s.bos
  handles : s'.handles = s.handles
  fds : s'.fds = s.fds

/-- The call returns, with 0 exactly if it has produced a buffer, and otherwise with a
negative number and without a trace. -/
def ReportsExactly (env : AllocEnv) (s : Process) (desc : GrallocBufferDesc) : Prop :=
  ∃ ret stored s', grallocAllocate env s desc = .ok (ret, stored, s') ∧
    (ret = 0 ↔ ∃ new bo handle, Produced env s' stored new bo handle) ∧
    (ret ≠ 0 → ret < 0 ∧ stored = none ∧ KeepsBuffers s s')

/-- The allocator hands on what `gralloc_allocate` has stored. -/
def HandsOnProduced (env : AttemptEnv) (s : Process) (desc : GrallocBufferDesc) : Prop :=
  ∀ (allocator : GbmMesaAllocator) (pixelStride : Word) (handle : Ptr) (s' : Process),
    gbmAllocateBuffer env allocator s desc = .ok (.ok, some (pixelStride, handle), s') →
      ∃ stride, grallocAllocate env.toAllocEnv s desc = .ok (0, some (stride, handle), s')

/-- There is no device or no handle; or there is a live device, and a BO that is not
created leaves an error number, and one that is created is on the device of the library,
has a handle at an address that is not registered for another, and is exported. -/
def ReportsExactlyWhen (env : AllocEnv) (s : Process) : Prop :=
  allocDevice env s = 0 ∨ env.newHandle = 0 ∨
    (DeviceLive env s ∧
      match env.newBo with
      | none => 0 < env.errno
      | some new => allocDevice env s = libraryDevice env s ∧
          (∀ old, s.gbmBoHandleMap env.newHandle = some old → old = new.bo) ∧
          0 ≤ env.exportedFd.toInt)

section Cases

variable {env : AllocEnv} {s : Process} {desc : GrallocBufferDesc}

/-- What has not been stored has not been produced. -/
theorem not_produced_none {s' : Process} :
    ¬ ∃ new bo handle, Produced env s' none new bo handle := by
  rintro ⟨new, bo, handle, produced⟩
  cases produced.stored

theorem reportsExactly_refused (refused : allocDevice env s = 0 ∨ env.newHandle = 0) :
    ReportsExactly env s desc := by
  obtain ⟨registry, bos, handles, fds⟩ := deviceProcess_frame env s
  refine ⟨-einval, none, deviceProcess env s, grallocAllocate_refused refused desc, ?_, ?_⟩
  · exact iff_of_false (by decide) not_produced_none
  · exact fun _ => ⟨by decide, rfl, registry, bos, handles, fds⟩

theorem not_reportsExactly_dangling (device : allocDevice env s ≠ 0) (handle : env.newHandle ≠ 0)
    (dangling : ¬ DeviceLive env s) : ¬ ReportsExactly env s desc := by
  rintro ⟨ret, stored, s', returns, -⟩
  rw [grallocAllocate_dangling device handle dangling] at returns
  cases returns

theorem reportsExactly_noBo_iff (asks : AsksForBo env s)
    (fresh : s.handles env.newHandle = none) (noBo : env.newBo = none) :
    ReportsExactly env s desc ↔ 0 < env.errno := by
  have returns := grallocAllocate_noBo asks noBo desc
  constructor
  · rintro ⟨ret, stored, s', returns', zero, failed⟩
    cases returns.symm.trans returns'
    have nonzero : -env.errno ≠ 0 := fun h => not_produced_none (zero.mp h)
    have negative := (failed nonzero).1
    omega
  · intro positive
    obtain ⟨registry, bos, handles, fds⟩ := noBo_frame fresh desc
    refine ⟨_, _, _, returns, ?_, ?_⟩
    · exact iff_of_false (by omega) not_produced_none
    · exact fun _ => ⟨by omega, rfl, registry, bos, handles, fds⟩

theorem reportsExactly_made_iff (asks : AsksForBo env s) {new : NewBo}
    (made : env.newBo = some new) :
    ReportsExactly env s desc ↔
      allocDevice env s = libraryDevice env s ∧
        (∀ old, s.gbmBoHandleMap env.newHandle = some old → old = new.bo) ∧
        0 ≤ env.exportedFd.toInt := by
  have returns := grallocAllocate_made asks made desc
  have library : (madeProcess env s new desc).gbmDev = libraryDevice env s :=
    deviceProcess_gbmDev env s
  have registry : (madeProcess env s new desc).gbmBoHandleMap env.newHandle =
      (s.gbmBoHandleMap env.newHandle).or (some new.bo) := Function.update_self ..
  have native : (madeProcess env s new desc).handles env.newHandle =
      some (allocatedHandle env new desc).native := Function.update_self ..
  constructor
  · rintro ⟨ret, stored, s', returns', zero, -⟩
    cases returns.symm.trans returns'
    obtain ⟨new', bo, handle, produced⟩ := zero.mp rfl
    cases made.symm.trans produced.created
    refine ⟨?_, ?_, ?_⟩
    · obtain ⟨args, rest, asked⟩ := produced.asked
      have device := (Call.gbmBoCreate.inj (List.cons.inj asked).1).1
      exact device.trans library
    · intro old found
      rw [found, Option.some_or] at registry
      exact Option.some.inj (registry.symm.trans produced.registered)
    · have words := Option.some.inj (native.symm.trans produced.native)
      have primeFd : env.exportedFd = handle.primeFd :=
        (List.cons.inj (congrArg NativeHandle.fds words)).1
      rw [primeFd]
      exact produced.primeFd
  · rintro ⟨device, unregistered, exported⟩
    have current := library.trans device.symm
    have produced : Produced env (madeProcess env s new desc) (some (new.stride, env.newHandle)) new
        (createdBo env new (createArgs (createdHandle env desc))) (allocatedHandle env new desc) :=
      { created := made
        asked := ⟨createArgs (createdHandle env desc), (deviceProcess env s).calls,
          by rw [current]; rfl⟩
        device := by
          rw [current]
          exact (deviceLive_iff env s).mp asks.live
        live := Function.update_self ..
        registered := by
          rw [registry]
          cases found : s.gbmBoHandleMap env.newHandle with
          | none => rfl
          | some old => rw [unregistered old found, Option.some_or]
        native := native
        primeFd := exported
        stored := rfl }
    exact ⟨_, _, _, returns, iff_of_true rfl ⟨new, _, _, produced⟩, fun failed => absurd rfl failed⟩

/-- The report is exact exactly under its condition. -/
theorem reportsExactly_iff (fresh : env.newHandle ≠ 0 → s.handles env.newHandle = none) :
    ReportsExactly env s desc ↔ ReportsExactlyWhen env s := by
  unfold ReportsExactlyWhen
  by_cases device : allocDevice env s = 0
  · exact iff_of_true (reportsExactly_refused (.inl device)) (.inl device)
  by_cases handle : env.newHandle = 0
  · exact iff_of_true (reportsExactly_refused (.inr handle)) (.inr (.inl handle))
  rw [or_iff_right device, or_iff_right handle]
  by_cases live : DeviceLive env s
  · rw [and_iff_right live]
    cases newBo : env.newBo with
    | none => exact reportsExactly_noBo_iff ⟨device, handle, live⟩ (fresh handle) newBo
    | some new => exact reportsExactly_made_iff ⟨device, handle, live⟩ newBo
  · exact iff_of_false (not_reportsExactly_dangling device handle live) fun h => live h.1

end Cases

/-- An allocator that is handed exact reports hands on what they report. -/
theorem HandsOnProduced.of_exact {env : AttemptEnv} {s : Process} {desc : GrallocBufferDesc}
    (exact' : ReportsExactly env.toAllocEnv s desc) : HandsOnProduced env s desc := by
  obtain ⟨ret, stored, s₁, returns, zero, -⟩ := exact'
  intro allocator pixelStride handle s' allocates
  unfold gbmAllocateBuffer at allocates
  split at allocates
  · cases allocates
  split at allocates
  · cases allocates
  rw [returns, ok_bind] at allocates
  dsimp only at allocates
  split at allocates
  · cases allocates
  rename_i succeeded
  rw [not_not] at succeeded
  obtain ⟨new, bo, native, produced⟩ := zero.mp succeeded
  rw [produced.stored] at returns allocates
  cases allocates
  exact ⟨bo.stride, succeeded ▸ returns⟩

/-- An allocation reports exactly what it has done, and the allocator hands on nothing
else, exactly under the condition on the device and the answers of the platform. -/
theorem grallocAllocate_reports_iff {env : AttemptEnv} {s : Process}
    (fresh : env.newHandle ≠ 0 → s.handles env.newHandle = none) (desc : GrallocBufferDesc) :
    ReportsExactly env.toAllocEnv s desc ∧ HandsOnProduced env s desc ↔
      ReportsExactlyWhen env.toAllocEnv s := by
  have exact_iff : ReportsExactly env.toAllocEnv s desc ↔ _ := reportsExactly_iff fresh
  rw [← exact_iff]
  constructor
  · exact And.left
  · exact fun exact' => ⟨exact', .of_exact exact'⟩

/-- The attempt with the answers of `cursorEnv`, and an indeterminate handle. -/
def cursorAttempt : AttemptEnv := { cursorEnv with handleLocal := 80 }

theorem grallocAllocate_reports_iff_texture :
    ReportsExactly cursorEnv readyProcess textureDesc ∧
      HandsOnProduced cursorAttempt readyProcess textureDesc :=
  (@grallocAllocate_reports_iff cursorAttempt readyProcess (fun _ => rfl) textureDesc).mpr
    (.inr (.inr ⟨.inr (by decide), by decide, nofun, by decide⟩))

/-- gbm fails without an error number. -/
def silentAttempt : AttemptEnv := { cursorAttempt with newBo := none }

/-- The descriptor of the BO cannot be exported. -/
def unexportedEnv : AllocEnv := { cursorEnv with exportedFd := -1 }

/-- A process without a device. -/
def devicelessProcess : Process := { readyProcess with gbmDevFd := -1, gbmDev := 0 }

/-- The indeterminate `dev` is not `NULL`. -/
def danglingEnv : AllocEnv := { cursorEnv with devLocal := 96 }

/-- A BO that is not created is reported as success, and the allocator hands on a handle
that nobody has made; a handle without a descriptor is reported as success; and without
a device the indeterminate pointer is passed to gbm. -/
theorem grallocAllocate_misreports :
    grallocAllocate silentAttempt.toAllocEnv readyProcess textureDesc =
        .ok (0, none, (askedProcess silentAttempt.toAllocEnv readyProcess
          textureDesc).nativeHandleDelete 16) ∧
      ¬ ReportsExactly silentAttempt.toAllocEnv readyProcess textureDesc ∧
      ¬ HandsOnProduced silentAttempt readyProcess textureDesc ∧
      ¬ ReportsExactly unexportedEnv readyProcess textureDesc ∧
      ¬ ReportsExactly danglingEnv devicelessProcess textureDesc := by
  refine ⟨rfl, ?_, ?_, ?_, ?_⟩
  · intro reports
    have asks : AsksForBo silentAttempt.toAllocEnv readyProcess :=
      ⟨by decide, by decide, .inr (by decide)⟩
    exact absurd ((reportsExactly_noBo_iff asks rfl rfl).mp reports) (by decide)
  · intro handsOn
    obtain ⟨stride, allocates⟩ := handsOn { gbmDevFd := 3 } 0 80 _ rfl
    cases allocates
  · intro reports
    have asks : AsksForBo unexportedEnv readyProcess := ⟨by decide, by decide, .inr (by decide)⟩
    obtain ⟨-, -, exported⟩ := (reportsExactly_made_iff asks rfl).mp reports
    exact absurd exported (by decide)
  · refine not_reportsExactly_dangling (by decide) (by decide) ?_
    rintro (made | live)
    · exact absurd made (by decide)
    · exact live rfl

end GrallocGbmMesa.Allocator
