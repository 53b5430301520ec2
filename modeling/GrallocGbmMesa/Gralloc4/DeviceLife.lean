import GrallocGbmMesa.Allocator.Allocator
import GrallocGbmMesa.Gralloc4.Gralloc
import GrallocGbmMesa.Lib.Run

/-!
# The life of the gbm device

The core library, the gralloc module and the allocator each take the device or
its descriptor for their own.  The module destroys the device of the library,
and the allocator closes its descriptor.
-/

namespace GrallocGbmMesa.Gralloc4

open Checked TransitionSystem
open GrallocGbmMesa.Platform GrallocGbmMesa.Core GrallocGbmMesa.Allocator

/-- A process with the module and the allocators of its heap. -/
structure Owners where
  process : Process
  mod : GrallocGbmModule
  allocators : Ptr → GbmMesaAllocator

/-- What happens to the device, with what the platform answers. -/
inductive LifeEvent where
  | deviceInit (env : DeviceInitEnv)
  /-- the call in `gralloc_allocate` and `gralloc_gm_buffer_import` -/
  | deviceCreate (created : Ptr)
  | moduleInit (env : ModuleInitEnv)
  | moduleRelease
  | allocatorInit (allocator : Ptr) (env : DeviceInitEnv)
  | allocatorDestruct (allocator : Ptr)
  | cleanupAll

namespace LifeEvent

def perform (owners : Owners) : LifeEvent → Except Fault Owners
  | deviceInit env => .ok { owners with process := (grallocGbmDeviceInit env owners.process).2 }
  | deviceCreate created =>
      let (_, _, process) :=
        grallocGbmDeviceCreate created owners.process owners.process.gbmDevFd
      .ok { owners with process }
  | moduleInit env => do
      let (_, mod, process) ← grallocModGbmInit env owners.mod owners.process
      return { owners with mod, process }
  | moduleRelease => do
      let (mod, process) ← owners.mod.releaseGbmDev owners.process
      return { owners with mod, process }
  | allocatorInit allocator env =>
      let (_, made, process) := GbmMesaAllocator.init env owners.process
      .ok { owners with process, allocators := Function.update owners.allocators allocator made }
  | allocatorDestruct allocator =>
      let (gone, process) := (owners.allocators allocator).destruct owners.process
      .ok { owners with process, allocators := Function.update owners.allocators allocator gone }
  | cleanupAll => do
      let process ← Core.cleanupAll owners.process
      return { owners with process }

/-- The platform opens and creates what is not in use. -/
def Possible (owners : Owners) : LifeEvent → Prop
  | deviceInit env | allocatorInit _ env => env.Fresh owners.process
  | deviceCreate created => created ≠ 0 → owners.process.devices created = none
  | moduleInit env =>
      env.init.Fresh owners.process ∧
        (env.created ≠ 0 →
          owners.process.devices env.created = none ∧ env.created ≠ env.init.created)
  | moduleRelease | allocatorDestruct _ | cleanupAll => True

/-- The answers to the call of `gralloc_gbm_device_init`, if the event makes one. -/
def inits (owners : Owners) : LifeEvent → Option DeviceInitEnv
  | deviceInit env | allocatorInit _ env => some env
  | moduleInit env => if owners.mod.initialized then none else some env.init
  | _ => none

/-- Only a live device is destroyed, one at most is live afterwards, that of the library is
one of them with its descriptor open, and a descriptor that was opened is accounted for. -/
def Safe (owners : Owners) (event : LifeEvent) : Prop :=
  (∃ next, event.perform owners = .ok next ∧ AtMostOneDevice next.process ∧
      CurrentDevice next.process) ∧
    ∀ env, event.inits owners = some env → InitAccounted env owners.process

/-- Nothing is opened or created while a device is live, the module has no device of the
library to destroy, and no allocator closes the descriptor of that device. -/
def InOrder (owners : Owners) : LifeEvent → Prop
  | deviceInit env | allocatorInit _ env => InitInOrder env owners.process
  | deviceCreate created => owners.process.gbmDevFd ≠ 0 ∨ created = 0
  | moduleInit env =>
      owners.mod.initialized = true ∨
        (InitInOrder env.init owners.process ∧ (env.init.fd ≠ 0 ∨ env.created = 0))
  | moduleRelease =>
      owners.mod.gbmDev = 0 ∨
        (owners.process.devices owners.mod.gbmDev ≠ none ∧
          owners.mod.gbmDev ≠ owners.process.gbmDev)
  | allocatorDestruct allocator =>
      (owners.allocators allocator).gbmDevFd ≤ 0 ∨ owners.process.gbmDev = 0 ∨
        (owners.allocators allocator).gbmDevFd ≠ owners.process.gbmDevFd.toInt
  | cleanupAll => True

end LifeEvent

/-- Everything starts in a process that has no device. -/
def lifeSystem : System Owners LifeEvent where
  initial owners := Unused owners.process ∧ (∀ p, owners.process.devices p = none) ∧
    owners.mod = {} ∧ ∀ allocator, owners.allocators allocator = {}
  step owners event next := event.Possible owners ∧ event.perform owners = .ok next

/-! ## One event -/

/-- What holds as long as every event is in order. -/
structure OwnersInv (owners : Owners) : Prop where
  device : DeviceInv owners.process
  empty : owners.mod.initialized = false → owners.mod.gbmDev = 0
  words : ∀ allocator, ∃ fd : Fd, (owners.allocators allocator).gbmDevFd = fd.toInt

namespace OwnersInv

variable {owners next : Owners} {event : LifeEvent}

theorem initial (h : lifeSystem.initial owners) : OwnersInv owners := by
  obtain ⟨unused, none, mod, allocators⟩ := h
  refine ⟨⟨?_, none 0, ?_, fun _ => unused.gbmDevFd, ?_, ?_, ?_⟩, fun _ => by rw [mod], ?_⟩
  · intro p q live
    exact absurd (none p) live
  · intro nonNull
    exact absurd unused.gbmDev nonNull
  · intro p fd live
    cases (none p).symm.trans live
  · intro p fd live
    cases (none p).symm.trans live
  · intro p fd live
    cases (none p).symm.trans live
  · intro allocator
    rw [allocators]
    exact ⟨-1, rfl⟩

theorem update_words (h : OwnersInv owners) (allocator : Ptr) {made : GbmMesaAllocator}
    (word : ∃ fd : Fd, made.gbmDevFd = fd.toInt) (other : Ptr) :
    ∃ fd : Fd, (Function.update owners.allocators allocator made other).gbmDevFd = fd.toInt := by
  by_cases same : other = allocator
  · rwa [same, Function.update_self]
  · rw [Function.update_of_ne same]
    exact h.words other

/-- An allocator with a descriptor of its own closes it. -/
theorem destruct_inOrder (h : OwnersInv owners) {allocator : Ptr}
    (order : (LifeEvent.allocatorDestruct allocator).InOrder owners) :
    DeviceInv ((owners.allocators allocator).destruct owners.process).2 := by
  obtain ⟨fd, word⟩ := h.words allocator
  unfold GbmMesaAllocator.destruct
  by_cases own : (owners.allocators allocator).gbmDevFd > 0
  · rw [if_pos own, word, BitVec.ofInt_toInt]
    rw [word] at own
    refine h.device.closeOther ?_ ?_
    · rintro rfl
      exact absurd own (by decide)
    · refine (order.resolve_left (by rw [word]; exact Int.not_le.mpr own)).imp_right ?_
      rintro other rfl
      exact other word
  · rw [if_neg own]
    exact h.device

/-- An event that is in order returns, and leaves everything in order. -/
theorem step (h : OwnersInv owners) (order : event.InOrder owners) :
    ∃ next, event.perform owners = .ok next ∧ OwnersInv next := by
  cases event with
  | deviceInit env => exact ⟨_, rfl, h.device.init order, h.empty, h.words⟩
  | deviceCreate created => exact ⟨_, rfl, h.device.create order, h.empty, h.words⟩
  | moduleInit env =>
      by_cases again : owners.mod.initialized = true
      · have performed : (LifeEvent.moduleInit env).perform owners = .ok owners := by
          rw [LifeEvent.perform, grallocModGbmInit_again again]
          rfl
        exact ⟨owners, performed, h⟩
      have first := Bool.eq_false_iff.mpr again
      obtain ⟨order, once⟩ := order.resolve_left again
      obtain ⟨ret, mod, returns, empty⟩ :=
        grallocModGbmInit_first first (h.empty first) env owners.process
      refine ⟨{ owners with mod, process := moduleProcess env owners.process }, ?_,
        moduleProcess_inv h.device order once, empty, h.words⟩
      rw [LifeEvent.perform, returns]
      rfl
  | moduleRelease =>
      by_cases null : owners.mod.gbmDev = 0
      · have performed : LifeEvent.moduleRelease.perform owners = .ok owners := by
          rw [LifeEvent.perform, GrallocGbmModule.releaseGbmDev_empty null]
          rfl
        exact ⟨owners, performed, h⟩
      obtain ⟨live, other⟩ := order.resolve_left null
      have destroyed := gbmDeviceDestroy_eq_ok.mpr ⟨live, rfl⟩
      refine ⟨{ owners with
        mod := { owners.mod with gbmDev := 0 }
        process :=
          { owners.process with
            devices := Function.update owners.process.devices owners.mod.gbmDev none } },
        ?_, h.device.destroyOther other, fun _ => rfl, h.words⟩
      rw [LifeEvent.perform, GrallocGbmModule.releaseGbmDev, if_pos null, destroyed]
      rfl
  | allocatorInit allocator env =>
      exact ⟨_, rfl, h.device.init order, h.empty,
        h.update_words allocator (grallocGbmDeviceInit_word env owners.process)⟩
  | allocatorDestruct allocator =>
      have word : ∃ fd : Fd,
          ((owners.allocators allocator).destruct owners.process).1.gbmDevFd = fd.toInt := by
        unfold GbmMesaAllocator.destruct
        split
        · exact ⟨-1, rfl⟩
        · exact h.words allocator
      exact ⟨_, rfl, h.destruct_inOrder order, h.empty, h.update_words allocator word⟩
  | cleanupAll =>
      obtain ⟨s, cleaned, inv⟩ := h.device.cleanup
      refine ⟨{ owners with process := s }, ?_, inv, h.empty, h.words⟩
      rw [LifeEvent.perform, cleaned]
      rfl

/-- An initialisation in an event that is in order accounts for its descriptor. -/
theorem accounted (h : OwnersInv owners) (possible : event.Possible owners)
    (order : event.InOrder owners) {env : DeviceInitEnv} (made : event.inits owners = some env) :
    InitAccounted env owners.process := by
  cases event with
  | deviceInit env' | allocatorInit allocator env' =>
      cases made
      exact ((h.device.initInOrder_iff possible).mp order).1
  | moduleInit env' =>
      rw [LifeEvent.inits] at made
      by_cases again : owners.mod.initialized = true
      · rw [if_pos again] at made
        cases made
      · rw [if_neg again] at made
        cases made
        exact ((moduleProcess_inOrder_iff h.device possible.1 possible.2).mp
          (order.resolve_left again)).1
  | deviceCreate | moduleRelease | allocatorDestruct | cleanupAll => cases made

/-- The events in order are the safe ones. -/
theorem safe_iff (h : OwnersInv owners) (possible : event.Possible owners) :
    event.Safe owners ↔ event.InOrder owners := by
  constructor
  · rintro ⟨⟨next, performed, unique, current⟩, accounted⟩
    cases event with
    | deviceInit env | allocatorInit allocator env =>
        cases performed
        exact (h.device.initInOrder_iff possible).mpr ⟨accounted env rfl, unique⟩
    | deviceCreate created =>
        cases performed
        exact (h.device.create_inOrder_iff possible).mpr unique
    | moduleInit env =>
        by_cases again : owners.mod.initialized = true
        · exact .inl again
        have first := Bool.eq_false_iff.mpr again
        obtain ⟨ret, mod, returns, -⟩ :=
          grallocModGbmInit_first first (h.empty first) env owners.process
        rw [LifeEvent.perform, returns] at performed
        cases performed
        exact .inr ((moduleProcess_inOrder_iff h.device possible.1 possible.2).mpr
          ⟨accounted env.init (if_neg again), unique⟩)
    | moduleRelease =>
        by_cases null : owners.mod.gbmDev = 0
        · exact .inl null
        rw [LifeEvent.perform, GrallocGbmModule.releaseGbmDev, if_pos null] at performed
        obtain ⟨⟨mod, s⟩, released, returns⟩ := bind_eq_ok.mp performed
        obtain ⟨s', destroyed, released⟩ := bind_eq_ok.mp released
        obtain ⟨live, rfl⟩ := gbmDeviceDestroy_eq_ok.mp destroyed
        cases released
        cases returns
        refine .inr ⟨live, fun same => ?_⟩
        obtain ⟨fd, gone, -⟩ := current (same ▸ null)
        change Function.update owners.process.devices owners.mod.gbmDev none
          owners.process.gbmDev = some fd at gone
        rw [same, Function.update_self] at gone
        cases gone
    | allocatorDestruct allocator =>
        obtain ⟨fd, word⟩ := h.words allocator
        refine or_iff_not_imp_left.mpr fun own => or_iff_not_imp_left.mpr fun device same => ?_
        have positive := Int.not_le.mp own
        have destructed : (owners.allocators allocator).destruct owners.process =
            ({ gbmDevFd := -1 }, owners.process.close owners.process.gbmDevFd) := by
          unfold GbmMesaAllocator.destruct
          rw [if_pos positive, same, BitVec.ofInt_toInt]
        rw [LifeEvent.perform, destructed] at performed
        cases performed
        obtain ⟨devFd, live, isOpen⟩ := current device
        cases (h.device.current device).symm.trans live
        exact isOpen (Function.update_self ..)
    | cleanupAll => exact trivial
  · intro order
    obtain ⟨next, performed, inv⟩ := h.step order
    exact ⟨⟨next, performed, inv.device.unique, inv.device.currentDevice⟩,
      fun env made => h.accounted possible order made⟩

/-! ## Runs -/

theorem keeps (h : OwnersInv owners)
    (hstep : (lifeSystem.guarded fun owners event => event.InOrder owners).step owners event next) :
    OwnersInv next := by
  obtain ⟨order, -, performed⟩ := hstep
  obtain ⟨next', performed', inv⟩ := h.step order
  cases performed.symm.trans performed'
  exact inv

end OwnersInv

/-- A run is safe throughout exactly if each of its events is in order, and in the states
it reaches an event is safe exactly if it is in order. -/
theorem deviceLife_iff {first last : Owners} {labels : List LifeEvent}
    (initial : lifeSystem.initial first) :
    (Run (lifeSystem.guarded fun owners event => event.Safe owners) first labels last ↔
        Run (lifeSystem.guarded fun owners event => event.InOrder owners) first labels last) ∧
      (Run (lifeSystem.guarded fun owners event => event.InOrder owners) first labels last →
        AtMostOneDevice last.process ∧ CurrentDevice last.process ∧
          ∀ event : LifeEvent, event.Possible last → (event.Safe last ↔ event.InOrder last)) := by
  have start := OwnersInv.initial initial
  refine ⟨?_, fun run => ?_⟩
  · exact Run.guarded_iff OwnersInv start .keeps fun inv hstep => inv.safe_iff hstep.1
  · have inv := run.invariant OwnersInv start .keeps
    exact ⟨inv.device.unique, inv.device.currentDevice, fun event => inv.safe_iff⟩

/-! ## Lives that end badly -/

def untouchedOwners : Owners where
  process :=
    { gbmDevFd := -1
      gbmDev := 0
      gbmBoHandleMap _ := none
      devices _ := none
      bos _ := none
      handles _ := none
      fds _ := none
      calls := [] }
  mod := {}
  allocators _ := {}

theorem untouchedOwners_initial : lifeSystem.initial untouchedOwners :=
  ⟨⟨rfl, rfl, rfl, rfl⟩, fun _ => rfl, rfl, fun _ => rfl⟩

/-- The state after an event that returns. -/
def Owners.next (owners : Owners) (event : LifeEvent) : Owners :=
  match event.perform owners with
  | .ok next => next
  | .error _ => owners

theorem Owners.next_step {owners : Owners} {event : LifeEvent} (possible : event.Possible owners)
    (returns : (event.perform owners).isOk = true) :
    lifeSystem.step owners event (owners.next event) := by
  refine ⟨possible, ?_⟩
  unfold Owners.next
  cases performed : event.perform owners with
  | ok next => rfl
  | error fault =>
      rw [performed] at returns
      cases returns

/-- The device is created on descriptor 3. -/
def deviceOwners : Owners := untouchedOwners.next (.deviceInit ⟨3#32, 1, 1⟩)

/-- An allocation asks for the device. -/
def askedOwners : Owners := deviceOwners.next (.deviceCreate 2)

def cleanedOwners : Owners := askedOwners.next .cleanupAll

/-- A second initialisation is safe after the device was destroyed, not before. -/
theorem deviceLife_iff_untouched :
    Run (lifeSystem.guarded fun owners event => event.Safe owners) untouchedOwners
        [.deviceInit ⟨3#32, 1, 1⟩, .deviceCreate 2] askedOwners ∧
      ¬ (LifeEvent.deviceInit ⟨4#32, 2, 2⟩).Safe askedOwners ∧
      Run (lifeSystem.guarded fun owners event => event.Safe owners) untouchedOwners
        [.deviceInit ⟨3#32, 1, 1⟩, .deviceCreate 2, .cleanupAll] cleanedOwners ∧
      (LifeEvent.deviceInit ⟨4#32, 2, 2⟩).Safe cleanedOwners := by
  have unused : (LifeEvent.deviceInit ⟨3#32, 1, 1⟩).Possible untouchedOwners :=
    ⟨fun _ => rfl, fun _ => rfl⟩
  have inits : lifeSystem.step untouchedOwners (.deviceInit ⟨3#32, 1, 1⟩) deviceOwners :=
    Owners.next_step unused rfl
  have creates : lifeSystem.step deviceOwners (.deviceCreate 2) askedOwners :=
    Owners.next_step (fun _ => rfl) rfl
  have cleans : lifeSystem.step askedOwners .cleanupAll cleanedOwners :=
    Owners.next_step trivial rfl
  have first : (LifeEvent.deviceInit ⟨3#32, 1, 1⟩).InOrder untouchedOwners :=
    .inr ⟨fun _ => rfl, show 1 ≠ 0 by decide⟩
  have second : (LifeEvent.deviceCreate 2).InOrder deviceOwners := .inl (by decide)
  have third : LifeEvent.cleanupAll.InOrder askedOwners := trivial
  have opened : Run (lifeSystem.guarded fun owners event => event.InOrder owners) untouchedOwners
      [.deviceInit ⟨3#32, 1, 1⟩] deviceOwners :=
    .single ⟨first, inits⟩
  have asked : Run (lifeSystem.guarded fun owners event => event.InOrder owners) untouchedOwners
      [.deviceInit ⟨3#32, 1, 1⟩, .deviceCreate 2] askedOwners :=
    opened.tail ⟨second, creates⟩
  have cleaned : Run (lifeSystem.guarded fun owners event => event.InOrder owners) untouchedOwners
      [.deviceInit ⟨3#32, 1, 1⟩, .deviceCreate 2, .cleanupAll] cleanedOwners :=
    asked.tail ⟨third, cleans⟩
  have gone (p : Ptr) : cleanedOwners.process.devices p = none := by
    change Function.update (Function.update untouchedOwners.process.devices 1 (some 3#32)) 1
      none p = none
    rw [Function.update_idem]
    by_cases device : p = 1
    · rw [device, Function.update_self]
    · rw [Function.update_of_ne device]
      rfl
  obtain ⟨askedRuns, askedSafe⟩ := @deviceLife_iff _ askedOwners _ untouchedOwners_initial
  obtain ⟨runs, safe⟩ := @deviceLife_iff _ cleanedOwners _ untouchedOwners_initial
  refine ⟨askedRuns.mpr asked, ?_, runs.mpr cleaned, ?_⟩
  · intro again
    have possible : (LifeEvent.deviceInit ⟨4#32, 2, 2⟩).Possible askedOwners :=
      ⟨fun _ => rfl, fun _ => rfl⟩
    rcases ((askedSafe asked).2.2 _ possible).mp again with failed | ⟨none, -⟩
    · exact absurd failed (by decide)
    · exact absurd (none 1) (by decide)
  · have possible : (LifeEvent.deviceInit ⟨4#32, 2, 2⟩).Possible cleanedOwners :=
      ⟨fun _ => rfl, fun _ => gone 2⟩
    exact ((safe cleaned).2.2 _ possible).mpr (.inr ⟨gone, show 2 ≠ 0 by decide⟩)

theorem Owners.next_reachable {owners : Owners} {event : LifeEvent}
    (reachable : Reachable lifeSystem owners) (possible : event.Possible owners)
    (returns : (event.perform owners).isOk = true) :
    Reachable lifeSystem (owners.next event) :=
  reachable.step (Owners.next_step possible returns)

def moduleOwners : Owners := untouchedOwners.next (.moduleInit ⟨⟨3#32, 1, 1⟩, 0⟩)

def releasedOwners : Owners := moduleOwners.next .moduleRelease

/-- The device is created on descriptor 0, and once more by an allocation. -/
def twiceOwners : Owners :=
  (untouchedOwners.next (.deviceInit ⟨0#32, 1, 1⟩)).next (.deviceCreate 2)

/-- The allocator at 16 is initialised and destroyed. -/
def destructedOwners : Owners :=
  (untouchedOwners.next (.allocatorInit 16 ⟨3#32, 1, 1⟩)).next (.allocatorDestruct 16)

/-- A second initialisation loses its descriptor; the module destroys the device of the
library, which is then destroyed again; a device on descriptor 0 is made twice; and the
allocator closes the descriptor of the device. -/
theorem deviceLife_violated :
    (Reachable lifeSystem deviceOwners ∧
        (LifeEvent.deviceInit ⟨4#32, 1, 0⟩).Possible deviceOwners ∧
        ¬ InitAccounted ⟨4#32, 1, 0⟩ deviceOwners.process) ∧
      (Reachable lifeSystem releasedOwners ∧ ¬ CurrentDevice releasedOwners.process ∧
        LifeEvent.cleanupAll.perform releasedOwners = .error .invalidPointer) ∧
      (Reachable lifeSystem twiceOwners ∧ ¬ AtMostOneDevice twiceOwners.process) ∧
      (Reachable lifeSystem destructedOwners ∧ ¬ CurrentDevice destructedOwners.process) := by
  have started := Reachable.of_initial untouchedOwners_initial
  have opens (fd : Fd) (file : FileId) (created : Ptr) :
      (⟨fd, file, created⟩ : DeviceInitEnv).Fresh untouchedOwners.process :=
    ⟨fun _ => rfl, fun _ => rfl⟩
  have modules := Owners.next_reachable started
    (show (LifeEvent.moduleInit ⟨⟨3#32, 1, 1⟩, 0⟩).Possible untouchedOwners from
      ⟨opens .., nofun⟩) rfl
  have zero := Owners.next_reachable started
    (show (LifeEvent.deviceInit ⟨0#32, 1, 1⟩).Possible untouchedOwners from opens ..) rfl
  have allocators := Owners.next_reachable started
    (show (LifeEvent.allocatorInit 16 ⟨3#32, 1, 1⟩).Possible untouchedOwners from opens ..) rfl
  refine ⟨⟨Owners.next_reachable started (opens ..) rfl, ⟨fun _ => rfl, nofun⟩, ?_⟩,
    ⟨Owners.next_reachable modules trivial rfl, ?_, rfl⟩,
    ⟨Owners.next_reachable zero (fun _ => rfl) rfl, ?_⟩,
    ⟨Owners.next_reachable allocators trivial rfl, ?_⟩⟩
  · intro accounted
    have devices : (grallocGbmDeviceInit ⟨4#32, 1, 0⟩ deviceOwners.process).2.devices =
        Function.update (fun _ => none) 1 (some 3#32) := rfl
    rcases accounted (by decide) with closed | ⟨dev, live⟩
    · cases closed
    · rw [devices] at live
      by_cases device : dev = 1
      · rw [device, Function.update_self] at live
        exact absurd (Option.some.inj live) (by decide)
      · rw [Function.update_of_ne device] at live
        cases live
  · intro current
    obtain ⟨fd, live, -⟩ := current (by decide)
    cases live
  · intro unique
    exact absurd (unique 1 2 (by decide) (by decide)) (by decide)
  · intro current
    obtain ⟨fd, live, isOpen⟩ := current (by decide)
    cases live
    exact isOpen rfl

end GrallocGbmMesa.Gralloc4
