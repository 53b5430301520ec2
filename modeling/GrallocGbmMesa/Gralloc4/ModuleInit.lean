import GrallocGbmMesa.Lib.CriticalSections
import GrallocGbmMesa.Core.Runs
import GrallocGbmMesa.Gralloc4.Gralloc

/-!
# Threads that initialise the module

A call of the module that needs the device initialises the module first, under the mutex of the
module.  Any number of threads may do so at once, and `perform` reads the device when the mutex
has been given back.
-/

namespace GrallocGbmMesa.Gralloc4

open Checked CriticalSections TransitionSystem
open GrallocGbmMesa.Platform GrallocGbmMesa.Core

/-! ## The steps of an initialisation -/

/-- Where a thread is between `pthread_mutex_lock` and `pthread_mutex_unlock`. -/
inductive InitPlace where
  | testInitialized (env : ModuleInitEnv)
  | initDevice (env : ModuleInitEnv)
  | createDevice (env : ModuleInitEnv) (fd : Int)
  | setGbmDev (dev : Ptr)
  | setInitialized

/-- What the threads share: the module, and the process with the device of the library. -/
abbrev ModuleMemory := GrallocGbmModule × Process

/-- The statements of `gralloc_mod_gbm_init` under the mutex.  Each result is followed by the
release of the mutex and the return. -/
def initStep : InitPlace → ModuleMemory → Except Fault ((InitPlace ⊕ Int) × ModuleMemory)
  | .testInitialized env, (mod, s) =>
      .ok (if mod.initialized then .inr 0 else .inl (.initDevice env), mod, s)
  | .initDevice env, (mod, s) =>
      let (fd, s) := grallocGbmDeviceInit env.init s
      .ok (if fd < 0 then .inr (-einval) else .inl (.createDevice env fd), mod, s)
  | .createDevice env fd, (mod, s) =>
      let (ret, dev, s) := grallocGbmDeviceCreate env.created s (BitVec.ofInt 32 fd)
      .ok (if ret ≠ 0 then .inr (-einval) else .inl (.setGbmDev (dev.getD 0)), mod, s)
  | .setGbmDev dev, (mod, s) => do
      let (mod, s) ← mod.releaseGbmDev s
      return (.inl .setInitialized, { mod with gbmDev := dev }, s)
  | .setInitialized, (mod, s) => .ok (.inr 0, { mod with initialized := true }, s)

def initProgram : Program ModuleMemory ModuleInitEnv InitPlace Int Fault where
  start := .testInitialized
  step := initStep

/-! From each place on, the steps are what is left of the function. -/

section Steps

variable {env : ModuleInitEnv} {mod : GrallocGbmModule} {s : Process} {ret fd : Int} {dev : Ptr}
  {last : ModuleMemory}

/-- A result is the end. -/
theorem comes_answer {place : InitPlace} {memory final : ModuleMemory} {answer : Int}
    (h : initStep place memory = .ok (.inr answer, final)) :
    Comes initProgram place memory ret last ↔
      (.ok (answer, final) : Except Fault _) = .ok (ret, last) := by
  rw [comes_result h, Except.ok.injEq]
  exact Prod.mk.injEq .. ▸ .rfl

theorem comes_setGbmDev :
    Comes initProgram (.setGbmDev dev) (mod, s) ret last ↔
      (do
          let (_, s) ← mod.releaseGbmDev s
          return (0, { initialized := true, gbmDev := dev }, s) :
        Except Fault (Int × ModuleMemory)) = .ok (ret, last) := by
  cases released : mod.releaseGbmDev s with
  | error fault =>
      have faults : initStep (.setGbmDev dev) (mod, s) = .error fault := by
        simp only [initStep, released, error_bind]
      exact iff_of_false (not_comes faults) nofun
  | ok memory =>
      have goesOn : initStep (.setGbmDev dev) (mod, s) =
          .ok (.inl .setInitialized, { memory.1 with gbmDev := dev }, memory.2) := by
        simp only [initStep, released, ok_bind, pure_eq_ok]
      rw [comes_next goesOn, comes_answer rfl]
      rfl

theorem comes_createDevice :
    Comes initProgram (.createDevice env fd) (mod, s) ret last ↔
      (let (ret, dev, s) := grallocGbmDeviceCreate env.created s (BitVec.ofInt 32 fd)
        if ret ≠ 0 then .ok (-einval, mod, s)
        else do
          let (_, s) ← mod.releaseGbmDev s
          return (0, { initialized := true, gbmDev := dev.getD 0 }, s) :
        Except Fault (Int × ModuleMemory)) = .ok (ret, last) := by
  generalize made : grallocGbmDeviceCreate env.created s (BitVec.ofInt 32 fd) = answer
  obtain ⟨err, dev, s'⟩ := answer
  by_cases refused : err ≠ 0
  · have stops : initStep (.createDevice env fd) (mod, s) = .ok (.inr (-einval), mod, s') := by
      simp only [initStep, made, if_pos refused]
    rw [comes_answer stops]
    simp only [if_pos refused]
  · have goesOn : initStep (.createDevice env fd) (mod, s) =
        .ok (.inl (.setGbmDev (dev.getD 0)), mod, s') := by
      simp only [initStep, made, if_neg refused]
    rw [comes_next goesOn, comes_setGbmDev]
    simp only [if_neg refused]

end Steps

/-- The steps are those of the function. -/
theorem returns_initProgram {env : ModuleInitEnv} {mod : GrallocGbmModule} {s : Process}
    {ret : Int} {last : ModuleMemory} :
    Returns initProgram env (mod, s) ret last ↔ grallocModGbmInit env mod s = .ok (ret, last) := by
  unfold Returns grallocModGbmInit
  by_cases again : mod.initialized = true
  · have stops : initStep (.testInitialized env) (mod, s) = .ok (.inr 0, mod, s) := by
      rw [initStep, if_pos again]
    rw [if_pos again]
    exact comes_answer stops
  have goesOn : initStep (.testInitialized env) (mod, s) =
      .ok (.inl (.initDevice env), mod, s) := by
    rw [initStep, if_neg again]
  rw [if_neg again]
  refine (comes_next goesOn).trans ?_
  generalize opened : grallocGbmDeviceInit env.init s = answer
  obtain ⟨fd, s'⟩ := answer
  by_cases failed : fd < 0
  · have stops : initStep (.initDevice env) (mod, s) = .ok (.inr (-einval), mod, s') := by
      simp only [initStep, opened, if_pos failed]
    rw [comes_answer stops]
    simp only [if_pos failed]
  · have goesOn : initStep (.initDevice env) (mod, s) =
        .ok (.inl (.createDevice env fd), mod, s') := by
      simp only [initStep, opened, if_neg failed]
    rw [comes_next goesOn, comes_createDevice]
    simp only [if_neg failed]

/-! ## The descriptor of the device -/

/-- `gbm_device_get_fd` -/
def gbmDeviceGetFd (s : Process) (dev : Ptr) : Except Fault Fd :=
  match s.devices dev with
  | some fd => .ok fd
  | none => .error .invalidPointer

/-- `GRALLOC_MODULE_PERFORM_GET_DRM_FD` -/
def grallocModulePerformGetDrmFd : Int := 0x40000002

/-- The second result is what is stored through the pointer among the arguments. -/
def grallocModGbmPerform (env : ModuleInitEnv) (mod : GrallocGbmModule) (s : Process) (op : Int) :
    Except Fault (Int × Option Fd × ModuleMemory) := do
  let (err, mod, s) ← grallocModGbmInit env mod s
  if err ≠ 0 then return (err, none, mod, s)
  else if op = grallocModulePerformGetDrmFd then
    let fd ← gbmDeviceGetFd s mod.gbmDev
    return (0, some fd, mod, s)
  else return (-einval, none, mod, s)

/-! ## One initialisation after the other -/

section Serial

variable {env : ModuleInitEnv} {s : Process}

/-- What a pointer refers to is live. -/
def DeviceOf (mod : GrallocGbmModule) (s : Process) : Prop := s.devices mod.gbmDev ≠ none

/-- The device of the module is live once the module is initialised, and there is none before. -/
structure ModuleReady (mod : GrallocGbmModule) (s : Process) : Prop where
  alive : DeviceAlive s
  empty : mod.initialized = false → mod.gbmDev = 0
  device : mod.initialized = true → DeviceOf mod s

theorem grallocGbmDeviceInit_alive (alive : DeviceAlive s) (env : DeviceInitEnv) :
    DeviceAlive (grallocGbmDeviceInit env s).2 := by
  rw [grallocGbmDeviceInit_process]
  split
  · exact alive
  · exact (grallocGbmDeviceCreate_alive (s := s.openFd env.fd env.file) alive env.created env.fd).1

theorem einval_reported : -einval ≠ 0 := by decide

/-- A device that is created is stored, and is not null. -/
theorem grallocGbmDeviceCreate_stored {created : Ptr} {fd : Fd}
    (ok : (grallocGbmDeviceCreate created s fd).1 = 0) :
    ∃ dev, (grallocGbmDeviceCreate created s fd).2.1 = some dev ∧ dev ≠ 0 := by
  unfold grallocGbmDeviceCreate at ok ⊢
  by_cases reused : s.gbmDevFd.toInt > 0 ∧ s.gbmDev ≠ 0
  · rw [if_pos reused]
    exact ⟨s.gbmDev, rfl, reused.2⟩
  rw [if_neg reused] at ok ⊢
  by_cases invalid : fd.toInt < 0
  · rw [if_pos invalid] at ok
    exact absurd ok einval_reported
  rw [if_neg invalid] at ok ⊢
  by_cases failed : created = 0
  · simp only [if_pos failed] at ok
    exact absurd ok einval_reported
  simp only [if_neg failed]
  exact ⟨created, rfl, failed⟩

/-- An initialisation of a module that is not initialised fails and leaves the module, or stores
a device that is live. -/
theorem grallocModGbmInit_new {mod : GrallocGbmModule} (ready : ModuleReady mod s)
    (first : mod.initialized = false) (env : ModuleInitEnv) :
    grallocModGbmInit env mod s = .ok (-einval, mod, moduleProcess env s) ∨
      ∃ dev, grallocModGbmInit env mod s =
          .ok (0, { initialized := true, gbmDev := dev }, moduleProcess env s) ∧
        (moduleProcess env s).devices dev ≠ none := by
  have opened := grallocGbmDeviceInit_alive ready.alive env.init
  unfold grallocModGbmInit moduleProcess
  rw [if_neg (by simp [first])]
  generalize grallocGbmDeviceInit env.init s = answer at opened ⊢
  obtain ⟨fd, s₁⟩ := answer
  by_cases failed : fd < 0
  · left
    simp only [if_pos failed]
  simp only [if_neg failed]
  have stored := @grallocGbmDeviceCreate_stored s₁ env.created (BitVec.ofInt 32 fd)
  have given := (grallocGbmDeviceCreate_alive opened env.created (BitVec.ofInt 32 fd)).2
  generalize grallocGbmDeviceCreate env.created s₁ (BitVec.ofInt 32 fd) = answer at stored given ⊢
  obtain ⟨err, made, s₂⟩ := answer
  by_cases refused : err ≠ 0
  · left
    simp only [if_pos refused]
  obtain ⟨dev, rfl, nonNull⟩ := stored (not_not.mp refused)
  simp only [if_neg refused, GrallocGbmModule.releaseGbmDev_empty (ready.empty first), ok_bind]
  exact .inr ⟨dev, rfl, given dev rfl nonNull⟩

theorem moduleProcess_alive (alive : DeviceAlive s) (env : ModuleInitEnv) :
    DeviceAlive (moduleProcess env s) := by
  have opened := grallocGbmDeviceInit_alive alive env.init
  unfold moduleProcess
  dsimp only
  split
  · exact opened
  · exact (grallocGbmDeviceCreate_alive opened ..).1

end Serial

section Runs

variable {Thread : Type} {calls : List (Thread × ModuleInitEnv × Int)} {s : Process}
  {memory : ModuleMemory}

/-- What the calls make of the process; only the first of those that succeed does something. -/
def callsProcess (s : Process) (failed later : List (Thread × ModuleInitEnv × Int)) : Process :=
  (failed ++ later.take 1).foldl (fun s call => moduleProcess call.2.1 s) s

/-- The calls fail until one succeeds, and no call fails after it. -/
structure Initialised (s : Process) (failed later : List (Thread × ModuleInitEnv × Int))
    (memory : ModuleMemory) : Prop where
  fail : ∀ call ∈ failed, call.2.2 = -einval
  succeed : ∀ call ∈ later, call.2.2 = 0
  initialized : memory.1.initialized = true ↔ later ≠ []
  made : memory.2 = callsProcess s failed later
  ready : ModuleReady memory.1 memory.2

namespace Initialised

variable {failed later : List (Thread × ModuleInitEnv × Int)} {next : ModuleMemory}
  {thread : Thread} {env : ModuleInitEnv} {ret : Int}

/-- A module that is initialised stays as it is. -/
theorem again (h : Initialised s failed later memory) (initialized : memory.1.initialized = true)
    (returned : grallocModGbmInit env memory.1 memory.2 = .ok (ret, next)) :
    Initialised s failed (later ++ [(thread, env, ret)]) next := by
  cases (grallocModGbmInit_again initialized).symm.trans returned
  have nonempty := h.initialized.mp initialized
  refine ⟨h.fail, ?_, ?_, ?_, h.ready⟩
  · simp only [List.forall_mem_append, List.forall_mem_singleton]
    exact ⟨h.succeed, trivial⟩
  · exact iff_of_true initialized (List.append_ne_nil_of_left_ne_nil nonempty _)
  · rw [h.made, callsProcess, callsProcess,
      List.take_append_of_le_length (List.length_pos_iff.mpr nonempty)]

/-- The first calls fail, or one of them succeeds. -/
theorem first (h : Initialised s failed [] memory)
    (returned : grallocModGbmInit env memory.1 memory.2 = .ok (ret, next)) :
    Initialised s (failed ++ [(thread, env, ret)]) [] next ∨
      Initialised s failed [(thread, env, ret)] next := by
  have unset : ¬ memory.1.initialized = true := fun set => h.initialized.mp set rfl
  have process : moduleProcess env memory.2 =
      callsProcess s (failed ++ [(thread, env, ret)]) [] := by
    have before := h.made
    simp only [callsProcess, List.take_nil, List.append_nil] at before ⊢
    rw [List.foldl_append, ← before]
    rfl
  have alive := moduleProcess_alive h.ready.alive env
  rcases grallocModGbmInit_new h.ready (Bool.eq_false_iff.mpr unset) env with
    failure | ⟨dev, success, live⟩
  · cases failure.symm.trans returned
    refine .inl ⟨?_, nofun, iff_of_false unset (not_not_intro rfl), process, alive,
      h.ready.empty, fun set => absurd set unset⟩
    simp only [List.forall_mem_append, List.forall_mem_singleton]
    exact ⟨h.fail, trivial⟩
  · cases success.symm.trans returned
    refine .inr ⟨h.fail, ?_, iff_of_true rfl nofun, ?_, alive, nofun, fun _ => live⟩
    · simp only [List.forall_mem_singleton]
    · rw [process]
      simp only [callsProcess, List.take_nil, List.append_nil, List.take_one, List.head?_cons,
        Option.toList_some]

theorem step {call : Thread × ModuleInitEnv × Int} (h : Initialised s failed later memory)
    (hstep : (serial initProgram).step memory call next) :
    Initialised s (failed ++ [call]) [] next ∧ later = [] ∨
      Initialised s failed (later ++ [call]) next := by
  have returned : grallocModGbmInit call.2.1 memory.1 memory.2 = .ok (call.2.2, next) :=
    returns_initProgram.mp hstep
  by_cases initialized : memory.1.initialized = true
  · exact .inr (h.again initialized returned)
  · obtain rfl : later = [] :=
      not_not.mp fun nonempty => initialized (h.initialized.mpr nonempty)
    exact (h.first returned).imp (fun failure => ⟨failure, rfl⟩) id

end Initialised

theorem serial_initialised {start last : ModuleMemory} (fresh : start.1 = {})
    (alive : DeviceAlive start.2) (run : Run (serial initProgram) start calls last) :
    ∃ failed later, calls = failed ++ later ∧ Initialised start.2 failed later last := by
  refine run.history_invariant (fun calls memory => ∃ failed later, calls = failed ++ later ∧
    Initialised start.2 failed later memory) ?_ ?_
  · refine ⟨[], [], rfl, nofun, nofun, ?_, rfl, alive, ?_, ?_⟩
    · rw [fresh]
      exact iff_of_false nofun (not_not_intro rfl)
    · rw [fresh]
      exact fun _ => rfl
    · rw [fresh]
      exact nofun
  · rintro _ memory call next ⟨failed, later, rfl, h⟩ hstep
    rcases h.step hstep with ⟨failure, rfl⟩ | success
    · exact ⟨failed ++ [call], [], by simp, failure⟩
    · exact ⟨failed, later ++ [call], by simp, success⟩

end Runs

/-! ## Threads -/

section Threads

variable {Thread : Type} [DecidableEq Thread]
  {start mid last : CriticalSections.State ModuleMemory ModuleInitEnv InitPlace Int Thread}
  {labels : List (Label ModuleInitEnv Int Thread)} {label : Label ModuleInitEnv Int Thread}

/-- The module as it is loaded, before any thread has called it. -/
structure Loaded
    (start : CriticalSections.State ModuleMemory ModuleInitEnv InitPlace Int Thread) : Prop where
  initial : (system initProgram).initial start
  fresh : start.shared.1 = {}
  alive : DeviceAlive start.shared.2

theorem Loaded.serialised (loaded : Loaded start)
    (run : Run (system initProgram) start labels last) :
    Serialised initProgram start.shared labels last :=
  run_serialised (.initial loaded.initial) loaded.initial.1 run

theorem Loaded.account (loaded : Loaded start)
    (h : Serialised initProgram start.shared labels last) :
    ∃ failed later before, returns labels = failed ++ later ∧
      Initialised start.shared.2 failed later before ∧
      (last.owner = none → last.shared = before) := by
  obtain ⟨before, run, quiet, -⟩ := h.serial
  obtain ⟨failed, later, split, made⟩ := serial_initialised loaded.fresh loaded.alive run
  exact ⟨failed, later, before, split, made, quiet⟩

/-- In whatever order the threads move, their calls fail until one succeeds and succeed from then
on, and when the mutex is free the process is what the failures and the first success have made
of it, one after the other. -/
theorem moduleInit_run (loaded : Loaded start) (run : Run (system initProgram) start labels last) :
    ∃ failed later, returns labels = failed ++ later ∧
      (∀ call ∈ failed, call.2.2 = -einval) ∧ (∀ call ∈ later, call.2.2 = 0) ∧
      (last.owner = none → last.shared.2 = callsProcess start.shared.2 failed later ∧
        (last.shared.1.initialized = true ↔ later ≠ [])) := by
  obtain ⟨failed, later, before, split, made, quiet⟩ :=
    loaded.account (loaded.serialised run)
  refine ⟨failed, later, split, made.fail, made.succeed, fun free => ?_⟩
  rw [quiet free]
  exact ⟨made.made, made.initialized⟩

/-! What a success leaves is not changed any more. -/

def AtTest (place : InitPlace) : Prop := ∃ env, place = .testInitialized env

theorem settled_initialized {memory : ModuleMemory} (again : memory.1.initialized = true) :
    Settled initProgram memory AtTest where
  start env := ⟨env, rfl⟩
  step := by
    rintro _ outcome last ⟨env, rfl⟩ stepped
    obtain ⟨mod, s⟩ := memory
    have stops : initStep (.testInitialized env) (mod, s) = .ok (.inr 0, mod, s) := by
      rw [initStep, if_pos again]
    cases stops.symm.trans stepped
    exact ⟨rfl, nofun⟩

/-- The module is initialised, and nobody is about to write to it. -/
structure Published
    (state : CriticalSections.State ModuleMemory ModuleInitEnv InitPlace Int Thread) : Prop where
  initialized : state.shared.1.initialized = true
  device : DeviceOf state.shared.1 state.shared.2
  quiet : AllQuiet AtTest state

theorem Published.step (h : Published mid) (hstep : (system initProgram).step mid label last) :
    Published last := by
  obtain ⟨same, quiet⟩ := (settled_initialized h.initialized).keeps ⟨rfl, h.quiet⟩ hstep
  exact ⟨by rw [same]; exact h.initialized, by rw [same]; exact h.device, quiet⟩

/-- The first success publishes the device. -/
theorem published_of_returned (loaded : Loaded start)
    (run : Run (system initProgram) start labels mid)
    (returned : ∃ call ∈ returns labels, call.2.2 = 0) : Published mid := by
  have inv := run.history_invariant (fun labels state =>
    Serialised initProgram start.shared labels state ∧
      ((∃ call ∈ returns labels, call.2.2 = 0) → Published state))
    ⟨loaded.serialised .refl, nofun⟩ ?_
  · exact inv.2 returned
  rintro history state label next ⟨serialised, published⟩ hstep
  have after := serialised.step hstep
  refine ⟨after, ?_⟩
  rintro ⟨call, hmem, success⟩
  rw [returns_append] at hmem
  rcases List.mem_append.mp hmem with earlier | now
  · exact (published ⟨call, earlier, success⟩).step hstep
  cases label with
  | release thread env ret =>
      obtain rfl := List.mem_singleton.mp now
      obtain ⟨failed, later, before, split, made, quiet⟩ := loaded.account after
      obtain ⟨-, rfl⟩ := hstep
      obtain rfl := quiet rfl
      have initialized := made.initialized.mpr ?_
      · exact ⟨initialized, made.ready.device initialized, .of_free after.exclusive rfl⟩
      · rintro rfl
        have failure : ret = -einval := by
          refine made.fail (thread, env, ret) ?_
          rw [← List.append_nil failed, ← split, returns_append]
          exact List.mem_append_right _ (List.mem_singleton_self _)
        exact einval_reported (failure.symm.trans success)
  | call | acquire | step => cases now

/-- Once a call has returned `0`, nothing that any thread does changes the module or the process,
and the descriptor that `perform` reads without the mutex is the same for ever. -/
theorem moduleInit_published (loaded : Loaded start)
    (run : Run (system initProgram) start labels mid)
    (returned : ∃ call ∈ returns labels, call.2.2 = 0) :
    ∃ fd, (∀ env, grallocModGbmPerform env mid.shared.1 mid.shared.2
        grallocModulePerformGetDrmFd = .ok (0, some fd, mid.shared)) ∧
      ∀ further last, Run (system initProgram) mid further last → last.shared = mid.shared ∧
        gbmDeviceGetFd last.shared.2 last.shared.1.gbmDev = .ok fd := by
  have published := published_of_returned loaded run returned
  obtain ⟨fd, live⟩ := Option.ne_none_iff_exists'.mp published.device
  have got : gbmDeviceGetFd mid.shared.2 mid.shared.1.gbmDev = .ok fd := by
    unfold gbmDeviceGetFd
    rw [live]
  refine ⟨fd, fun env => ?_, fun further last later => ?_⟩
  · unfold grallocModGbmPerform
    rw [grallocModGbmInit_again published.initialized, ok_bind]
    simp only [ne_eq, not_true_eq_false, if_false, if_true, got, ok_bind]
    rfl
  · have same := (settled_initialized published.initialized).run published.quiet later
    rw [same]
    exact ⟨rfl, got⟩

/-! The mutex is always given back. -/

/-- The pointer is empty until it is assigned to. -/
def PlaceReady : InitPlace → ModuleMemory → Prop
  | .testInitialized _, memory => memory.1.initialized = false → memory.1.gbmDev = 0
  | .initDevice _, memory | .createDevice .., memory | .setGbmDev _, memory =>
      memory.1.gbmDev = 0
  | .setInitialized, _ => True

/-- The places that are still ahead. -/
def InitPlace.left : InitPlace → ℕ
  | testInitialized _ => 4
  | initDevice _ => 3
  | createDevice .. => 2
  | setGbmDev _ => 1
  | setInitialized => 0

theorem InitPlace.left_lt (place : InitPlace) : place.left < 5 := by
  cases place <;> simp only [left, Nat.reduceLT]

/-- A test that lets the thread go on lets it go to one place. -/
theorem next_of_test {refused : Prop} [Decidable refused] {answer : Int} {place next : InitPlace}
    (h : (if refused then Sum.inr answer else Sum.inl place) = Sum.inl next) : next = place := by
  split at h
  · cases h
  · exact (Sum.inl.inj h).symm

theorem initProgram_bounded : Bounded initProgram PlaceReady InitPlace.left := by
  rintro place ⟨mod, s⟩ ready
  cases place with
  | testInitialized env =>
      refine ⟨_, _, rfl, fun next goesOn => ?_⟩
      by_cases again : mod.initialized = true
      · rw [if_pos again] at goesOn
        cases goesOn
      · rw [if_neg again] at goesOn
        cases goesOn
        exact ⟨ready (Bool.eq_false_iff.mpr again), Nat.lt_succ_self 3⟩
  | initDevice env =>
      refine ⟨_, _, rfl, fun next goesOn => ?_⟩
      obtain rfl := next_of_test goesOn
      exact ⟨ready, Nat.lt_succ_self 2⟩
  | createDevice env fd =>
      refine ⟨_, _, rfl, fun next goesOn => ?_⟩
      obtain rfl := next_of_test goesOn
      exact ⟨ready, Nat.lt_succ_self 1⟩
  | setGbmDev dev =>
      have stepped : initStep (.setGbmDev dev) (mod, s) =
          .ok (.inl .setInitialized, { mod with gbmDev := dev }, s) := by
        simp only [initStep, GrallocGbmModule.releaseGbmDev_empty ready, ok_bind, pure_eq_ok]
      refine ⟨_, _, stepped, ?_⟩
      rintro _ ⟨⟩
      exact ⟨trivial, Nat.zero_lt_one⟩
  | setInitialized => exact ⟨_, _, rfl, nofun⟩

/-- Whoever waits for the mutex can get it: the thread that has it gives it back in five steps at
most, whichever way it returns. -/
theorem moduleInit_admitted (loaded : Loaded start)
    (run : Run (system initProgram) start labels mid) {thread : Thread} {env : ModuleInitEnv}
    (waiting : mid.phase thread = .waiting env) :
    ∃ further final, further.length ≤ 7 ∧ Run (system initProgram) mid further final ∧
      final.owner = some thread := by
  refine waiter_admitted (loaded.serialised run) initProgram_bounded InitPlace.left_lt ?_ waiting
  intro before serial env
  obtain ⟨failed, later, -, made⟩ := serial_initialised loaded.fresh loaded.alive serial
  exact made.ready.empty

end Threads

/-! ## Two threads -/

abbrev TwoThreads := CriticalSections.State ModuleMemory ModuleInitEnv InitPlace Int Bool

def loadedThreads : TwoThreads where
  shared := ({}, closedProcess)
  owner := none
  phase _ := .idle

theorem loadedThreads_loaded : Loaded loadedThreads :=
  ⟨⟨rfl, fun _ => rfl⟩, rfl, fun nonNull => absurd rfl nonNull⟩

/-- The node of the device cannot be opened, or is descriptor 4. -/
def noDeviceEnv : ModuleInitEnv := ⟨⟨-1, 2, 2⟩, 0⟩

def deviceEnv : ModuleInitEnv := ⟨⟨4#32, 2, 2⟩, 0⟩

/-- One thread has the mutex, the other one waits. -/
def contendingThreads : TwoThreads where
  shared := ({}, closedProcess)
  owner := some true
  phase
    | true => .inside noDeviceEnv (.initDevice noDeviceEnv)
    | false => .waiting deviceEnv

def contention : List (Label ModuleInitEnv Int Bool) :=
  [.call true noDeviceEnv, .call false deviceEnv, .acquire true, .step true]

theorem contention_run :
    Run (system initProgram) loadedThreads contention contendingThreads := by
  have called := Run.single (show (system initProgram).step loadedThreads
    (.call true noDeviceEnv) _ from ⟨rfl, rfl⟩)
  have both := called.tail (show (system initProgram).step _ (.call false deviceEnv) _ from
    ⟨rfl, rfl⟩)
  have locked := both.tail (show (system initProgram).step _ (.acquire true) _ from
    ⟨noDeviceEnv, rfl, rfl, rfl⟩)
  refine locked.tail ⟨noDeviceEnv, _, _, _, rfl, rfl, ?_⟩
  unfold contendingThreads CriticalSections.State.move
  congr
  funext thread
  cases thread <;> rfl

theorem moduleInit_admitted_contending : ∃ further final, further.length ≤ 7 ∧
    Run (system initProgram) contendingThreads further final ∧ final.owner = some false :=
  moduleInit_admitted loadedThreads_loaded contention_run
    (show contendingThreads.phase false = .waiting deviceEnv from rfl)

/-- The thread that has the mutex fails, and the one that waited succeeds. -/
def race : List (Label ModuleInitEnv Int Bool) :=
  contention ++ [.step true, .release true noDeviceEnv (-einval), .acquire false] ++
    List.replicate 5 (.step false) ++ [.release false deviceEnv 0]

theorem race_run : ∃ last, Run (system initProgram) loadedThreads race last ∧
    last.owner = none := by
  have failed := contention_run.tail (show (system initProgram).step _ (.step true) _ from
    ⟨noDeviceEnv, _, _, _, rfl, rfl, rfl⟩)
  have left := failed.tail (show (system initProgram).step _
    (.release true noDeviceEnv (-einval)) _ from ⟨rfl, rfl⟩)
  have locked := left.tail (show (system initProgram).step _ (.acquire false) _ from
    ⟨deviceEnv, rfl, rfl, rfl⟩)
  have step {s next : TwoThreads} {labels : List (Label ModuleInitEnv Int Bool)}
      (run : Run (system initProgram) loadedThreads labels s)
      (h : (system initProgram).step s (.step false) next) := run.tail h
  have tested := step locked ⟨deviceEnv, _, _, _, rfl, rfl, rfl⟩
  have opened := step tested ⟨deviceEnv, _, _, _, rfl, rfl, rfl⟩
  have created := step opened ⟨deviceEnv, _, _, _, rfl, rfl, rfl⟩
  have assigned := step created ⟨deviceEnv, _, _, _, rfl, rfl, rfl⟩
  have marked := step assigned ⟨deviceEnv, _, _, _, rfl, rfl, rfl⟩
  exact ⟨_, marked.tail ⟨rfl, rfl⟩, rfl⟩

theorem race_returns : (false, deviceEnv, 0) ∈ returns race :=
  List.mem_cons_of_mem _ (List.mem_singleton_self _)

theorem moduleInit_run_race : ∃ last, Run (system initProgram) loadedThreads race last ∧
    last.shared.1.initialized = true := by
  obtain ⟨last, run, free⟩ := race_run
  obtain ⟨failed, later, split, fails, -, reached⟩ := moduleInit_run loadedThreads_loaded run
  refine ⟨last, run, (reached free).2.mpr ?_⟩
  rintro rfl
  rw [List.append_nil] at split
  exact einval_reported (fails _ (split ▸ race_returns)).symm

theorem moduleInit_published_race : ∃ last fd, Run (system initProgram) loadedThreads race last ∧
    ∀ further final, Run (system initProgram) last further final →
      gbmDeviceGetFd final.shared.2 final.shared.1.gbmDev = .ok fd := by
  obtain ⟨last, run, -⟩ := race_run
  obtain ⟨fd, -, later⟩ := moduleInit_published loadedThreads_loaded run ⟨_, race_returns, rfl⟩
  exact ⟨last, fd, run, fun further final after => (later further final after).2⟩

end GrallocGbmMesa.Gralloc4
