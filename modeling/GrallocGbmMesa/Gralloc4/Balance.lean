import GrallocGbmMesa.Core.Runs
import GrallocGbmMesa.Gralloc4.AllocDevice

/-!
# What the module owns

A buffer that is allocated by the module is the module's until it is freed, one that is
registered is the caller's throughout.  Both are released by the same core function,
which neither closes nor deletes a handle.
-/

namespace GrallocGbmMesa.Gralloc4

open Checked TransitionSystem
open GrallocGbmMesa.Platform GrallocGbmMesa.Core

/-! ## Sessions -/

/-- The module in its process, with an account of its calls. -/
structure ModuleSession where
  process : Process
  mod : GrallocGbmModule
  /-- the calls of `alloc` and of `free` that have returned `0` -/
  allocs : ℕ
  frees : ℕ
  /-- what `alloc` has returned and what has not been freed since -/
  allocated : Finset Ptr
  registered : Finset Ptr
  /-- what calls of the module have made and what is still there -/
  handles : Finset Ptr
  fds : Finset Fd

inductive ModuleEvent where
  | alloc (env : ModuleAllocEnv) (w h format usage : Word)
  | free (errno : Int) (handle : Ptr)
  | registerBuffer (env : ModuleRegisterEnv) (handle : Ptr)
  | unregisterBuffer (errno : Int) (handle : Ptr)
  /-- what the caller does with what is its own -/
  | caller (process : Process)

/-- The handle and the descriptor that an allocation can make. -/
def madeHandles (env : AllocEnv) : Finset Ptr := if env.newHandle = 0 then ∅ else {env.newHandle}

def madeFds (env : AllocEnv) : Finset Fd := if env.exportedFd.toInt < 0 then ∅ else {env.exportedFd}

namespace ModuleSession

/-- The account after a call that can make handles and descriptors. -/
def keep (session : ModuleSession) (process : Process) (made : Finset Ptr) (opened : Finset Fd) :
    ModuleSession :=
  { session with
    process
    handles := PartialMap.present (session.handles ∪ made) process.handles
    fds := PartialMap.present (session.fds ∪ opened) process.fds }

def afterAlloc (session : ModuleSession) (env : AllocEnv) (stored : Option Ptr)
    (mod : GrallocGbmModule) (process : Process) : ModuleSession :=
  let session := { session.keep process (madeHandles env) (madeFds env) with mod }
  match stored with
  | some handle =>
      { session with
        allocs := session.allocs + 1
        allocated := insert handle session.allocated }
  | none => session

def afterFree (session : ModuleSession) (handle : Ptr) (err : Int) (process : Process) :
    ModuleSession :=
  let session := session.keep process ∅ ∅
  if err = 0 then
    { session with
      frees := session.frees + 1
      allocated := session.allocated.erase handle }
  else session

def afterRegister (session : ModuleSession) (handle : Ptr) (err : Int) (mod : GrallocGbmModule)
    (process : Process) : ModuleSession :=
  let session := { session.keep process ∅ ∅ with mod }
  if err = 0 then { session with registered := insert handle session.registered } else session

def afterUnregister (session : ModuleSession) (handle : Ptr) (err : Int) (process : Process) :
    ModuleSession :=
  let session := session.keep process ∅ ∅
  if err = 0 then { session with registered := session.registered.erase handle } else session

end ModuleSession

namespace ModuleEvent

def perform (session : ModuleSession) : ModuleEvent → Except Fault ModuleSession
  | alloc env w h format usage => do
      let (_, stored, mod, process) ←
        grallocModAllocAlloc env session.mod session.process w h format usage
      return session.afterAlloc env.alloc stored.handle mod process
  | free errno handle => do
      let (err, process) ← grallocModAllocFree errno session.process handle
      return session.afterFree handle err process
  | registerBuffer env handle => do
      let (err, mod, process) ← grallocModRegisterBuffer env session.mod session.process handle
      return session.afterRegister handle err mod process
  | unregisterBuffer errno handle => do
      let (err, process) ← grallocModUnregisterBuffer errno session.process handle
      return session.afterUnregister handle err process
  | caller process => .ok { session with process }

section Releases

variable {session : ModuleSession} {errno err : Int} {handle : Ptr} {process : Process}

theorem perform_free
    (returns : grallocGmBufferFree errno session.process handle = .ok (err, process)) :
    (free errno handle).perform session = .ok (session.afterFree handle err process) := by
  rw [perform, grallocModAllocFree, returns]
  rfl

theorem perform_unregisterBuffer
    (returns : grallocGmBufferFree errno session.process handle = .ok (err, process)) :
    (unregisterBuffer errno handle).perform session =
      .ok (session.afterUnregister handle err process) := by
  rw [perform, grallocModUnregisterBuffer, returns]
  rfl

end Releases

section Allocations

variable {session : ModuleSession} {env : ModuleAllocEnv} {mod : GrallocGbmModule} {s₁ : Process}
  {err : Int} (w h format usage : Word)

theorem perform_alloc_uninitialised
    (returns : grallocModGbmInit env.init session.mod session.process = .ok (err, mod, s₁))
    (failed : err ≠ 0) :
    (alloc env w h format usage).perform session =
      .ok (session.afterAlloc env.alloc none mod s₁) := by
  rw [perform, grallocModAllocAlloc, returns, ok_bind]
  simp only [if_pos failed]
  rfl

/-- The allocation of a module that is initialised is the one of the core library. -/
theorem perform_alloc
    (returns : grallocModGbmInit env.init session.mod session.process = .ok (0, mod, s₁)) :
    (alloc env w h format usage).perform session =
      (grallocAllocate env.alloc s₁ (moduleDesc w h format usage)).map
        fun (err, stored, process) =>
          session.afterAlloc env.alloc
            (if err = 0 then some ((stored.map Prod.snd).getD 0) else none) mod process := by
  rw [perform, grallocModAllocAlloc, returns, ok_bind]
  simp only [ne_eq, not_true_eq_false, if_false]
  cases grallocAllocate env.alloc s₁ (moduleDesc w h format usage) with
  | error fault => rfl
  | ok answer => rfl

end Allocations

end ModuleEvent

/-- The caller leaves alone what is registered, what the module has made, and the device. -/
structure CallersOwn (session : ModuleSession) (process : Process) : Prop where
  elsewhere : Elsewhere session.process process
  handles : ∀ p ∈ session.handles, process.handles p ≠ none
  fds : ∀ fd ∈ session.fds, process.fds fd ≠ none
  device : DeviceAlive session.process → DeviceAlive process

/-- The descriptor that is exported was not in use. -/
def FdFresh (env : AllocEnv) (s : Process) : Prop :=
  0 ≤ env.exportedFd.toInt → s.fds env.exportedFd = none

/-- What the platform makes is new, an allocated handle is freed, and what is registered and
unregistered is the caller's. -/
def ModuleEvent.Possible (session : ModuleSession) : ModuleEvent → Prop
  | alloc env .. =>
      HandleFresh env.alloc session.process ∧ BoFresh env.alloc.newBo session.process ∧
        ∀ err mod process,
          grallocModGbmInit env.init session.mod session.process = .ok (err, mod, process) →
            FdFresh env.alloc process
  | free _ handle => handle ∈ session.allocated
  | registerBuffer env handle =>
      BoFresh env.gbm.newBo session.process ∧ handle ∉ session.handles ∧
        ∃ native, session.process.handles handle = some native ∧ native.Covers
  | unregisterBuffer _ handle => handle ∉ session.handles
  | caller process => CallersOwn session process

def moduleSystem : System ModuleSession ModuleEvent where
  initial session := Unused session.process ∧ session.process.calls = [] ∧ session.mod = {} ∧
    session.allocs = 0 ∧ session.frees = 0 ∧ session.allocated = ∅ ∧ session.registered = ∅ ∧
    session.handles = ∅ ∧ session.fds = ∅
  step session event next := event.Possible session ∧ event.perform session = .ok next

/-! ## Balance -/

/-- As many handles and descriptors as there are allocations that have not been freed, and
the registry of what is allocated or registered. -/
structure Balanced (session : ModuleSession) : Prop where
  handles : (session.handles.card : ℤ) = session.allocs - session.frees
  fds : (session.fds.card : ℤ) = session.allocs - session.frees
  registry : ∀ p, session.process.gbmBoHandleMap p ≠ none ↔
    p ∈ session.allocated ∨ p ∈ session.registered

/-- A buffer that is unregistered is not closed and not deleted. -/
def ModuleEvent.Spares (session next : ModuleSession) : ModuleEvent → Prop
  | unregisterBuffer .. =>
      next.process.handles = session.process.handles ∧ next.process.fds = session.process.fds
  | _ => True

/-- The call returns and leaves the balance. -/
def ModuleEvent.Safe (session : ModuleSession) (event : ModuleEvent) : Prop :=
  ∃ next, event.perform session = .ok next ∧ Balanced next ∧ event.Spares session next

/-- An allocation that is refused, or has a device and reports what it has got. -/
def AllocInOrder (env : AllocEnv) (s : Process) : Prop :=
  allocDevice env s = 0 ∨ env.newHandle = 0 ∨
    (DeviceLive env s ∧ (env.newBo = none → env.errno ≠ 0) ∧
      (env.newBo ≠ none → 0 ≤ env.exportedFd.toInt))

/-- Nothing is freed, and an allocation is in order once the module is initialised. -/
def ModuleEvent.InOrder (session : ModuleSession) : ModuleEvent → Prop
  | alloc env .. => ∀ mod process,
      grallocModGbmInit env.init session.mod session.process = .ok (0, mod, process) →
        AllocInOrder env.alloc process
  | free .. => False
  | registerBuffer .. | unregisterBuffer .. | caller _ => True

/-! ## The device -/

/-- What the opening and the creation of a device leave as it was. -/
structure DeviceOpened (s s' : Process) : Prop where
  same : SameBuffers s s'
  fds : ∀ fd, s.fds fd ≠ none → s'.fds fd ≠ none
  alive : DeviceAlive s → DeviceAlive s'

namespace DeviceOpened

theorem refl (s : Process) : DeviceOpened s s := ⟨.refl s, fun _ => id, id⟩

theorem trans {s s' s'' : Process} (h : DeviceOpened s s') (h' : DeviceOpened s' s'') :
    DeviceOpened s s'' where
  same := h.same.trans h'.same
  fds fd isOpen := h'.fds fd (h.fds fd isOpen)
  alive := h'.alive ∘ h.alive

theorem openFd (s : Process) (fd : Fd) (file : FileId) : DeviceOpened s (s.openFd fd file) where
  same := ⟨rfl, rfl, rfl, fun _ => rfl, fun _ => rfl⟩
  fds _ := PartialMap.stored_ne_none
  alive := id

theorem create (created : Ptr) (s : Process) (fd : Fd) :
    DeviceOpened s (grallocGbmDeviceCreate created s fd).2.2 where
  same := .device created s fd
  fds other isOpen := by rwa [grallocGbmDeviceCreate_fds]
  alive live := (grallocGbmDeviceCreate_alive live created fd).1

theorem init (env : DeviceInitEnv) (s : Process) :
    DeviceOpened s (grallocGbmDeviceInit env s).2 := by
  rw [grallocGbmDeviceInit_process]
  split
  · exact .refl s
  · exact (openFd s env.fd env.file).trans (create ..)

theorem module (env : ModuleInitEnv) (s : Process) : DeviceOpened s (moduleProcess env s) := by
  unfold moduleProcess
  dsimp only
  split
  · exact .init env.init s
  · exact (DeviceOpened.init env.init s).trans (create ..)

end DeviceOpened

theorem grallocModGbmInit_opens {mod : GrallocGbmModule}
    (empty : mod.initialized = false → mod.gbmDev = 0) (env : ModuleInitEnv) (s : Process) :
    ∃ err mod' s', grallocModGbmInit env mod s = .ok (err, mod', s') ∧ DeviceOpened s s' ∧
      (mod'.initialized = false → mod'.gbmDev = 0) := by
  by_cases again : mod.initialized = true
  · exact ⟨0, mod, s, grallocModGbmInit_again again, .refl s, empty⟩
  · have first := Bool.eq_false_iff.mpr again
    obtain ⟨err, mod', returns, empty'⟩ := grallocModGbmInit_first first (empty first) env s
    exact ⟨err, mod', moduleProcess env s, returns, .module env s, empty'⟩

/-- The import of a live handle returns, and concerns no descriptor. -/
theorem grallocGmBufferImport_defined {s : Process} (alive : DeviceAlive s) {handle : Ptr}
    {native : NativeHandle} (placed : s.handles handle = some native) (covers : native.Covers)
    (env : ImportEnv) : ∃ ret s', grallocGmBufferImport env s handle = .ok (ret, s') ∧
      s'.fds = s.fds ∧ DeviceAlive s' := by
  unfold grallocGmBufferImport
  by_cases null : handle = 0
  · rw [if_pos null]
    exact ⟨_, s, rfl, rfl, alive⟩
  by_cases registered : (s.gbmBoHandleMap handle).isSome
  · rw [if_neg null, if_pos registered]
    exact ⟨_, s, rfl, rfl, alive⟩
  rw [if_neg null, if_neg registered]
  have opened := DeviceOpened.create env.createdDevice s s.gbmDevFd
  have fds := grallocGbmDeviceCreate_fds env.createdDevice s s.gbmDevFd
  have given := (grallocGbmDeviceCreate_alive alive env.createdDevice s.gbmDevFd).2
  generalize grallocGbmDeviceCreate env.createdDevice s s.gbmDevFd = made at opened fds given ⊢
  obtain ⟨err, stored, s₁⟩ := made
  dsimp only at opened fds given ⊢
  by_cases noDevice : stored.getD 0 = 0
  · rw [if_pos noDevice]
    exact ⟨_, s₁, rfl, fds, opened.alive alive⟩
  have placed₁ := (congrFun opened.same.handles handle).trans placed
  rw [if_neg noDevice, Process.handle_eq_ok.mpr placed₁, ok_bind]
  have live : s₁.devices (stored.getD 0) ≠ none := by
    cases stored with
    | none => exact absurd rfl noDevice
    | some dev => exact given dev rfl noDevice
  obtain ⟨ret, s', returns⟩ := importBo_defined live covers env handle
  refine ⟨ret, s', returns, ?_⟩
  have free : s₁.gbmBoHandleMap handle = none := by
    rw [opened.same.registry]
    exact Option.not_isSome_iff_eq_none.mp registered
  rcases importBo_returns free returns with
    ⟨-, rfl | ⟨data, rfl⟩⟩ | ⟨-, new, format, data, -, -, rfl⟩ <;>
    exact ⟨fds, opened.alive alive⟩

/-! ## Calls that return -/

/-- What holds as long as every event is in order. -/
structure SessionInv (session : ModuleSession) : Prop where
  core : ∃ created, CoreInv created session.process
  live : ∀ p ∈ session.handles, session.process.handles p ≠ none
  opened : ∀ fd ∈ session.fds, session.process.fds fd ≠ none
  owned : session.allocated = session.handles
  balanced : Balanced session
  alive : DeviceAlive session.process
  empty : session.mod.initialized = false → session.mod.gbmDev = 0

namespace ModuleSession

variable {session : ModuleSession} {process : Process} {made : Finset Ptr} {opened : Finset Fd}

/-- A call that makes nothing changes nothing in the account. -/
theorem keep_same (live : ∀ p ∈ session.handles, process.handles p ≠ none)
    (isOpen : ∀ fd ∈ session.fds, process.fds fd ≠ none)
    (free : ∀ p ∈ made, process.handles p = none) (closed : ∀ fd ∈ opened, process.fds fd = none) :
    session.keep process made opened = { session with process } := by
  unfold keep
  rw [PartialMap.present_union live, PartialMap.present_union isOpen,
    PartialMap.present_eq_empty free, PartialMap.present_eq_empty closed, Finset.union_empty,
    Finset.union_empty]

end ModuleSession

theorem madeHandles_free {env : AllocEnv} {s : Process} (fresh : HandleFresh env s) :
    ∀ p ∈ madeHandles env, s.handles p = none := by
  intro p hmem
  unfold madeHandles at hmem
  split at hmem
  · exact absurd hmem (Finset.notMem_empty p)
  · rw [Finset.mem_singleton.mp hmem]
    exact fresh ‹_›

theorem madeFds_free {env : AllocEnv} {s : Process} (fresh : FdFresh env s) :
    ∀ fd ∈ madeFds env, s.fds fd = none := by
  intro fd hmem
  unfold madeFds at hmem
  split at hmem
  · exact absurd hmem (Finset.notMem_empty fd)
  · rw [Finset.mem_singleton.mp hmem]
    exact fresh (Int.not_lt.mp ‹_›)

namespace SessionInv

variable {session : ModuleSession} {process : Process}

theorem initial (h : moduleSystem.initial session) : SessionInv session := by
  obtain ⟨unused, calls, mod, allocs, frees, allocated, registered, handles, fds⟩ := h
  refine ⟨⟨_, CoreInv.of_run ⟨unused, calls⟩ .refl⟩, ?_, ?_, ?_, ⟨?_, ?_, ?_⟩, ?_, ?_⟩
  · rw [handles]
    exact fun p hmem => absurd hmem (Finset.notMem_empty p)
  · rw [fds]
    exact fun fd hmem => absurd hmem (Finset.notMem_empty fd)
  · rw [allocated, handles]
  · rw [handles, allocs, frees]
    rfl
  · rw [fds, allocs, frees]
    rfl
  · intro p
    rw [unused.registry, allocated, registered]
    simp
  · exact fun device => absurd unused.gbmDev device
  · rw [mod]
    exact fun _ => rfl

/-- The account holds of a process with the same registry, in which nothing has gone. -/
theorem kept (h : SessionInv session) (core : ∃ created, CoreInv created process)
    (registry : process.gbmBoHandleMap = session.process.gbmBoHandleMap)
    (live : ∀ p ∈ session.handles, process.handles p ≠ none)
    (opened : ∀ fd ∈ session.fds, process.fds fd ≠ none) (alive : DeviceAlive process) :
    SessionInv { session with process } where
  core := core
  live := live
  opened := opened
  owned := h.owned
  balanced := ⟨h.balanced.handles, h.balanced.fds, fun p => by
    rw [← h.balanced.registry, ← registry]⟩
  alive := alive
  empty := h.empty

theorem caller (h : SessionInv session) (own : CallersOwn session process) :
    SessionInv { session with process } := by
  obtain ⟨created, core⟩ := h.core
  exact h.kept ⟨created, core.elsewhere own.elsewhere⟩ own.elsewhere.registry own.handles own.fds
    (own.device h.alive)

theorem device (h : SessionInv session) (opened : DeviceOpened session.process process) :
    SessionInv { session with process } := by
  obtain ⟨created, core⟩ := h.core
  refine h.kept ⟨created, core.same opened.same⟩ opened.same.registry ?_ ?_ (opened.alive h.alive)
  · intro p hmem
    rw [opened.same.handles]
    exact h.live p hmem
  · intro fd hmem
    exact opened.fds fd (h.opened fd hmem)

theorem initialised (h : SessionInv session) (opened : DeviceOpened session.process process)
    {mod : GrallocGbmModule} (empty : mod.initialized = false → mod.gbmDev = 0) :
    SessionInv { session with process, mod } where
  core := (h.device opened).core
  live := (h.device opened).live
  opened := (h.device opened).opened
  owned := h.owned
  balanced := ⟨h.balanced.handles, h.balanced.fds, (h.device opened).balanced.registry⟩
  alive := (h.device opened).alive
  empty := empty

/-- A registered handle is freed: it and its descriptor stay. -/
theorem free_registered (h : SessionInv session) {handle : Ptr}
    (registered : session.process.gbmBoHandleMap handle ≠ none) (errno : Int) :
    ∃ process, grallocGmBufferFree errno session.process handle = .ok (0, process) ∧
      (∃ created, CoreInv created process) ∧
      process.gbmBoHandleMap = Function.update session.process.gbmBoHandleMap handle none ∧
      process.handles = session.process.handles ∧ process.fds = session.process.fds ∧
      DeviceAlive process := by
  obtain ⟨created, core⟩ := h.core
  obtain ⟨p, registered⟩ := Option.ne_none_iff_exists'.mp registered
  obtain ⟨bo, hold, native, buffer⟩ := core.holds handle p registered
  have live : session.process.bos p ≠ none := by
    rw [buffer.live]
    exact nofun
  have freed := grallocGmBufferFree_registered buffer.nonNull registered live buffer.placed
    buffer.covers errno
  exact ⟨_, freed, ⟨_, core.freed freed⟩, rfl, rfl, rfl, h.alive⟩

theorem keep_same (h : SessionInv session) (handles : process.handles = session.process.handles)
    (fds : process.fds = session.process.fds) :
    session.keep process ∅ ∅ = { session with process } := by
  refine ModuleSession.keep_same ?_ ?_ ?_ ?_
  · rw [handles]
    exact h.live
  · rw [fds]
    exact h.opened
  · exact fun p hmem => absurd hmem (Finset.notMem_empty p)
  · exact fun fd hmem => absurd hmem (Finset.notMem_empty fd)

theorem unregister (h : SessionInv session) {handle : Ptr} (callers : handle ∉ session.handles)
    (errno : Int) : ∃ next,
      (ModuleEvent.unregisterBuffer errno handle).perform session = .ok next ∧ SessionInv next ∧
        next.process.handles = session.process.handles ∧
        next.process.fds = session.process.fds := by
  by_cases registered : session.process.gbmBoHandleMap handle = none
  · refine ⟨session, ?_, h, rfl, rfl⟩
    have absent : handle ∉ session.registered := fun hmem =>
      (h.balanced.registry handle).mpr (.inr hmem) registered
    have freed := grallocGmBufferFree_unregistered (.inr registered) errno
    rw [ModuleEvent.perform_unregisterBuffer freed, ModuleSession.afterUnregister,
      h.keep_same rfl rfl, Finset.erase_eq_of_notMem absent]
    exact congrArg Except.ok (ite_self _)
  · obtain ⟨process, freed, core, registry, handles, fds, alive⟩ :=
      h.free_registered registered errno
    refine ⟨{ session with process, registered := session.registered.erase handle }, ?_,
      ⟨core, handles ▸ h.live, fds ▸ h.opened, h.owned, ⟨h.balanced.handles, h.balanced.fds, ?_⟩,
        alive, h.empty⟩, handles, fds⟩
    · rw [ModuleEvent.perform_unregisterBuffer freed, ModuleSession.afterUnregister,
        h.keep_same handles fds]
      rfl
    intro p
    rw [registry, Finset.mem_erase]
    by_cases own : p = handle
    · subst own
      rw [Function.update_self]
      have other : p ∉ session.allocated := h.owned ▸ callers
      exact iff_of_false (absurd rfl) (not_or.mpr ⟨other, fun ⟨different, _⟩ => different rfl⟩)
    · rw [Function.update_of_ne own, h.balanced.registry, and_iff_right own]

/-- What is freed stays, so that the balance is lost. -/
theorem free_unbalanced (h : SessionInv session) {handle : Ptr}
    (allocated : handle ∈ session.allocated) {errno : Int} {next : ModuleSession}
    (performed : (ModuleEvent.free errno handle).perform session = .ok next) :
    ¬ Balanced next := by
  have registered := (h.balanced.registry handle).mpr (.inl allocated)
  obtain ⟨process, freed, -, -, handles, fds, -⟩ := h.free_registered registered errno
  rw [ModuleEvent.perform_free freed, ModuleSession.afterFree, h.keep_same handles fds] at performed
  cases performed
  rintro ⟨handles, -, -⟩
  have before := h.balanced.handles
  change (session.handles.card : ℤ) = session.allocs - (session.frees + 1 : ℕ) at handles
  omega

/-- A buffer of the caller is registered, or the import is refused. -/
theorem imported (h : SessionInv session) {env : ImportEnv} {handle : Ptr} {err : Int}
    (freshBo : BoFresh env.newBo session.process)
    (returns : grallocGmBufferImport env session.process handle = .ok (err, process))
    (fds : process.fds = session.process.fds) (alive : DeviceAlive process) :
    SessionInv (session.afterRegister handle err session.mod process) := by
  obtain ⟨created, core⟩ := h.core
  have imported : coreSystem.step session.process (.imported env handle err) process :=
    ⟨freshBo, returns⟩
  have core' := core.step imported
  unfold ModuleSession.afterRegister
  rcases grallocGmBufferImport_joins freshBo returns with
    ⟨failed, same⟩ | ⟨rfl, p, bo, native, joins, handles⟩
  · rw [if_neg failed, h.keep_same same.handles fds]
    refine h.kept ⟨_, core'⟩ same.registry ?_ ?_ alive
    · rw [same.handles]
      exact h.live
    · rw [fds]
      exact h.opened
  · rw [if_pos rfl, h.keep_same handles fds]
    refine ⟨⟨_, core'⟩, handles ▸ h.live, fds ▸ h.opened, h.owned,
      ⟨h.balanced.handles, h.balanced.fds, ?_⟩, alive, h.empty⟩
    intro q
    rw [joins.registry, Finset.mem_insert]
    by_cases own : q = handle
    · rw [own, Function.update_self]
      exact iff_of_true nofun (.inr (.inl rfl))
    · rw [Function.update_of_ne own, h.balanced.registry, or_iff_right own]

theorem register (h : SessionInv session) {env : ModuleRegisterEnv} {handle : Ptr}
    (possible : (ModuleEvent.registerBuffer env handle).Possible session) :
    ∃ next, (ModuleEvent.registerBuffer env handle).perform session = .ok next ∧
      SessionInv next := by
  obtain ⟨freshBo, -, native, placed, covers⟩ := possible
  obtain ⟨err, mod, s₁, returns, opened, empty⟩ := grallocModGbmInit_opens h.empty env.init
    session.process
  have h₁ := h.initialised opened empty
  rw [ModuleEvent.perform, grallocModRegisterBuffer, returns, ok_bind]
  by_cases failed : err ≠ 0
  · refine ⟨{ session with process := s₁, mod }, ?_, h₁⟩
    simp only [if_pos failed, ok_bind]
    rw [ModuleSession.afterRegister, if_neg failed]
    exact congrArg (fun kept : ModuleSession => Except.ok { kept with mod })
      (ModuleSession.keep_same h₁.live h₁.opened (fun p hmem => absurd hmem (Finset.notMem_empty p))
        fun fd hmem => absurd hmem (Finset.notMem_empty fd))
  · rw [← opened.same.handles] at placed
    obtain ⟨ret, s', imports, fds, alive⟩ :=
      grallocGmBufferImport_defined h₁.alive placed covers env.gbm
    simp only [if_neg failed, imports, ok_bind]
    have freshBo₁ : BoFresh env.gbm.newBo s₁ := by
      unfold BoFresh
      rwa [opened.same.bos]
    exact ⟨_, rfl, h₁.imported freshBo₁ imports fds alive⟩

/-! Allocations of an initialised module. -/

section Allocations

variable {env : AllocEnv} {desc : GrallocBufferDesc}

/-- The process after a refused allocation is the one the device has left. -/
theorem keep_refused (h : SessionInv session) (fresh : HandleFresh env session.process)
    (freshFd : FdFresh env session.process) (handles : process.handles = session.process.handles)
    (fds : process.fds = session.process.fds) :
    session.keep process (madeHandles env) (madeFds env) = { session with process } := by
  refine ModuleSession.keep_same ?_ ?_ ?_ ?_
  · rw [handles]
    exact h.live
  · rw [fds]
    exact h.opened
  · rw [handles]
    exact madeHandles_free fresh
  · rw [fds]
    exact madeFds_free freshFd

/-- A refused allocation leaves the account as it is. -/
theorem refused (h : SessionInv session) (fresh : HandleFresh env session.process)
    (freshBo : BoFresh env.newBo session.process) (freshFd : FdFresh env session.process)
    {err : Int} (returns : grallocAllocate env session.process desc = .ok (err, none, process))
    (fds : process.fds = session.process.fds) (alive : DeviceAlive process) :
    SessionInv (session.afterAlloc env none session.mod process) := by
  obtain ⟨created, core⟩ := h.core
  have allocated : coreSystem.step session.process (.allocated env desc err none) process :=
    ⟨fresh, freshBo, returns⟩
  obtain ⟨-, same⟩ | ⟨new, -, -, stored, -⟩ :=
    grallocAllocate_joins fresh freshBo (fun p => core.unregistered) returns
  · rw [ModuleSession.afterAlloc, h.keep_refused fresh freshFd same.handles fds]
    refine h.kept ⟨_, core.step allocated⟩ same.registry ?_ ?_ alive
    · rw [same.handles]
      exact h.live
    · rw [fds]
      exact h.opened
  · cases stored

/-- An allocation that returns `0` without a buffer loses the balance. -/
theorem empty_unbalanced (h : SessionInv session) (fresh : HandleFresh env session.process)
    (freshFd : FdFresh env session.process) (handles : process.handles = session.process.handles)
    (fds : process.fds = session.process.fds) (hnd : Ptr) :
    ¬ Balanced (session.afterAlloc env (some hnd) session.mod process) := by
  rw [ModuleSession.afterAlloc, h.keep_refused fresh freshFd handles fds]
  rintro ⟨after, -, -⟩
  have before := h.balanced.handles
  change (session.handles.card : ℤ) = (session.allocs + 1 : ℕ) - session.frees at after
  omega

/-- The account after an allocation that has got its BO. -/
theorem made_account (h : SessionInv session) (handle : env.newHandle ≠ 0) (new : NewBo)
    (desc : GrallocBufferDesc) :
    session.afterAlloc env (some env.newHandle) session.mod
        (madeProcess env session.process new desc) =
      { session with
        process := madeProcess env session.process new desc
        allocs := session.allocs + 1
        allocated := insert env.newHandle session.allocated
        handles := insert env.newHandle session.handles
        fds := if env.exportedFd.toInt < 0 then session.fds
          else insert env.exportedFd session.fds } := by
  have handles : PartialMap.present (session.handles ∪ madeHandles env)
      (madeProcess env session.process new desc).handles =
        insert env.newHandle session.handles := by
    rw [madeHandles, if_neg handle]
    exact PartialMap.present_store h.live ..
  have fds : PartialMap.present (session.fds ∪ madeFds env)
      (madeProcess env session.process new desc).fds =
        if env.exportedFd.toInt < 0 then session.fds else insert env.exportedFd session.fds := by
    unfold madeFds madeProcess
    by_cases closed : env.exportedFd.toInt < 0
    · simp only [if_pos closed, Finset.union_empty]
      exact PartialMap.present_eq_self h.opened
    · simp only [if_neg closed]
      exact PartialMap.present_store h.opened ..
  rw [ModuleSession.afterAlloc, ModuleSession.keep, handles, fds]

theorem made (h : SessionInv session) (asks : AsksForBo env session.process)
    (fresh : HandleFresh env session.process) (freshBo : BoFresh env.newBo session.process)
    (freshFd : FdFresh env session.process) {new : NewBo} (answer : env.newBo = some new)
    (desc : GrallocBufferDesc) (exported : 0 ≤ env.exportedFd.toInt) :
    SessionInv (session.afterAlloc env (some env.newHandle) session.mod
      (madeProcess env session.process new desc)) := by
  obtain ⟨created, core⟩ := h.core
  have returns := grallocAllocate_made asks answer desc
  have allocated : coreSystem.step session.process
      (.allocated env desc 0 (some (new.stride, env.newHandle)))
      (madeProcess env session.process new desc) := ⟨fresh, freshBo, returns⟩
  have newHandle : env.newHandle ∉ session.handles := fun hmem =>
    h.live _ hmem (fresh asks.handle)
  have newFd : env.exportedFd ∉ session.fds := fun hmem => h.opened _ hmem (freshFd exported)
  rw [h.made_account asks.handle, if_neg (Int.not_lt.mpr exported)]
  refine ⟨⟨_, core.step allocated⟩, ?_, ?_, ?_, ⟨?_, ?_, ?_⟩, ?_, h.empty⟩
  · intro p hmem
    change Function.update session.process.handles env.newHandle _ p ≠ none
    rcases Finset.mem_insert.mp hmem with rfl | before
    · rw [Function.update_self]
      exact nofun
    · exact PartialMap.stored_ne_none (h.live p before)
  · intro fd hmem
    simp only [madeProcess, if_neg (Int.not_lt.mpr exported)]
    rcases Finset.mem_insert.mp hmem with rfl | before
    · rw [Function.update_self]
      exact nofun
    · exact PartialMap.stored_ne_none (h.opened fd before)
  · exact congrArg (insert env.newHandle) h.owned
  · have before := h.balanced.handles
    dsimp only
    rw [Finset.card_insert_of_notMem newHandle]
    omega
  · have before := h.balanced.fds
    dsimp only
    rw [Finset.card_insert_of_notMem newFd]
    omega
  · intro p
    change Function.update session.process.gbmBoHandleMap env.newHandle _ p ≠ none ↔ _
    rw [core.unregistered (fresh asks.handle), Finset.mem_insert]
    by_cases own : p = env.newHandle
    · rw [own, Function.update_self]
      exact iff_of_true nofun (.inl (.inl rfl))
    · rw [Function.update_of_ne own, h.balanced.registry, or_iff_right own]
  · exact (DeviceOpened.create ..).alive h.alive

/-- A buffer without a descriptor loses the balance. -/
theorem unexported_unbalanced (h : SessionInv session) (handle : env.newHandle ≠ 0) (new : NewBo)
    (desc : GrallocBufferDesc) (unexported : env.exportedFd.toInt < 0) :
    ¬ Balanced (session.afterAlloc env (some env.newHandle) session.mod
      (madeProcess env session.process new desc)) := by
  rw [h.made_account handle, if_pos unexported]
  rintro ⟨-, after, -⟩
  have before := h.balanced.fds
  change (session.fds.card : ℤ) = (session.allocs + 1 : ℕ) - session.frees at after
  omega

/-- What an allocation stores through `handle`. -/
theorem allocate_inOrder (h : SessionInv session) (fresh : HandleFresh env session.process)
    (freshBo : BoFresh env.newBo session.process) (freshFd : FdFresh env session.process)
    (order : AllocInOrder env session.process) (desc : GrallocBufferDesc) :
    ∃ err stored process, grallocAllocate env session.process desc = .ok (err, stored, process) ∧
      SessionInv (session.afterAlloc env
        (if err = 0 then some ((stored.map Prod.snd).getD 0) else none) session.mod process) := by
  have alive : DeviceAlive (deviceProcess env session.process) :=
    (DeviceOpened.create ..).alive h.alive
  by_cases denied : allocDevice env session.process = 0 ∨ env.newHandle = 0
  · have returns := grallocAllocate_refused denied desc
    exact ⟨_, _, _, returns, h.refused fresh freshBo freshFd returns
      (deviceProcess_frame env session.process).2.2.2 alive⟩
  obtain ⟨device, handle⟩ := not_or.mp denied
  obtain ⟨live, errno, exported⟩ := (order.resolve_left device).resolve_left handle
  have asks : AsksForBo env session.process := ⟨device, handle, live⟩
  cases answer : env.newBo with
  | none =>
      have returns := grallocAllocate_noBo asks answer desc
      have failed : -env.errno ≠ 0 := Int.neg_ne_zero.mpr (errno answer)
      refine ⟨_, _, _, returns, ?_⟩
      rw [if_neg failed]
      exact h.refused fresh freshBo freshFd returns (noBo_frame (fresh handle) desc).2.2.2
        ((noBo_same (fresh handle) desc).deviceAlive alive)
  | some new =>
      have answered : env.newBo ≠ none := by
        rw [answer]
        exact nofun
      exact ⟨_, _, _, grallocAllocate_made asks answer desc,
        h.made asks fresh freshBo freshFd answer desc (exported answered)⟩

theorem allocate_unbalanced (h : SessionInv session) (fresh : HandleFresh env session.process)
    (freshFd : FdFresh env session.process) (disorder : ¬ AllocInOrder env session.process)
    {err : Int} {stored : Option (Word × Ptr)}
    (returns : grallocAllocate env session.process desc = .ok (err, stored, process)) :
    ¬ Balanced (session.afterAlloc env
      (if err = 0 then some ((stored.map Prod.snd).getD 0) else none) session.mod process) := by
  unfold AllocInOrder at disorder
  obtain ⟨device, disorder⟩ := not_or.mp disorder
  obtain ⟨handle, disorder⟩ := not_or.mp disorder
  by_cases live : DeviceLive env session.process
  · have asks : AsksForBo env session.process := ⟨device, handle, live⟩
    cases answer : env.newBo with
    | none =>
        rw [grallocAllocate_noBo asks answer] at returns
        cases returns
        have silent : -env.errno = 0 := by
          by_contra reported
          refine disorder ⟨live, fun _ zero => reported (Int.neg_eq_zero.mpr zero), ?_⟩
          exact fun answered => absurd answer answered
        obtain ⟨-, -, handles, fds⟩ := noBo_frame (fresh handle) desc
        rw [if_pos silent]
        exact h.empty_unbalanced fresh freshFd handles fds _
    | some new =>
        rw [grallocAllocate_made asks answer] at returns
        cases returns
        refine h.unexported_unbalanced handle new desc ?_
        by_contra exported
        refine disorder ⟨live, ?_, fun _ => Int.not_lt.mp exported⟩
        rw [answer]
        exact nofun
  · rw [grallocAllocate_dangling device handle live] at returns
    cases returns

end Allocations

/-! One event. -/

section Event

variable {event : ModuleEvent}

/-- An event that is in order returns, and leaves everything in order. -/
theorem step (h : SessionInv session) (possible : event.Possible session)
    (order : event.InOrder session) :
    ∃ next, event.perform session = .ok next ∧ SessionInv next ∧ event.Spares session next := by
  cases event with
  | alloc env w height format usage =>
      obtain ⟨fresh, freshBo, freshFd⟩ := possible
      obtain ⟨err, mod, s₁, returns, opened, empty⟩ := grallocModGbmInit_opens h.empty env.init
        session.process
      have h₁ := h.initialised opened empty
      have fresh₁ : HandleFresh env.alloc s₁ := fun nonNull =>
        (congrFun opened.same.handles _).trans (fresh nonNull)
      by_cases failed : err ≠ 0
      · refine ⟨_, ModuleEvent.perform_alloc_uninitialised w height format usage returns failed, ?_,
          trivial⟩
        have kept : SessionInv (({ session with process := s₁, mod } : ModuleSession).keep s₁
            (madeHandles env.alloc) (madeFds env.alloc)) := by
          rw [h₁.keep_refused fresh₁ (freshFd err mod s₁ returns) rfl rfl]
          exact h₁
        exact kept
      · obtain rfl := not_not.mp failed
        have freshBo₁ : BoFresh env.alloc.newBo s₁ := fun new answer =>
          (congrFun opened.same.bos _).trans (freshBo new answer)
        obtain ⟨err, stored, process, allocates, inv⟩ := h₁.allocate_inOrder fresh₁ freshBo₁
          (freshFd 0 mod s₁ returns) (order mod s₁ returns) (moduleDesc w height format usage)
        refine ⟨_, ?_, inv, trivial⟩
        rw [ModuleEvent.perform_alloc w height format usage returns, allocates]
        rfl
  | free errno handle => exact order.elim
  | registerBuffer env handle =>
      obtain ⟨next, performed, inv⟩ := h.register possible
      exact ⟨next, performed, inv, trivial⟩
  | unregisterBuffer errno handle =>
      obtain ⟨next, performed, inv, spared⟩ := h.unregister possible errno
      exact ⟨next, performed, inv, spared⟩
  | caller process => exact ⟨_, rfl, h.caller possible, trivial⟩

/-- The events in order are the safe ones. -/
theorem safe_iff (h : SessionInv session) (possible : event.Possible session) :
    event.Safe session ↔ event.InOrder session := by
  constructor
  · rintro ⟨next, performed, balanced, -⟩
    cases event with
    | alloc env w height format usage =>
        obtain ⟨fresh, -, freshFd⟩ := possible
        intro mod s₁ returns
        obtain ⟨err, mod', s₁', returns', opened, empty⟩ := grallocModGbmInit_opens h.empty env.init
          session.process
        cases returns.symm.trans returns'
        have h₁ := h.initialised opened empty
        have fresh₁ : HandleFresh env.alloc s₁ := fun nonNull =>
          (congrFun opened.same.handles _).trans (fresh nonNull)
        rw [ModuleEvent.perform_alloc w height format usage returns] at performed
        obtain ⟨⟨err, stored, process⟩, allocates, rfl⟩ := map_eq_ok.mp performed
        by_contra disorder
        exact h₁.allocate_unbalanced fresh₁ (freshFd 0 mod s₁ returns) disorder allocates balanced
    | free errno handle => exact h.free_unbalanced possible performed balanced
    | registerBuffer | unregisterBuffer | caller => exact trivial
  · intro order
    obtain ⟨next, performed, inv, spared⟩ := h.step possible order
    exact ⟨next, performed, inv.balanced, spared⟩

end Event

/-! Runs. -/

theorem keeps {next : ModuleSession} {event : ModuleEvent} (h : SessionInv session)
    (hstep : (moduleSystem.guarded fun session event => event.InOrder session).step session event
      next) : SessionInv next := by
  obtain ⟨order, possible, performed⟩ := hstep
  obtain ⟨next', performed', inv, -⟩ := h.step possible order
  cases performed.symm.trans performed'
  exact inv

end SessionInv

/-- A run of the module keeps the balance in every state exactly if each of its events is in
order, and in the states it reaches an event keeps the balance exactly if it is in order. -/
theorem moduleBalance_iff {first last : ModuleSession} {labels : List ModuleEvent}
    (initial : moduleSystem.initial first) :
    (Run (moduleSystem.guarded fun session event => event.Safe session) first labels last ↔
        Run (moduleSystem.guarded fun session event => event.InOrder session) first labels last) ∧
      (Run (moduleSystem.guarded fun session event => event.InOrder session) first labels last →
        Balanced last ∧
          ∀ event : ModuleEvent, event.Possible last → (event.Safe last ↔ event.InOrder last)) := by
  have start := SessionInv.initial initial
  refine ⟨?_, fun run => ?_⟩
  · exact Run.guarded_iff SessionInv start .keeps fun inv hstep => inv.safe_iff hstep.1
  · have inv := run.invariant SessionInv start .keeps
    exact ⟨inv.balanced, fun event => inv.safe_iff⟩

/-! ## A session -/

def loadedSession : ModuleSession where
  process := closedProcess
  mod := {}
  allocs := 0
  frees := 0
  allocated := ∅
  registered := ∅
  handles := ∅
  fds := ∅

theorem loadedSession_initial : moduleSystem.initial loadedSession :=
  ⟨closedProcess_initial.1, rfl, rfl, rfl, rfl, rfl, rfl, rfl, rfl⟩

/-- The device is opened on descriptor 4, and the buffer at 16 is exported as `fd`. -/
def textureAlloc (fd : Fd) : ModuleEvent :=
  .alloc ⟨⟨⟨4#32, 2, 2⟩, 0⟩, { cursorEnv with exportedFd := fd }⟩ 64#32 32#32
    halPixelFormatRgba8888 grallocUsageHwTexture

theorem textureAlloc_possible {fd : Fd} (closed : loadedSession.process.fds fd = none)
    (other : fd ≠ 4#32) : (textureAlloc fd).Possible loadedSession := by
  refine ⟨fun _ => rfl, fun _ _ => rfl, ?_⟩
  intro err mod process returns _
  cases returns
  exact (Function.update_of_ne other ..).trans closed

theorem moduleBalance_iff_texture :
    ∃ last, Run (moduleSystem.guarded fun session event => event.Safe session) loadedSession
        [textureAlloc 5#32] last ∧ Balanced last ∧ last.allocs = 1 ∧
      ¬ (ModuleEvent.free 0 16).Safe last := by
  obtain ⟨last, performed, allocs, allocated⟩ : ∃ last,
      (textureAlloc 5#32).perform loadedSession = .ok last ∧ last.allocs = 1 ∧
        16 ∈ last.allocated :=
    ⟨_, rfl, rfl, Finset.mem_insert_self ..⟩
  have order : (textureAlloc 5#32).InOrder loadedSession := by
    intro mod process returns
    cases returns
    exact .inr (.inr ⟨.inr (by decide), nofun, fun _ => by decide⟩)
  have possible : (textureAlloc 5#32).Possible loadedSession :=
    textureAlloc_possible rfl (by decide)
  obtain ⟨runs, reached⟩ := @moduleBalance_iff loadedSession last [textureAlloc 5#32]
    loadedSession_initial
  have run := Run.single (show (moduleSystem.guarded fun session event =>
    event.InOrder session).step loadedSession (textureAlloc 5#32) last from
      ⟨order, possible, performed⟩)
  obtain ⟨balanced, safe⟩ := reached run
  exact ⟨last, runs.mpr run, balanced, allocs, (safe (.free 0 16) allocated).mp⟩

/-- A buffer that has been allocated and freed leaves its handle and its descriptor behind,
and one that could not be exported has none. -/
theorem moduleBalance_lost :
    (∃ last, Run moduleSystem loadedSession [textureAlloc 5#32, .free 0 16] last ∧
        last.allocs = 1 ∧ last.frees = 1 ∧ last.process.handles 16 ≠ none ∧
        last.process.fds 5#32 = some 9 ∧ last.handles = {16} ∧ last.fds = {5#32} ∧
        ¬ Balanced last) ∧
      ∃ last, Run moduleSystem loadedSession [textureAlloc (-1)] last ∧ last.allocs = 1 ∧
        last.handles = {16} ∧ last.fds = ∅ ∧ ¬ Balanced last := by
  have allocated (fd : Fd) (closed : loadedSession.process.fds fd = none) (other : fd ≠ 4#32)
      {next : ModuleSession} (performed : (textureAlloc fd).perform loadedSession = .ok next) :
      Run moduleSystem loadedSession [textureAlloc fd] next :=
    .single ⟨textureAlloc_possible closed other, performed⟩
  refine ⟨⟨_, (allocated 5#32 rfl (by decide) rfl).tail ⟨Finset.mem_insert_self .., rfl⟩, rfl, rfl,
    nofun, rfl, rfl, rfl, ?_⟩, ⟨_, allocated (-1) rfl (by decide) rfl, rfl, rfl, rfl, ?_⟩⟩
  · rintro ⟨handles, -, -⟩
    exact absurd handles (by decide)
  · rintro ⟨-, fds, -⟩
    exact absurd fds (by decide)

end GrallocGbmMesa.Gralloc4
