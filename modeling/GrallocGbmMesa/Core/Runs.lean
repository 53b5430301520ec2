import GrallocGbmMesa.Core.AllocateImport
import GrallocGbmMesa.Core.LockSafety
import GrallocGbmMesa.Core.Outcome
import GrallocGbmMesa.Lib.PartialMap

/-!
# Runs of the core library

Buffers are allocated, imported, locked and freed in any order, and in between the process
does what does not concern them.  In every state that is reached a registered handle is
live and has a live BO of its own, which represents a lock state.
-/

namespace GrallocGbmMesa.Core

open Checked TransitionSystem
open GrallocGbmMesa.Platform

/-! ## The system -/

/-- A call of the core library with what it returned, or what the process does otherwise. -/
inductive CoreEvent where
  | allocated (env : AllocEnv) (desc : GrallocBufferDesc) (ret : Int)
      (stored : Option (Word × Ptr))
  | imported (env : ImportEnv) (handle : Ptr) (ret : Int)
  | locked (event : LockEvent)
  | freed (errno : Int) (handle : Ptr) (ret : Int)
  | own

/-- The BO that is answered was not in use. -/
def BoFresh (answer : Option NewBo) (s : Process) : Prop :=
  ∀ new, answer = some new → s.bos new.bo = none

/-- The handle that is answered was not in use. -/
def HandleFresh (env : AllocEnv) (s : Process) : Prop :=
  env.newHandle ≠ 0 → s.handles env.newHandle = none

/-- Calls that act on a BO there is. -/
def OnBo : Call → Prop
  | .gbmBoDestroy _ | .gbmBoMap .. | .gbmBoUnmap .. => True
  | _ => False

/-- What leaves the registered buffers alone. -/
structure Elsewhere (s s' : Process) : Prop where
  registry : s'.gbmBoHandleMap = s.gbmBoHandleMap
  bos : s'.bos = s.bos
  handles : ∀ p, s.gbmBoHandleMap p ≠ none → s'.handles p = s.handles p
  calls : ∃ newer, s'.calls = newer ++ s.calls ∧ ∀ call ∈ newer, ¬ OnBo call

def coreSystem : System Process CoreEvent where
  initial s := Unused s ∧ s.calls = []
  step s event s' :=
    match event with
    | .allocated env desc ret stored => HandleFresh env s ∧ BoFresh env.newBo s ∧
        grallocAllocate env s desc = .ok (ret, stored, s')
    | .imported env handle ret => BoFresh env.newBo s ∧
        grallocGmBufferImport env s handle = .ok (ret, s')
    | .locked event => lockSystem.step s event s'
    | .freed errno handle ret => grallocGmBufferFree errno s handle = .ok (ret, s')
    | .own => Elsewhere s s'

/-- The descriptors that handles were allocated for. -/
def CoreEvent.creates (event : CoreEvent) (created : Ptr → Option GrallocBufferDesc) :
    Ptr → Option GrallocBufferDesc :=
  match event with
  | .allocated _ desc _ (some (_, handle)) => Function.update created handle (some desc)
  | .imported _ handle ret => if ret = 0 then Function.update created handle none else created
  | .freed _ handle _ => Function.update created handle none
  | .allocated _ _ _ none | .locked _ | .own => created

/-- The descriptor a handle was allocated for in a run, unless it has been freed since. -/
def createdFor (labels : List CoreEvent) : Ptr → Option GrallocBufferDesc :=
  labels.foldl (fun created event => event.creates created) fun _ => none

theorem createdFor_append (labels : List CoreEvent) (event : CoreEvent) :
    createdFor (labels ++ [event]) = event.creates (createdFor labels) := by
  unfold createdFor
  rw [List.foldl_append]
  rfl

/-! ## What a step does to the buffers -/

/-- A buffer joins those that are registered. -/
structure Joins (s s' : Process) (handle p : Ptr) (bo : GbmBo) (native : NativeHandle) :
    Prop where
  nonNull : handle ≠ 0
  registry : s'.gbmBoHandleMap = Function.update s.gbmBoHandleMap handle (some p)
  bos : s'.bos = Function.update s.bos p (some bo)
  handles : s'.handles = Function.update s.handles handle (some native)
  fresh : s.bos p = none
  unlocked : bo.userData = none
  unmapped : bo.mappings = []
  covers : native.Covers

theorem SameBuffers.trans {s s' s'' : Process} (h : SameBuffers s s') (h' : SameBuffers s' s'') :
    SameBuffers s s'' where
  registry := h'.registry.trans h.registry
  bos := h'.bos.trans h.bos
  handles := h'.handles.trans h.handles
  made p := (h'.made p).trans (h.made p)
  released p := (h'.released p).trans (h.released p)

/-- A device comes without buffers and without mappings. -/
theorem SameBuffers.device (created : Ptr) (s : Process) (fd : Fd) :
    SameBuffers s (grallocGbmDeviceCreate created s fd).2.2 := by
  obtain ⟨registry, bos⟩ := grallocGbmDeviceCreate_buffers created s fd
  have handles := grallocGbmDeviceCreate_handles created s fd
  rcases grallocGbmDeviceCreate_calls created s fd with quiet | made
  · exact ⟨registry, bos, handles, fun _ => by rw [quiet], fun _ => by rw [quiet]⟩
  · have logged : SameBuffers s (s.log (.gbmCreateDevice fd)) :=
      (SameBuffers.refl s).log (fun _ => rfl) fun _ => rfl
    exact ⟨registry, bos, handles, fun p => by rw [made]; exact logged.made p,
      fun p => by rw [made]; exact logged.released p⟩

/-- An allocation changes no buffer, or adds one. -/
theorem grallocAllocate_joins {env : AllocEnv} {s s' : Process} {desc : GrallocBufferDesc}
    {ret : Int} {stored : Option (Word × Ptr)} (fresh : HandleFresh env s)
    (freshBo : BoFresh env.newBo s) (free : ∀ p, s.handles p = none → s.gbmBoHandleMap p = none)
    (h : grallocAllocate env s desc = .ok (ret, stored, s')) :
    (stored = none ∧ SameBuffers s s') ∨
      ∃ new, env.newBo = some new ∧ ret = 0 ∧ stored = some (new.stride, env.newHandle) ∧
        Joins s s' env.newHandle new.bo (createdBo env new (createArgs (createdHandle env desc)))
          (allocatedHandle env new desc).native := by
  have device : SameBuffers s (deviceProcess env s) := .device env.createdDevice s s.gbmDevFd
  cases grallocAllocate_returns h with
  | refused denied => exact .inl ⟨rfl, device⟩
  | noBo asks answer =>
      obtain ⟨registry, bos, handles, -⟩ := noBo_frame (fresh asks.handle) desc
      have asked : SameBuffers s ((deviceProcess env s).log (.gbmBoCreate (allocDevice env s)
          (createArgs (createdHandle env desc)))) :=
        device.log (fun _ => rfl) fun _ => rfl
      exact .inl ⟨rfl, registry, bos, handles, asked.made, asked.released⟩
  | made asks answer =>
      refine .inr ⟨_, answer, rfl, rfl, asks.handle, ?_, rfl, rfl, freshBo _ answer, rfl, rfl,
        (GrallocHandle.native_wellFormed _).covers⟩
      unfold madeProcess
      rw [free _ (fresh asks.handle)]
      rfl

/-- So does an import. -/
theorem grallocGmBufferImport_joins {env : ImportEnv} {s s' : Process} {handle : Ptr} {ret : Int}
    (freshBo : BoFresh env.newBo s) (h : grallocGmBufferImport env s handle = .ok (ret, s')) :
    (ret ≠ 0 ∧ SameBuffers s s') ∨
      ret = 0 ∧ ∃ p bo native, Joins s s' handle p bo native ∧ s'.handles = s.handles := by
  have device : SameBuffers s (openedProcess env s) := .device env.createdDevice s s.gbmDevFd
  cases grallocGmBufferImport_returns h with
  | refused denied => exact .inl ⟨by decide, .refl s⟩
  | noBo failed => exact .inl ⟨failed, device⟩
  | asked failed => exact .inl ⟨failed, device.log (fun _ => rfl) fun _ => rfl⟩
  | imported nonNull registered placed answer layout =>
      refine .inr ⟨rfl, _, _, _, ⟨nonNull, rfl, rfl, ?_, freshBo _ answer, rfl, rfl,
        covers_of_importData layout⟩, device.handles⟩
      rw [← placed, Function.update_eq_self]
      exact device.handles

/-! ## The invariant -/

/-- The handle and the BO are those of an allocation for the descriptor. -/
def AllocatedFor (desc : GrallocBufferDesc) (native : NativeHandle) (bo : GbmBo) : Prop :=
  ∃ env new, native = (allocatedHandle env new desc).native ∧
    bo.width = (createArgs (createdHandle env desc)).width ∧
    bo.height = (createArgs (createdHandle env desc)).height

/-- A registered handle and its BO. -/
structure Registered (created : Option GrallocBufferDesc) (s : Process) (handle p : Ptr)
    (bo : GbmBo) (hold : Hold) (native : NativeHandle) : Prop where
  nonNull : handle ≠ 0
  live : s.bos p = some bo
  represents : Represents bo hold
  placed : s.handles handle = some native
  covers : native.Covers
  made : ∀ desc, created = some desc → AllocatedFor desc native bo

/-- Every registered handle has a BO of its own. -/
structure CoreInv (created : Ptr → Option GrallocBufferDesc) (s : Process) : Prop where
  distinct : ∀ handle handle' p, s.gbmBoHandleMap handle = some p →
    s.gbmBoHandleMap handle' = some p → handle = handle'
  holds : ∀ handle p, s.gbmBoHandleMap handle = some p →
    ∃ bo hold native, Registered (created handle) s handle p bo hold native

theorem Registered.congr {created created' : Option GrallocBufferDesc} {s s' : Process}
    {handle p : Ptr} {bo : GbmBo} {hold : Hold} {native : NativeHandle}
    (h : Registered created s handle p bo hold native) (bos : s'.bos p = s.bos p)
    (handles : s'.handles handle = s.handles handle)
    (same : ∀ desc, created' = some desc → created = some desc) :
    Registered created' s' handle p bo hold native where
  nonNull := h.nonNull
  live := bos.trans h.live
  represents := h.represents
  placed := handles.trans h.placed
  covers := h.covers
  made desc hdesc := h.made desc (same desc hdesc)

namespace CoreInv

variable {created : Ptr → Option GrallocBufferDesc} {s s' : Process}

theorem registryLive (inv : CoreInv created s) : RegistryLive s := by
  intro handle p registered dead
  obtain ⟨bo, hold, native, h⟩ := inv.holds handle p registered
  cases dead.symm.trans h.live

/-- What is not a live handle is not registered. -/
theorem unregistered (inv : CoreInv created s) {p : Ptr} (free : s.handles p = none) :
    s.gbmBoHandleMap p = none := by
  cases registered : s.gbmBoHandleMap p with
  | none => rfl
  | some q =>
      obtain ⟨bo, hold, native, h⟩ := inv.holds p q registered
      cases free.symm.trans h.placed

theorem elsewhere (inv : CoreInv created s) (same : Elsewhere s s') : CoreInv created s' := by
  refine ⟨?_, ?_⟩
  · rw [same.registry]
    exact inv.distinct
  · intro handle p registered
    rw [same.registry] at registered
    obtain ⟨bo, hold, native, h⟩ := inv.holds handle p registered
    refine ⟨bo, hold, native, h.congr (by rw [same.bos]) (same.handles handle ?_) fun _ => id⟩
    rw [registered]
    exact nofun

theorem same (inv : CoreInv created s) (same : SameBuffers s s') : CoreInv created s' := by
  refine ⟨?_, ?_⟩
  · rw [same.registry]
    exact inv.distinct
  · intro handle p registered
    rw [same.registry] at registered
    obtain ⟨bo, hold, native, h⟩ := inv.holds handle p registered
    exact ⟨bo, hold, native, h.congr (by rw [same.bos]) (by rw [same.handles]) fun _ => id⟩

/-- A new buffer is idle, and the others stay. -/
theorem joins (inv : CoreInv created s) {handle p : Ptr} {bo : GbmBo} {native : NativeHandle}
    (new : Joins s s' handle p bo native) {desc : Option GrallocBufferDesc}
    (made : ∀ given, desc = some given → AllocatedFor given native bo) :
    CoreInv (Function.update created handle desc) s' := by
  have old {other q : Ptr} (different : other ≠ handle)
      (registered : s'.gbmBoHandleMap other = some q) :
      s.gbmBoHandleMap other = some q ∧ q ≠ p := by
    rw [new.registry, Function.update_of_ne different] at registered
    refine ⟨registered, ?_⟩
    rintro rfl
    exact inv.registryLive other q registered new.fresh
  have own {q : Ptr} (registered : s'.gbmBoHandleMap handle = some q) : q = p := by
    rw [new.registry, Function.update_self] at registered
    exact (Option.some.inj registered).symm
  refine ⟨?_, ?_⟩
  · intro first second q hfirst hsecond
    by_cases left : first = handle
    · by_cases right : second = handle
      · exact left.trans right.symm
      · exact absurd (own (left ▸ hfirst)) (old right hsecond).2
    · by_cases right : second = handle
      · exact absurd (own (right ▸ hsecond)) (old left hfirst).2
      · exact inv.distinct first second q (old left hfirst).1 (old right hsecond).1
  · intro other q registered
    by_cases same : other = handle
    · subst same
      obtain rfl := own registered
      refine ⟨bo, .idle, native, new.nonNull, ?_, represents_idle new.unlocked new.unmapped, ?_,
        new.covers, ?_⟩
      · rw [new.bos, Function.update_self]
      · rw [new.handles, Function.update_self]
      · rw [Function.update_self]
        exact made
    · obtain ⟨before, different⟩ := old same registered
      obtain ⟨bo', hold, native', h⟩ := inv.holds other q before
      refine ⟨bo', hold, native', h.congr ?_ ?_ ?_⟩
      · rw [new.bos, Function.update_of_ne different]
      · rw [new.handles, Function.update_of_ne same]
      · rw [Function.update_of_ne same]
        exact fun _ => id

/-- One buffer is locked or unlocked, and the others stay. -/
theorem moves (inv : CoreInv created s) {handle p : Ptr} {bo bo' : GbmBo} {calls : List Call}
    {s₁ : Process} (same : SameBuffers s s₁) (registered : s.gbmBoHandleMap handle = some p)
    (live : s.bos p = some bo) (image : SameImage bo bo')
    (represents : ∀ hold, Represents bo hold → ∃ hold', Represents bo' hold') :
    CoreInv created (putBo s₁ p bo' calls) := by
  have registry : (putBo s₁ p bo' calls).gbmBoHandleMap = s.gbmBoHandleMap := same.registry
  refine ⟨?_, ?_⟩
  · rw [registry]
    exact inv.distinct
  · intro other q hregistered
    rw [registry] at hregistered
    obtain ⟨bo₀, hold, native, h⟩ := inv.holds other q hregistered
    have placed : (putBo s₁ p bo' calls).handles other = s.handles other :=
      congrFun same.handles other
    by_cases own : q = p
    · subst own
      cases live.symm.trans h.live
      obtain ⟨hold', after⟩ := represents hold h.represents
      refine ⟨bo', hold', native, h.nonNull, putBo_bos_self .., after, placed.trans h.placed,
        h.covers, ?_⟩
      intro desc hdesc
      obtain ⟨env, new, words, width, height⟩ := h.made desc hdesc
      exact ⟨env, new, words, image.1.trans width, image.2.1.trans height⟩
    · refine ⟨bo₀, hold, native, h.congr ?_ placed fun _ => id⟩
      rw [putBo_bos_of_ne own, same.bos]

theorem locked (inv : CoreInv created s) {call : LockCall} {ret : Int} {addr : Option Ptr}
    (answered : call.Answered) (step : BufferStep call s ret addr s') : CoreInv created s' := by
  cases step with
  | untouched failed same => exact inv.same same
  | locked hrequest same registered live hnative husage returns given =>
      refine inv.moves same registered live returns.sameImage fun hold represents => ?_
      rcases represents.lock (answered _ _ hrequest) returns with ⟨-, after⟩ | ⟨-, hold', -, after⟩
      · exact ⟨hold, after⟩
      · exact ⟨hold', after⟩
  | unlocked hrequest registered live returns =>
      exact inv.moves (.refl s) registered live returns.sameImage fun hold represents =>
        ⟨hold.unlock, (represents.unlock returns).1⟩

/-- A freed handle is not registered any more. -/
theorem freed (inv : CoreInv created s) {errno ret : Int} {handle : Ptr}
    (h : grallocGmBufferFree errno s handle = .ok (ret, s')) :
    CoreInv (Function.update created handle none) s' := by
  have fewer {other : Ptr} {desc : GrallocBufferDesc}
      (hdesc : Function.update created handle none other = some desc) :
      created other = some desc := PartialMap.eq_some_of_erased hdesc
  rcases grallocGmBufferFree_returns h with ⟨-, -, rfl⟩ | ⟨p, -, registered, -, -, -, rfl⟩
  · refine ⟨inv.distinct, fun other q hregistered => ?_⟩
    obtain ⟨bo, hold, native, h⟩ := inv.holds other q hregistered
    exact ⟨bo, hold, native, h.congr rfl rfl fun _ => fewer⟩
  · refine ⟨?_, ?_⟩
    · intro first second q hfirst hsecond
      exact inv.distinct first second q (PartialMap.eq_some_of_erased hfirst)
        (PartialMap.eq_some_of_erased hsecond)
    · intro other q hregistered
      have before : s.gbmBoHandleMap other = some q := PartialMap.eq_some_of_erased hregistered
      have different : q ≠ p := by
        rintro rfl
        obtain rfl := inv.distinct other handle q before registered
        exact absurd ((Function.update_self ..).symm.trans hregistered) nofun
      obtain ⟨bo, hold, native, h⟩ := inv.holds other q before
      exact ⟨bo, hold, native, h.congr (Function.update_of_ne different ..) rfl fun _ => fewer⟩

theorem step (inv : CoreInv created s) {event : CoreEvent} (hstep : coreSystem.step s event s') :
    CoreInv (event.creates created) s' := by
  cases event with
  | allocated env desc ret stored =>
      obtain ⟨fresh, freshBo, h⟩ := hstep
      rcases grallocAllocate_joins fresh freshBo (fun p => inv.unregistered) h with
        ⟨rfl, same⟩ | ⟨new, -, -, rfl, joined⟩
      · exact inv.same same
      · refine inv.joins joined fun given same => ?_
        cases same
        exact ⟨env, new, rfl, rfl, rfl⟩
  | imported env handle ret =>
      obtain ⟨freshBo, h⟩ := hstep
      unfold CoreEvent.creates
      rcases grallocGmBufferImport_joins freshBo h with
        ⟨failed, same⟩ | ⟨succeeded, p, bo, native, joined, -⟩
      · simp only [if_neg failed]
        exact inv.same same
      · simp only [if_pos succeeded]
        exact inv.joins joined nofun
  | locked event =>
      obtain ⟨answered, performed⟩ := hstep
      exact inv.locked answered (LockCall.perform_step inv.registryLive performed)
  | freed errno handle ret => exact inv.freed hstep
  | own => exact inv.elsewhere hstep

/-- The invariant holds along every run. -/
theorem of_run {first last : Process} {labels : List CoreEvent}
    (initial : coreSystem.initial first) (run : Run coreSystem first labels last) :
    CoreInv (createdFor labels) last := by
  refine run.history_invariant (fun history s => CoreInv (createdFor history) s) ?_ ?_
  · obtain ⟨⟨-, -, registry, -⟩, -⟩ := initial
    refine ⟨?_, ?_⟩ <;> rw [registry] <;> exact nofun
  · intro history s event s' inv hstep
    rw [createdFor_append]
    exact inv.step hstep

end CoreInv

/-! ## A buffer -/

/-- The process after the device has been opened and one buffer has been allocated. -/
def allocatedProcess (desc : GrallocBufferDesc) : Process :=
  madeProcess cursorEnv readyProcess { bo := 32, stride := 256#32, modifier := 0 } desc

def allocatedLabels (desc : GrallocBufferDesc) : List CoreEvent :=
  [.own, .allocated cursorEnv desc 0 (some (256#32, 16))]

/-- The process before its device has been opened. -/
def closedProcess : Process := { readyProcess with gbmDevFd := -1, gbmDev := 0 }

theorem closedProcess_initial : coreSystem.initial closedProcess := ⟨⟨rfl, rfl, rfl, rfl⟩, rfl⟩

theorem allocatedProcess_run (desc : GrallocBufferDesc) :
    Run coreSystem closedProcess (allocatedLabels desc) (allocatedProcess desc) := by
  have opened : coreSystem.step closedProcess .own readyProcess :=
    ⟨rfl, rfl, fun _ _ => rfl, [], rfl, nofun⟩
  have asks : AsksForBo cursorEnv readyProcess := by
    refine ⟨?_, ?_, .inr ?_⟩ <;> decide
  have made : coreSystem.step readyProcess (.allocated cursorEnv desc 0 (some (256#32, 16)))
      (allocatedProcess desc) :=
    ⟨fun _ => rfl, fun _ _ => rfl, grallocAllocate_made asks rfl desc⟩
  exact (Run.single opened).tail made

end GrallocGbmMesa.Core
