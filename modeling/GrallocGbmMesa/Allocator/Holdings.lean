import GrallocGbmMesa.Lib.PartialMap
import GrallocGbmMesa.Allocator.Allocator
import GrallocGbmMesa.Core.Outcome

/-!
# What an allocation holds

Between the first attempt and the last release, the registry, the handle heap,
the BOs and the open files are those before the call overlaid with one entry for
each buffer held, and with the descriptors exported so far.
-/

namespace GrallocGbmMesa.Allocator

open Checked PartialMap
open GrallocGbmMesa.Platform GrallocGbmMesa.Core

/-- A buffer that has been allocated and not yet released. -/
structure Held where
  handle : Ptr
  native : GrallocHandle
  bo : Ptr
  gbmBo : GbmBo
  file : FileId

namespace Held

def registryEntry (buffer : Held) : Ptr × Ptr := (buffer.handle, buffer.bo)
def handleEntry (buffer : Held) : Ptr × NativeHandle := (buffer.handle, buffer.native.native)
def boEntry (buffer : Held) : Ptr × GbmBo := (buffer.bo, buffer.gbmBo)

/-- A BO that could not be exported has no descriptor. -/
def Unexported (buffer : Held) : Prop := buffer.native.primeFd.toInt < 0

instance (buffer : Held) : Decidable buffer.Unexported := inferInstanceAs (Decidable (_ < _))

def fdEntries (buffer : Held) : List (Fd × FileId) :=
  if buffer.Unexported then [] else [(buffer.native.primeFd, buffer.file)]

theorem fdEntries_exported {buffer : Held} (exported : ¬ buffer.Unexported) :
    buffer.fdEntries = [(buffer.native.primeFd, buffer.file)] := if_neg exported

theorem fdEntries_unexported {buffer : Held} (unexported : buffer.Unexported) :
    buffer.fdEntries = [] := if_pos unexported

end Held

/-- A process in which an allocator can allocate: it has a device, and what is
not a live handle is not a key of the registry. -/
structure CanAllocate (s : Process) : Prop where
  ready : DeviceReady s
  registry : ∀ p, s.handles p = none → s.gbmBoHandleMap p = none

/-- The registry, the handles and the BOs are those before with an entry for each buffer. -/
structure Buffers (base : Process) (held : List Held) (s : Process) : Prop where
  registry : Overlaid (held.map Held.registryEntry) base.gbmBoHandleMap s.gbmBoHandleMap
  handles : Overlaid (held.map Held.handleEntry) base.handles s.handles
  bos : Overlaid (held.map Held.boEntry) base.bos s.bos
  nonNull : ∀ buffer ∈ held, buffer.handle ≠ 0
  gbmDevFd : s.gbmDevFd = base.gbmDevFd
  gbmDev : s.gbmDev = base.gbmDev
  devices : s.devices = base.devices

/-- The open files are those before with the descriptors of the buffers and those exported. -/
structure Holdings (base : Process) (held : List Held) (exported : List (Fd × FileId))
    (s : Process) : Prop extends Buffers base held s where
  fds : Overlaid (held.flatMap Held.fdEntries ++ exported) base.fds s.fds
  closed : ∀ buffer ∈ held, buffer.Unexported → s.fds buffer.native.primeFd = none

/-- What an attempt is handed is not in use; `-1` is never an open descriptor. -/
structure AttemptNew (env : AllocEnv) (s : Process) : Prop where
  handle : env.newHandle ≠ 0 → s.handles env.newHandle = none
  bo : ∀ new, env.newBo = some new → s.bos new.bo = none
  fd : ∀ new, env.newBo = some new → s.fds env.exportedFd = none

/-- Besides, every BO can be exported, and there is an error number when there is none. -/
structure AttemptFresh (env : AllocEnv) (s : Process) : Prop extends AttemptNew env s where
  exported : ∀ new, env.newBo = some new → 0 ≤ env.exportedFd.toInt
  errno : env.newBo = none → 0 < env.errno

/-! ## How an attempt ends -/

/-- There is no handle, or no BO and an error number that says so. -/
def Reported (env : AllocEnv) : Prop :=
  env.newHandle = 0 ∨ env.newBo = none ∧ env.errno ≠ 0

/-- There is no BO, and the error number does not say so. -/
def Unreported (env : AllocEnv) : Prop :=
  env.newHandle ≠ 0 ∧ env.newBo = none ∧ env.errno = 0

theorem Reported.not_unreported {env : AllocEnv} (h : Reported env) : ¬ Unreported env := by
  rintro ⟨nonNull, -, silent⟩
  rcases h with null | ⟨-, errno⟩
  · exact nonNull null
  · exact errno silent

theorem AttemptFresh.not_unreported {env : AllocEnv} {s : Process} (h : AttemptFresh env s) :
    ¬ Unreported env := by
  rintro ⟨-, none, silent⟩
  have positive := h.errno none
  omega

/-- The buffer an attempt allocates. -/
def allocated (env : AllocEnv) (new : NewBo) (desc : GrallocBufferDesc) : Held :=
  let args := createArgs (grallocHandleCreate env.memory desc.width desc.height
    desc.androidFormat desc.androidUsage)
  { handle := env.newHandle
    native := allocatedHandle env new desc
    bo := new.bo
    gbmBo :=
      { width := args.width
        height := args.height
        stride := new.stride
        modifier := new.modifier
        file := env.file
        userData := none
        mappings := [] }
    file := env.file }

namespace Buffers

variable {base s : Process} {held : List Held} {buffer : Held}

theorem unregistered (h : Buffers base held s) (can : CanAllocate base) {p : Ptr}
    (free : s.handles p = none) : s.gbmBoHandleMap p = none := by
  rw [h.handles.eq, overlay_eq_none] at free
  rw [h.registry.eq, overlay_eq_none]
  refine ⟨?_, can.registry p free.2⟩
  have same : keys (held.map Held.registryEntry) = keys (held.map Held.handleEntry) := by
    simp [keys, Held.registryEntry, Held.handleEntry, Function.comp_def]
  rw [same]
  exact free.1

theorem ready (h : Buffers base held s) (can : CanAllocate base) : DeviceReady s := by
  unfold DeviceReady
  rw [h.gbmDevFd, h.gbmDev, h.devices]
  exact can.ready

/-- A state with the same resources but for the files holds the same buffers. -/
theorem congr {s' : Process} (h : Buffers base held s)
    (registry : s'.gbmBoHandleMap = s.gbmBoHandleMap) (handles : s'.handles = s.handles)
    (bos : s'.bos = s.bos) (gbmDevFd : s'.gbmDevFd = s.gbmDevFd) (gbmDev : s'.gbmDev = s.gbmDev)
    (devices : s'.devices = s.devices) : Buffers base held s' where
  registry := registry ▸ h.registry
  handles := handles ▸ h.handles
  bos := bos ▸ h.bos
  nonNull := h.nonNull
  gbmDevFd := gbmDevFd.trans h.gbmDevFd
  gbmDev := gbmDev.trans h.gbmDev
  devices := devices.trans h.devices

/-- A buffer with a new handle and a new BO joins the others. -/
theorem append {s' : Process} (h : Buffers base held s) (can : CanAllocate base)
    (buffer : Held) (nonNull : buffer.handle ≠ 0) (freshHandle : s.handles buffer.handle = none)
    (freshBo : s.bos buffer.bo = none)
    (registry : s'.gbmBoHandleMap =
      Function.update s.gbmBoHandleMap buffer.handle (some buffer.bo))
    (handles : s'.handles = Function.update s.handles buffer.handle (some buffer.native.native))
    (bos : s'.bos = Function.update s.bos buffer.bo (some buffer.gbmBo))
    (gbmDevFd : s'.gbmDevFd = s.gbmDevFd) (gbmDev : s'.gbmDev = s.gbmDev)
    (devices : s'.devices = s.devices) : Buffers base (held ++ [buffer]) s' where
  registry := by
    rw [registry, List.map_append]
    exact h.registry.store (h.unregistered can freshHandle) _
  handles := by
    rw [handles, List.map_append]
    exact h.handles.store freshHandle _
  bos := by
    rw [bos, List.map_append]
    exact h.bos.store freshBo _
  nonNull := by
    intro other hother
    rcases List.mem_append.mp hother with before | new
    · exact h.nonNull other before
    · rw [List.mem_singleton.mp new]
      exact nonNull
  gbmDevFd := gbmDevFd.trans h.gbmDevFd
  gbmDev := gbmDev.trans h.gbmDev
  devices := devices.trans h.devices

/-- The process after a buffer has been released. -/
theorem releaseHandle_eq (h : Buffers base (buffer :: held) s) (errno : Int) :
    GbmMesaAllocator.releaseHandle errno s buffer.handle = .ok
      { s with
        gbmBoHandleMap := Function.update s.gbmBoHandleMap buffer.handle none
        bos := Function.update s.bos buffer.bo none
        handles := Function.update s.handles buffer.handle none
        fds := Function.update s.fds buffer.native.primeFd none
        calls := .close buffer.native.primeFd :: .gbmBoDestroy buffer.bo :: s.calls } := by
  have nonNull := h.nonNull buffer List.mem_cons_self
  have registered : s.gbmBoHandleMap buffer.handle = some buffer.bo :=
    h.registry.of_mem List.mem_cons_self
  have live : s.bos buffer.bo = some buffer.gbmBo := h.bos.of_mem List.mem_cons_self
  have native : s.handles buffer.handle = some buffer.native.native :=
    h.handles.of_mem List.mem_cons_self
  unfold GbmMesaAllocator.releaseHandle
  rw [if_neg nonNull, grallocGmBufferFree_registered nonNull registered (by simp [live]) native
    buffer.native.native_wellFormed.covers errno, ok_bind]
  simp only [Process.handle, native]
  rfl

/-- A buffer that is released is gone. -/
theorem tail (h : Buffers base (buffer :: held) s) (fds : Fd → Option FileId)
    (calls : List Call) :
    Buffers base held
      { s with
        gbmBoHandleMap := Function.update s.gbmBoHandleMap buffer.handle none
        bos := Function.update s.bos buffer.bo none
        handles := Function.update s.handles buffer.handle none
        fds, calls } where
  registry := h.registry.erase_head
  handles := h.handles.erase_head
  bos := h.bos.erase_head
  nonNull := fun other hother => h.nonNull other (List.mem_cons_of_mem _ hother)
  gbmDevFd := h.gbmDevFd
  gbmDev := h.gbmDev
  devices := h.devices

theorem release (h : Buffers base (buffer :: held) s) (errno : Int) :
    ∃ s', GbmMesaAllocator.releaseHandle errno s buffer.handle = .ok s' ∧ Buffers base held s' :=
  ⟨_, h.releaseHandle_eq errno, h.tail _ _⟩

end Buffers

namespace Holdings

variable {base s : Process} {held : List Held} {exported : List (Fd × FileId)} {buffer : Held}

theorem refl (s : Process) : Holdings s [] [] s :=
  ⟨⟨.refl _, .refl _, .refl _, nofun, rfl, rfl, rfl⟩, .refl _, nofun⟩

/-- Nothing is left of a base once nothing is held. -/
theorem released (h : Holdings base [] exported s) :
    s.gbmBoHandleMap = base.gbmBoHandleMap ∧ s.handles = base.handles ∧ s.bos = base.bos ∧
      Overlaid exported base.fds s.fds :=
  ⟨h.registry.eq_base, h.handles.eq_base, h.bos.eq_base, h.fds⟩

/-- What is left of a request that holds nothing is what there was before. -/
theorem sameResources (h : Holdings base [] [] s) : SameResources base s := by
  obtain ⟨registry, handles, bos, fds⟩ := h.released
  exact ⟨registry, bos, handles, fds.eq_base, h.gbmDevFd, h.gbmDev, h.devices⟩

/-- A state with the same resources holds the same buffers. -/
theorem congr {s' : Process} (h : Holdings base held exported s) (same : SameResources s s') :
    Holdings base held exported s' where
  toBuffers := h.toBuffers.congr same.registry same.handles same.bos same.gbmDevFd same.gbmDev
    same.devices
  fds := same.fds ▸ h.fds
  closed := same.fds ▸ h.closed

/-- A descriptor that is opened leaves the descriptors of the buffers alone. -/
theorem openFd (h : Holdings base held exported s) {fd : Fd} (valid : ¬ fd.toInt < 0)
    (free : s.fds fd = none) (file : FileId) :
    Holdings base held (exported ++ [(fd, file)]) (s.openFd fd file) where
  toBuffers := h.toBuffers.congr rfl rfl rfl rfl rfl rfl
  fds := by
    rw [← List.append_assoc]
    exact h.fds.store free file
  closed := by
    intro other hother unexported
    have different : other.native.primeFd ≠ fd := fun same => valid (same ▸ unexported)
    exact (Function.update_of_ne different ..).trans (h.closed other hother unexported)

/-- A buffer whose BO has been exported, or has not, joins the others. -/
theorem append {s' : Process} (h : Holdings base held [] s)
    (joined : Buffers base (held ++ [buffer]) s') (freshFd : s.fds buffer.native.primeFd = none)
    (fds : s'.fds = if buffer.Unexported then s.fds
      else Function.update s.fds buffer.native.primeFd (some buffer.file)) :
    Holdings base (held ++ [buffer]) [] s' := by
  by_cases unexported : buffer.Unexported
  · rw [if_pos unexported] at fds
    refine ⟨joined, ?_, ?_⟩
    · rw [fds, List.flatMap_append, List.flatMap_singleton, Held.fdEntries_unexported unexported,
        List.append_nil]
      exact h.fds
    · rw [fds]
      simp only [List.forall_mem_append, List.forall_mem_singleton]
      exact ⟨h.closed, fun _ => freshFd⟩
  · rw [if_neg unexported] at fds
    have opened := h.openFd unexported freshFd buffer.file
    refine ⟨joined, ?_, ?_⟩
    · have entries := opened.fds
      rw [fds, List.flatMap_append, List.flatMap_singleton, Held.fdEntries_exported unexported,
        List.append_nil]
      exact entries
    · rw [fds]
      simp only [List.forall_mem_append, List.forall_mem_singleton]
      exact ⟨opened.closed, fun other => absurd other unexported⟩

/-! ## Allocating -/

/-- An attempt adds its buffer, or leaves the resources alone and says so or not. -/
theorem grallocAllocate (h : Holdings base held [] s) (can : CanAllocate base) {env : AllocEnv}
    (fresh : AttemptNew env s) (desc : GrallocBufferDesc) :
    (∃ ret s', Core.grallocAllocate env s desc = .ok (ret, none, s') ∧
        (ret ≠ 0 ∧ Reported env ∨ ret = 0 ∧ Unreported env) ∧ Holdings base held [] s') ∨
      ∃ new s', Core.grallocAllocate env s desc = .ok (0, some (new.stride, env.newHandle), s') ∧
        env.newHandle ≠ 0 ∧ env.newBo = some new ∧
        Holdings base (held ++ [allocated env new desc]) [] s' := by
  by_cases noHandle : env.newHandle = 0
  · have same : deviceProcess env s = s := by
      rw [deviceProcess, grallocGbmDeviceCreate_ready (h.ready can)]
    exact .inl ⟨-einval, _, grallocAllocate_refused (.inr noHandle) desc,
      .inl ⟨by decide, .inl noHandle⟩, same.symm ▸ h⟩
  have freshHandle := fresh.handle noHandle
  obtain ⟨asks, same⟩ := AsksForBo.of_ready (h.ready can) noHandle
  cases answer : env.newBo with
  | none =>
      have resources := noBo_same freshHandle desc
      rw [same] at resources
      refine .inl ⟨-env.errno, _, grallocAllocate_noBo asks answer desc, ?_, h.congr resources⟩
      by_cases silent : env.errno = 0
      · exact .inr ⟨by omega, noHandle, answer, silent⟩
      · exact .inl ⟨by omega, .inr ⟨answer, silent⟩⟩
  | some new =>
      refine .inr ⟨new, _, grallocAllocate_made asks answer desc, noHandle, rfl, ?_⟩
      unfold madeProcess
      rw [same, h.unregistered can freshHandle]
      exact h.append (h.toBuffers.append can (allocated env new desc) noHandle freshHandle
        (fresh.bo new answer) rfl rfl rfl rfl rfl rfl) (fresh.fd new answer) rfl

/-! ## Releasing and exporting -/

/-- A release takes the first buffer away. -/
theorem release (h : Holdings base (buffer :: held) exported s) (errno : Int) :
    ∃ s', GbmMesaAllocator.releaseHandle errno s buffer.handle = .ok s' ∧
      Holdings base held exported s' := by
  refine ⟨_, h.releaseHandle_eq errno, h.toBuffers.tail _ _, ?_, ?_⟩
  · have opened := h.fds
    rw [List.flatMap_cons] at opened
    by_cases unexported : buffer.Unexported
    · have closed := h.closed buffer List.mem_cons_self unexported
      rw [Held.fdEntries_unexported unexported, List.nil_append] at opened
      have kept : Function.update s.fds buffer.native.primeFd none = s.fds := by
        rw [Function.update_eq_self_iff, closed]
      exact kept.symm ▸ opened
    · rw [Held.fdEntries_exported unexported] at opened
      exact opened.erase_head
  · intro other hother unexported
    change Function.update s.fds buffer.native.primeFd none other.native.primeFd = none
    by_cases same : other.native.primeFd = buffer.native.primeFd
    · rw [same, Function.update_self]
    · rw [Function.update_of_ne same]
      exact h.closed other (List.mem_cons_of_mem _ hother) unexported

/-- Releasing every buffer leaves what has been exported. -/
theorem releaseAll (h : Holdings base held exported s) (errno : Int) :
    ∃ s', (held.map Held.handle).foldlM (GbmMesaAllocator.releaseHandle errno) s = .ok s' ∧
      Holdings base [] exported s' := by
  let holds (handles : List Ptr) (s : Process) : Prop :=
    ∃ held, held.map Held.handle = handles ∧ Holdings base held exported s
  have body : ∀ handle rest s, holds (handle :: rest) s →
      ∃ s', GbmMesaAllocator.releaseHandle errno s handle = .ok s' ∧ holds rest s' := by
    rintro handle rest s ⟨held, handles, h⟩
    obtain ⟨buffer, others, rfl, rfl, rfl⟩ := List.map_eq_cons_iff.mp handles
    obtain ⟨s', released, kept⟩ := h.release errno
    exact ⟨s', released, others, rfl, kept⟩
  obtain ⟨s', released, none, noHandles, kept⟩ :=
    foldlM_drains body (held.map Held.handle) s ⟨held, rfl, h⟩
  rw [List.map_eq_nil_iff.mp noHandles] at kept
  exact ⟨s', released, kept⟩

/-- A duplicate of the descriptor of a buffer is exported. -/
theorem dup (h : Holdings base (buffer :: held) exported s) (present : ¬ buffer.Unexported)
    {fd : Fd} (valid : 0 ≤ fd.toInt) (free : s.fds fd = none) :
    GbmMesaAllocator.dupToAidl [fd] s buffer.native.native =
        ({ fds := [fd], ints := buffer.native.native.ints }, s.openFd fd buffer.file) ∧
      Holdings base (buffer :: held) (exported ++ [(fd, buffer.file)])
        (s.openFd fd buffer.file) := by
  have opened : s.fds buffer.native.primeFd = some buffer.file := by
    refine h.fds.of_mem ?_
    rw [List.flatMap_cons, Held.fdEntries_exported present]
    exact List.mem_cons_self
  refine ⟨?_, h.openFd (Int.not_lt.mpr valid) free buffer.file⟩
  have answered : s.fcntlDupfd buffer.native.primeFd fd = (fd, s.openFd fd buffer.file) := by
    unfold Process.fcntlDupfd
    simp only [opened, if_neg (Int.not_lt.mpr valid)]
  simp only [GbmMesaAllocator.dupToAidl, GrallocHandle.native, GbmMesaAllocator.dupFds,
    List.headD_cons, answered]

/-- An export hands out a descriptor of the buffer and releases the buffer. -/
theorem exportHandle (h : Holdings base (buffer :: held) exported s)
    (present : ¬ buffer.Unexported) {fd : Fd} (valid : 0 ≤ fd.toInt) (free : s.fds fd = none)
    (errno : Int) :
    ∃ s', GbmMesaAllocator.exportHandle [fd] errno GbmMesaAllocator.emptyHandle s buffer.handle =
        .ok ({ fds := [fd], ints := buffer.native.native.ints }, s') ∧
      Holdings base held (exported ++ [(fd, buffer.file)]) s' := by
  obtain ⟨duplicated, kept⟩ := h.dup present valid free
  obtain ⟨s', released, rest⟩ := kept.release errno
  have native : s.handles buffer.handle = some buffer.native.native :=
    h.handles.of_mem List.mem_cons_self
  refine ⟨s', ?_, rest⟩
  unfold GbmMesaAllocator.exportHandle
  rw [if_neg (h.nonNull buffer List.mem_cons_self), Process.handle_eq_ok.mpr native, ok_bind,
    duplicated]
  change (GbmMesaAllocator.releaseHandle errno (s.openFd fd buffer.file) buffer.handle >>= _) = _
  rw [released]
  rfl

end Holdings

end GrallocGbmMesa.Allocator
