import Mathlib.Data.List.Nodup
import GrallocGbmMesa.Lib.PartialMap
import GrallocGbmMesa.Mapper.Session

/-!
# The ledger of a session

Everything a session has added to its process belongs to one of the buffers
imported and not yet freed.  The registry, the handle heap and the open files
are the initial ones overlaid with one entry for each such buffer.
-/

namespace GrallocGbmMesa.Mapper

open Checked PartialMap TransitionSystem
open GrallocGbmMesa.Platform GrallocGbmMesa.Core

/-- One imported buffer and what it owns. -/
structure Import where
  handle : Ptr
  ints : List Word
  primeFd : Fd
  file : FileId
  bo : Ptr

namespace Import

def native (entry : Import) : NativeHandle := { fds := [entry.primeFd], ints := entry.ints }

def registryEntry (entry : Import) : Ptr × Ptr := (entry.handle, entry.bo)
def handleEntry (entry : Import) : Ptr × NativeHandle := (entry.handle, entry.native)
def fdEntry (entry : Import) : Fd × FileId := (entry.primeFd, entry.file)

/-- What was free in the initial process, and is well formed. -/
structure Valid (base : Process) (entry : Import) : Prop where
  nonNull : entry.handle ≠ 0
  freshHandle : base.handles entry.handle = none
  freshFd : base.fds entry.primeFd = none
  ints : entry.ints.length = grallocHandleNumInts

theorem Valid.wellFormed {base : Process} {entry : Import} (h : entry.Valid base) :
    entry.native.WellFormed := ⟨rfl, h.ints⟩

end Import

structure Ledger (base : Process) (imports : List Import) (m : MapperState) : Prop where
  registry : m.process.gbmBoHandleMap = overlay (imports.map Import.registryEntry) fun _ => none
  handles : m.process.handles = overlay (imports.map Import.handleEntry) base.handles
  fds : m.process.fds = overlay (imports.map Import.fdEntry) base.fds
  bos : ∀ p, m.process.bos p ≠ none ↔ p ∈ imports.map Import.bo
  locks : ∀ p bo, m.process.bos p = some bo → ∃ hold, Represents bo hold
  metadata : ∀ fd, m.metadataMap fd ≠ none → fd ∈ imports.map Import.primeFd
  distinctHandles : (imports.map Import.handle).Nodup
  distinctFds : (imports.map Import.primeFd).Nodup
  distinctBos : (imports.map Import.bo).Nodup
  valid : ∀ entry ∈ imports, entry.Valid base
  ready : m.mInitialized → DeviceReady m.process
  initialized : ∀ entry ∈ imports, m.mInitialized = true

namespace Ledger

variable {base : Process} {imports : List Import} {m : MapperState}

theorem keys_registry (imports : List Import) :
    keys (imports.map Import.registryEntry) = imports.map Import.handle := by
  simp [keys, Import.registryEntry, Function.comp_def]

theorem keys_handles (imports : List Import) :
    keys (imports.map Import.handleEntry) = imports.map Import.handle := by
  simp [keys, Import.handleEntry, Function.comp_def]

theorem keys_fds (imports : List Import) :
    keys (imports.map Import.fdEntry) = imports.map Import.primeFd := by
  simp [keys, Import.fdEntry, Function.comp_def]

/-! ## Looking up one buffer -/

section Lookup

variable (h : Ledger base imports m) {entry : Import} (hmem : entry ∈ imports)
include h hmem

theorem registered : m.process.gbmBoHandleMap entry.handle = some entry.bo := by
  rw [h.registry]
  exact overlay_of_mem (by rw [keys_registry]; exact h.distinctHandles) _
    (List.mem_map_of_mem hmem)

theorem native : m.process.handles entry.handle = some entry.native := by
  rw [h.handles]
  exact overlay_of_mem (by rw [keys_handles]; exact h.distinctHandles) _
    (List.mem_map_of_mem hmem)

theorem opened : m.process.fds entry.primeFd = some entry.file := by
  rw [h.fds]
  exact overlay_of_mem (by rw [keys_fds]; exact h.distinctFds) _ (List.mem_map_of_mem hmem)

theorem live : m.process.bos entry.bo ≠ none := (h.bos _).mpr (List.mem_map_of_mem hmem)

end Lookup

/-- An address that is not a live handle is not a key of the registry. -/
theorem unregistered (h : Ledger base imports m) {p : Ptr} (free : m.process.handles p = none) :
    m.process.gbmBoHandleMap p = none := by
  rw [h.handles, overlay_eq_none, keys_handles] at free
  rw [h.registry, overlay_eq_none, keys_registry]
  exact ⟨free.1, rfl⟩

/-- Two buffers of a session that agree in one resource are one buffer. -/
theorem entry_eq {κ : Type*} {f : Import → κ} (distinct : (imports.map f).Nodup)
    {first second : Import} (hfirst : first ∈ imports) (hsecond : second ∈ imports)
    (same : f first = f second) : first = second :=
  List.inj_on_of_nodup_map distinct hfirst hsecond same

/-- The buffers other than one of them, told apart by any resource. -/
theorem others_eq {κ : Type*} [DecidableEq κ] {f : Import → κ}
    (distinctHandles : (imports.map Import.handle).Nodup) (distinct : (imports.map f).Nodup)
    {entry : Import} (hmem : entry ∈ imports) :
    imports.filter (fun other => other.handle ≠ entry.handle) =
      imports.filter (fun other => f other ≠ f entry) := by
  apply List.filter_congr
  intro other hother
  have same : other.handle = entry.handle ↔ f other = f entry := by
    constructor
    · intro h
      rw [entry_eq distinctHandles hother hmem h]
    · intro h
      rw [entry_eq distinct hother hmem h]
  simp [same]

/-! ## Steps -/

theorem of_sameResources (h : Ledger base imports m) {m' : MapperState}
    (initialized : m'.mInitialized = m.mInitialized) (metadata : m'.metadataMap = m.metadataMap)
    (same : SameResources m.process m'.process) : Ledger base imports m' where
  registry := by rw [same.registry, h.registry]
  handles := by rw [same.handles, h.handles]
  fds := by rw [same.fds, h.fds]
  bos := by rw [same.bos]; exact h.bos
  locks := by rw [same.bos]; exact h.locks
  metadata := by rw [metadata]; exact h.metadata
  distinctHandles := h.distinctHandles
  distinctFds := h.distinctFds
  distinctBos := h.distinctBos
  valid := h.valid
  ready := by
    rw [initialized, DeviceReady, same.gbmDevFd, same.gbmDev, same.devices]
    exact h.ready
  initialized entry hmem := initialized.trans (h.initialized entry hmem)

/-- Metadata may come and go as long as it belongs to a buffer of the session. -/
theorem of_metadata (h : Ledger base imports m) {metadataMap : Fd → Option GrallocMetadata}
    (owned : ∀ fd, metadataMap fd ≠ none → fd ∈ imports.map Import.primeFd) :
    Ledger base imports { m with metadataMap } :=
  { h with metadata := owned }

/-- A BO that changes is live and represents a lock state. -/
theorem of_putBo (h : Ledger base imports m) {p : Ptr} {bo bo' : GbmBo} {hold : Hold}
    {calls : List Call} (hlive : m.process.bos p = some bo) (represents : Represents bo' hold) :
    Ledger base imports { m with process := putBo m.process p bo' calls } where
  registry := h.registry
  handles := h.handles
  fds := h.fds
  bos q := by
    rw [← h.bos q]
    by_cases same : q = p
    · subst same
      simp [hlive]
    · simp [same]
  locks q bo₁ hbo := by
    by_cases same : q = p
    · subst same
      rw [putBo_bos_self] at hbo
      cases hbo
      exact ⟨hold, represents⟩
    · rw [putBo_bos_of_ne same] at hbo
      exact h.locks q bo₁ hbo
  metadata := h.metadata
  distinctHandles := h.distinctHandles
  distinctFds := h.distinctFds
  distinctBos := h.distinctBos
  valid := h.valid
  ready := h.ready
  initialized := h.initialized

/-- An import adds one buffer. -/
theorem append (h : Ledger base imports m) {entry : Import} {bo : GbmBo} {calls : List Call}
    (initialized : m.mInitialized = true) (nonNull : entry.handle ≠ 0)
    (freshHandle : m.process.handles entry.handle = none)
    (freshFd : m.process.fds entry.primeFd = none) (freshBo : m.process.bos entry.bo = none)
    (ints : entry.ints.length = grallocHandleNumInts) (idle : Represents bo .idle) :
    Ledger base (imports ++ [entry])
      { m with
        process :=
          { (m.process.openFd entry.primeFd entry.file).placeHandle entry.handle entry.native with
            gbmBoHandleMap := Function.update m.process.gbmBoHandleMap entry.handle (some entry.bo)
            bos := Function.update m.process.bos entry.bo (some bo)
            calls := calls } } := by
  have unregistered := h.unregistered freshHandle
  have newHandle := freshHandle
  rw [h.handles, overlay_eq_none] at newHandle
  have newFd := freshFd
  rw [h.fds, overlay_eq_none] at newFd
  have newBo : entry.bo ∉ imports.map Import.bo := by
    rw [← h.bos]
    exact not_not_intro freshBo
  have grows {κ : Type} {f : Import → κ} (distinct : (imports.map f).Nodup)
      (new : f entry ∉ imports.map f) : ((imports ++ [entry]).map f).Nodup := by
    rw [List.map_append, List.nodup_append]
    refine ⟨distinct, List.nodup_singleton _, ?_⟩
    rintro value hvalue other hother rfl
    rw [List.map_singleton, List.mem_singleton] at hother
    exact new (hother ▸ hvalue)
  refine ⟨?_, ?_, ?_, ?_, ?_, ?_, ?_, ?_, ?_, ?_, h.ready, fun _ _ => initialized⟩
  · change Function.update m.process.gbmBoHandleMap entry.handle (some entry.bo) = _
    rw [h.registry, List.map_append]
    apply update_overlay
    rw [keys_registry, ← keys_handles]
    exact newHandle.1
  · change Function.update m.process.handles entry.handle (some entry.native) = _
    rw [h.handles, List.map_append]
    exact update_overlay _ _ newHandle.1
  · change Function.update m.process.fds entry.primeFd (some entry.file) = _
    rw [h.fds, List.map_append]
    exact update_overlay _ _ newFd.1
  · intro p
    change Function.update m.process.bos entry.bo (some bo) p ≠ none ↔ _
    rw [List.map_append, List.mem_append, ← h.bos p]
    by_cases same : p = entry.bo
    · simp [same]
    · simp [same]
  · intro p bo₁ hbo
    change Function.update m.process.bos entry.bo (some bo) p = some bo₁ at hbo
    by_cases same : p = entry.bo
    · subst same
      rw [Function.update_self] at hbo
      cases hbo
      exact ⟨.idle, idle⟩
    · rw [Function.update_of_ne same] at hbo
      exact h.locks p bo₁ hbo
  · intro fd stored
    rw [List.map_append]
    exact List.mem_append_left _ (h.metadata fd stored)
  · exact grows h.distinctHandles (keys_handles imports ▸ newHandle.1)
  · exact grows h.distinctFds (keys_fds imports ▸ newFd.1)
  · exact grows h.distinctBos newBo
  · intro other hother
    rcases List.mem_append.mp hother with before | new
    · exact h.valid other before
    · cases List.mem_singleton.mp new
      exact ⟨nonNull, newHandle.2, newFd.2, ints⟩

/-- A free takes one buffer away. -/
theorem remove (h : Ledger base imports m) {entry : Import} (hmem : entry ∈ imports)
    {calls : List Call} :
    Ledger base (imports.filter fun other => other.handle ≠ entry.handle)
      { m with
        process :=
          { m.process with
            gbmBoHandleMap := Function.update m.process.gbmBoHandleMap entry.handle none
            bos := Function.update m.process.bos entry.bo none
            handles := Function.update m.process.handles entry.handle none
            fds := Function.update m.process.fds entry.primeFd none
            calls := calls }
        metadataMap := Function.update m.metadataMap entry.primeFd none } := by
  have valid := h.valid entry hmem
  have byFd := others_eq h.distinctHandles h.distinctFds hmem
  have byBo := others_eq h.distinctHandles h.distinctBos hmem
  have shrinks {κ : Type} {f : Import → κ} (distinct : (imports.map f).Nodup) :
      ((imports.filter fun other => other.handle ≠ entry.handle).map f).Nodup :=
    distinct.sublist (List.filter_sublist.map f)
  refine ⟨?_, ?_, ?_, ?_, ?_, ?_, ?_, ?_, ?_, ?_, h.ready, fun _ _ => h.initialized entry hmem⟩
  · change Function.update m.process.gbmBoHandleMap entry.handle none = _
    rw [h.registry, erase_overlay _ rfl, List.filter_map]
    rfl
  · change Function.update m.process.handles entry.handle none = _
    rw [h.handles, erase_overlay _ valid.freshHandle, List.filter_map]
    rfl
  · change Function.update m.process.fds entry.primeFd none = _
    rw [h.fds, erase_overlay _ valid.freshFd, List.filter_map, byFd]
    rfl
  · intro p
    change Function.update m.process.bos entry.bo none p ≠ none ↔ _
    rw [byBo]
    by_cases same : p = entry.bo
    · subst same
      simp
    · rw [Function.update_of_ne same, h.bos p]
      constructor
      · intro hp
        obtain ⟨other, hother, rfl⟩ := List.mem_map.mp hp
        exact List.mem_map_of_mem (List.mem_filter.mpr ⟨hother, by simpa using same⟩)
      · intro hp
        obtain ⟨other, hother, rfl⟩ := List.mem_map.mp hp
        exact List.mem_map_of_mem (List.mem_filter.mp hother).1
  · intro p bo hbo
    change Function.update m.process.bos entry.bo none p = some bo at hbo
    by_cases same : p = entry.bo
    · subst same
      rw [Function.update_self] at hbo
      cases hbo
    · rw [Function.update_of_ne same] at hbo
      exact h.locks p bo hbo
  · intro fd stored
    change Function.update m.metadataMap entry.primeFd none fd ≠ none at stored
    rw [byFd]
    by_cases same : fd = entry.primeFd
    · subst same
      rw [Function.update_self] at stored
      exact absurd rfl stored
    · rw [Function.update_of_ne same] at stored
      obtain ⟨other, hother, rfl⟩ := List.mem_map.mp (h.metadata fd stored)
      exact List.mem_map_of_mem (List.mem_filter.mpr ⟨hother, by simpa using same⟩)
  · exact shrinks h.distinctHandles
  · exact shrinks h.distinctFds
  · exact shrinks h.distinctBos
  · intro other hother
    exact h.valid other (List.mem_filter.mp hother).1

end Ledger

end GrallocGbmMesa.Mapper
