import GrallocGbmMesa.Mapper.Mapper

/-!
# What import and free leave behind

One specification for each of the two operations of the mapper that own
resources: an import of a gralloc handle either registers the clone and its BO
or leaves every resource as it was, and a free takes back what an import made.
-/

namespace GrallocGbmMesa.Mapper

open Checked
open GrallocGbmMesa.Platform GrallocGbmMesa.Core

/-- The platform hands out what is not in use: memory that is not a live handle,
descriptors that are not open, a BO that does not exist. -/
structure ImportBufferEnv.Fresh (env : ImportBufferEnv) (s : Process) : Prop where
  handle : ∀ p fds, env.clone = some (p, fds) → p ≠ 0 ∧ s.handles p = none
  fds : ∀ p fds, env.clone = some (p, fds) →
    fds.Nodup ∧ ∀ fd ∈ fds, 0 ≤ fd.toInt ∧ s.fds fd = none
  bo : ∀ new, env.gbm.newBo = some new → s.bos new.bo = none

/-! ## Clones -/

/-- The process after a clone. -/
def cloned (s : Process) (p : Ptr) (fds : List Fd) (raw : NativeHandle) : Process :=
  (openAll s (raw.fds.map fun fd => (s.fds fd).getD 0) fds).placeHandle p { raw with fds }

/-- A clone succeeds with as many descriptors as the original or does nothing. -/
theorem nativeHandleClone_returns (answer : Option (Ptr × List Fd)) (s : Process)
    (raw : NativeHandle) :
    nativeHandleClone answer s raw = (none, s) ∨
      ∃ p fds, answer = some (p, fds) ∧ fds.length = raw.numFds ∧
        nativeHandleClone answer s raw = (some p, cloned s p fds raw) := by
  unfold nativeHandleClone
  cases answer with
  | none => exact .inl rfl
  | some memory =>
      obtain ⟨p, fds⟩ := memory
      by_cases complete : (raw.fds.all fun fd => (s.fds fd).isSome) ∧ fds.length = raw.numFds
      · simp only [if_pos complete]
        exact .inr ⟨p, fds, rfl, complete.2, rfl⟩
      · exact .inl (if_neg complete)

/-- Opening files changes the table of open files only, and there only for them. -/
theorem openAll_eq (s : Process) (files : List FileId) (fds : List Fd) :
    ∃ table, openAll s files fds = { s with fds := table } ∧
      ∀ fd, fd ∉ fds → table fd = s.fds fd := by
  induction fds generalizing s files with
  | nil => exact ⟨s.fds, by simp [openAll], fun _ _ => rfl⟩
  | cons first rest ih =>
      cases files with
      | nil => exact ⟨s.fds, rfl, fun _ _ => rfl⟩
      | cons file files =>
          obtain ⟨table, opened, others⟩ := ih (s.openFd first file) files
          refine ⟨table, opened, ?_⟩
          intro fd hfd
          rw [List.mem_cons, not_or] at hfd
          rw [others fd hfd.2]
          exact Function.update_of_ne hfd.1 ..

/-- Closing the descriptors of a handle closes them and nothing else. -/
theorem nativeHandleClose_eq (s : Process) (handle : NativeHandle) :
    ∃ table calls, s.nativeHandleClose handle = { s with fds := table, calls := calls } ∧
      (∀ fd ∈ handle.fds, table fd = none) ∧ ∀ fd, fd ∉ handle.fds → table fd = s.fds fd := by
  obtain ⟨fds, ints⟩ := handle
  unfold Process.nativeHandleClose
  induction fds generalizing s with
  | nil => exact ⟨s.fds, s.calls, rfl, nofun, fun _ _ => rfl⟩
  | cons first rest ih =>
      obtain ⟨table, calls, closed, gone, others⟩ := ih (s.close first)
      refine ⟨table, calls, closed, ?_, ?_⟩
      · intro fd hfd
        by_cases inRest : fd ∈ rest
        · exact gone fd inRest
        · have same : fd = first := (List.mem_cons.mp hfd).resolve_right inRest
          rw [others fd inRest, same]
          exact Function.update_self ..
      · intro fd hfd
        rw [List.mem_cons, not_or] at hfd
        rw [others fd hfd.2]
        exact Function.update_of_ne hfd.1 ..

/-- Deleting a fresh clone and closing its descriptors undoes the clone. -/
theorem sameResources_of_clone {s s' : Process} {p : Ptr} {fds : List Fd} {raw : NativeHandle}
    (freshHandle : s.handles p = none) (freshFds : ∀ fd ∈ fds, s.fds fd = none)
    (h : SameResources (cloned s p fds raw) s') :
    SameResources s ((s'.nativeHandleClose { raw with fds }).nativeHandleDelete p) := by
  obtain ⟨opened, hopened, others⟩ :=
    openAll_eq s (raw.fds.map fun fd => (s.fds fd).getD 0) fds
  obtain ⟨closed, calls, hclosed, gone, left⟩ := nativeHandleClose_eq s' { raw with fds }
  unfold cloned at h
  rw [hopened] at h
  rw [hclosed]
  refine ⟨h.registry, h.bos, ?_, ?_, h.gbmDevFd, h.gbmDev, h.devices⟩
  · change Function.update s'.handles p none = s.handles
    rw [h.handles]
    change Function.update (Function.update s.handles p _) p none = _
    rw [Function.update_idem, ← freshHandle, Function.update_eq_self]
  · funext fd
    change closed fd = s.fds fd
    by_cases mine : fd ∈ fds
    · rw [gone fd mine, freshFds fd mine]
    · rw [left fd mine, h.fds]
      exact others fd mine

theorem cloned_registry (s : Process) (p : Ptr) (fds : List Fd) (raw : NativeHandle) :
    (cloned s p fds raw).gbmBoHandleMap = s.gbmBoHandleMap := by
  obtain ⟨table, opened, -⟩ := openAll_eq s (raw.fds.map fun fd => (s.fds fd).getD 0) fds
  unfold cloned
  rw [opened]
  rfl

theorem cloned_handles (s : Process) (p : Ptr) (fds : List Fd) (raw : NativeHandle) :
    (cloned s p fds raw).handles p = some { raw with fds } := Function.update_self ..

theorem DeviceReady.cloned {s : Process} (h : DeviceReady s) (p : Ptr) (fds : List Fd)
    (raw : NativeHandle) : DeviceReady (cloned s p fds raw) := by
  obtain ⟨table, opened, -⟩ := openAll_eq s (raw.fds.map fun fd => (s.fds fd).getD 0) fds
  unfold Mapper.cloned
  rw [opened]
  exact h

/-! ## Import -/

/-- A mapper that can import: its device works, and no address that is free is a
key of the registry. -/
structure CanImport (m : MapperState) : Prop where
  ready : m.mInitialized → DeviceReady m.process
  registry : ∀ p, m.process.handles p = none → m.process.gbmBoHandleMap p = none

/-- The clone can be imported. -/
theorem CanImport.importer {env : ImportBufferEnv} {m : MapperState} {p : Ptr} {fds : List Fd}
    (h : CanImport m) (initialized : m.mInitialized = true) (fresh : env.Fresh m.process)
    (hclone : env.clone = some (p, fds)) (raw : NativeHandle) :
    Importer (cloned m.process p fds raw) p where
  nonNull := (fresh.handle p fds hclone).1
  free := by rw [cloned_registry, h.registry p (fresh.handle p fds hclone).2]
  ready := DeviceReady.cloned (h.ready initialized) ..

/-- What `importBuffer` does with a clone. -/
theorem importBuffer_cloned {env : ImportBufferEnv} {m : MapperState} {raw : NativeHandle}
    {p : Ptr} {fds : List Fd} (initialized : m.mInitialized = true) (carries : raw.numFds ≠ 0)
    (made : nativeHandleClone env.clone m.process raw =
      (some p, cloned m.process p fds raw)) :
    importBuffer env m (some raw) = (do
      let (ret, s) ← grallocGmBufferImport env.gbm (cloned m.process p fds raw) p
      if ret ≠ 0 then
        let clone ← s.handle p
        let s := (s.nativeHandleClose clone).nativeHandleDelete p
        return (.noResources, none, { m with process := s })
      else return (.none, some p, { m with process := s })) := by
  unfold importBuffer
  rw [if_neg (not_not_intro initialized)]
  simp only [if_neg carries, made]

/-- An import either changes no resource, or registers a clone and its BO. -/
theorem importBuffer_returns {env : ImportBufferEnv} {m m' : MapperState} {raw : NativeHandle}
    {error : AIMapperError} {out : Option Ptr} (can : CanImport m) (fresh : env.Fresh m.process)
    (h : importBuffer env m (some raw) = .ok (error, out, m')) :
    (error ≠ .none ∧ out = none ∧ m'.mInitialized = m.mInitialized ∧
        m'.metadataMap = m.metadataMap ∧ SameResources m.process m'.process) ∨
      (error = .none ∧ m.mInitialized = true ∧ raw.numFds ≠ 0 ∧ ∃ p fds new data calls,
        out = some p ∧ env.clone = some (p, fds) ∧ fds.length = raw.numFds ∧
        env.gbm.newBo = some new ∧ m' =
          { m with
            process :=
              { cloned m.process p fds raw with
                gbmBoHandleMap := Function.update (cloned m.process p fds raw).gbmBoHandleMap p
                  (some new.bo)
                bos := Function.update (cloned m.process p fds raw).bos new.bo
                  (some (importedBo new data (cloned m.process p fds raw)))
                calls := calls } }) := by
  by_cases uninitialized : ¬ m.mInitialized
  · unfold importBuffer at h
    rw [if_pos uninitialized] at h
    cases h
    exact .inl ⟨nofun, rfl, rfl, rfl, .refl _⟩
  by_cases empty : raw.numFds = 0
  · unfold importBuffer at h
    rw [if_neg uninitialized] at h
    simp only [if_pos empty] at h
    cases h
    exact .inl ⟨nofun, rfl, rfl, rfl, .refl _⟩
  have initialized := not_not.mp uninitialized
  rcases nativeHandleClone_returns env.clone m.process raw with
    failed | ⟨p, fds, hclone, length, made⟩
  · unfold importBuffer at h
    rw [if_neg uninitialized] at h
    simp only [if_neg empty, failed] at h
    cases h
    exact .inl ⟨nofun, rfl, rfl, rfl, .refl _⟩
  rw [importBuffer_cloned initialized empty made] at h
  obtain ⟨⟨ret, s'⟩, himport, h⟩ := bind_eq_ok.mp h
  have placed := cloned_handles m.process p fds raw
  rcases (can.importer initialized fresh hclone raw).import_returns placed himport with
    ⟨failed, same⟩ | ⟨succeeded, new, data, calls, hnew, rfl⟩
  · simp only [if_pos failed] at h
    rw [Process.handle_eq_ok.mpr (same.handles ▸ placed), ok_bind] at h
    cases h
    exact .inl ⟨nofun, rfl, rfl, rfl, sameResources_of_clone (fresh.handle p fds hclone).2
      (fun fd hfd => ((fresh.fds p fds hclone).2 fd hfd).2) same⟩
  · simp only [succeeded, ne_eq, not_true, if_false] at h
    cases h
    exact .inr ⟨rfl, initialized, empty, p, fds, new, data, calls, rfl, hclone, length, hnew, rfl⟩

/-- An import returns unless the core library's does not. -/
theorem importBuffer_defined {env : ImportBufferEnv} {m : MapperState} {raw : NativeHandle}
    (can : CanImport m) (fresh : env.Fresh m.process)
    (returns : ∀ p fds, m.mInitialized = true → env.clone = some (p, fds) →
      fds.length = raw.numFds →
      Defined (grallocGmBufferImport env.gbm (cloned m.process p fds raw) p)) :
    ∃ error out m', importBuffer env m (some raw) = .ok (error, out, m') := by
  by_cases uninitialized : ¬ m.mInitialized
  · exact ⟨_, _, _, if_pos uninitialized⟩
  by_cases empty : raw.numFds = 0
  · unfold importBuffer
    simp only [if_neg uninitialized, if_pos empty]
    exact ⟨_, _, _, rfl⟩
  have initialized := not_not.mp uninitialized
  rcases nativeHandleClone_returns env.clone m.process raw with
    failed | ⟨p, fds, hclone, length, made⟩
  · unfold importBuffer
    simp only [if_neg uninitialized, if_neg empty, failed]
    exact ⟨_, _, _, rfl⟩
  rw [importBuffer_cloned initialized empty made]
  obtain ⟨⟨ret, s'⟩, himport⟩ := returns p fds initialized hclone length
  rw [himport, ok_bind]
  have placed := cloned_handles m.process p fds raw
  rcases (can.importer initialized fresh hclone raw).import_returns placed himport with
    ⟨failed, same⟩ | ⟨succeeded, -⟩
  · simp only [if_pos failed]
    rw [Process.handle_eq_ok.mpr (same.handles ▸ placed), ok_bind]
    exact ⟨_, _, _, rfl⟩
  · simp only [if_neg (not_not_intro succeeded)]
    exact ⟨_, _, _, rfl⟩

/-! ## Free -/

/-- A free of a registered handle with one descriptor. -/
theorem freeBuffer_registered {m : MapperState} {buffer p : Ptr} {native : NativeHandle} {fd : Fd}
    (initialized : m.mInitialized = true) (nonNull : buffer ≠ 0)
    (registered : m.process.gbmBoHandleMap buffer = some p) (live : m.process.bos p ≠ none)
    (hnative : m.process.handles buffer = some native) (covers : native.Covers)
    (single : native.fds = [fd]) (errno : Int) :
    freeBuffer errno m buffer = .ok (.none,
      { m with
        process :=
          { m.process with
            gbmBoHandleMap := Function.update m.process.gbmBoHandleMap buffer none
            bos := Function.update m.process.bos p none
            handles := Function.update m.process.handles buffer none
            fds := Function.update m.process.fds fd none
            calls := .close fd :: .gbmBoDestroy p :: m.process.calls }
        metadataMap := Function.update m.metadataMap fd none }) := by
  unfold freeBuffer
  rw [if_neg (not_not_intro initialized), if_neg nonNull]
  rw [Process.handle_eq_ok.mpr hnative, ok_bind, NativeHandle.primeFd_eq single, ok_bind]
  simp only [grallocGmBufferFree_registered nonNull registered live hnative covers, ok_bind,
    ne_eq, not_true, if_false, Process.handle, hnative, Process.nativeHandleClose,
    Process.nativeHandleDelete, single, Process.close, Process.log, List.foldl_cons,
    List.foldl_nil]
  rfl

end GrallocGbmMesa.Mapper
