import GrallocGbmMesa.Mapper.Resources

/-!
# Raw handles

`importBuffer` gets its handle from another process and reads it through the
cast.  It never looks at the number of ints, the magic or the version, so which
handles it refuses is left to the format word and to `gbm_bo_import`.
-/

namespace GrallocGbmMesa.Mapper

open Checked TransitionSystem
open GrallocGbmMesa.Platform GrallocGbmMesa.Core

/-- The handle is a gralloc handle. -/
structure Genuine (raw : NativeHandle) : Prop where
  numFds : raw.numFds = grallocHandleNumFds
  numInts : grallocHandleNumInts ≤ raw.numInts
  magic : raw.magic = .ok grallocHandleMagic
  version : raw.version = .ok grallocHandleVersion

/-- The import reads nothing beyond the end of the handle, and refuses the
handle without a trace unless it is a gralloc handle. -/
def Validated (env : ImportBufferEnv) (m : MapperState) (raw : NativeHandle) : Prop :=
  ∃ error out m', importBuffer env m (some raw) = .ok (error, out, m') ∧
    (¬ Genuine raw → error ≠ .none ∧ out = none ∧
      m'.process.gbmBoHandleMap = m.process.gbmBoHandleMap ∧
      m'.process.fds = m.process.fds)

/-- Something other than the identity of the handle refuses it, before any word
beyond its end is read. -/
inductive RefusedAnyway (env : ImportBufferEnv) (m : MapperState) (raw : NativeHandle) : Prop where
  | uninitialized (h : ¬ m.mInitialized)
  | noFds (h : raw.numFds = 0)
  | cloneFailed (h : (nativeHandleClone env.clone m.process raw).1 = none)
  /-- the clone has more than five words and the sixth has no FourCC code -/
  | unknownFormat {p : Ptr} {fds : List Fd} {format : Word}
      (hclone : env.clone = some (p, fds))
      (hformat : NativeHandle.format { raw with fds } = .ok format)
      (h : grallocGmAndroidFormatToGbmFormat format = 0)
  | importFailed (long : raw.Covers) (h : env.gbm.newBo = none)

/-- A handle that carries descriptors has its first one in its first word. -/
theorem primeFd_of_carries {fds : List Fd} (ints : List Word) (h : fds.length ≠ 0) :
    ∃ fd ∈ fds, NativeHandle.primeFd { fds, ints } = .ok fd := by
  cases fds with
  | nil => exact absurd rfl h
  | cons fd rest => exact ⟨fd, List.mem_cons_self, NativeHandle.primeFd_eq rfl⟩

theorem covers_of_length {raw : NativeHandle} {fds : List Fd} (length : fds.length = raw.numFds) :
    NativeHandle.Covers { raw with fds } ↔ raw.Covers := by
  unfold NativeHandle.Covers
  change 11 ≤ fds.length + _ ↔ _
  rw [length]
  rfl

section Import

variable {env : ImportBufferEnv} {m : MapperState} {raw : NativeHandle}

/-- An import that fails leaves no trace of the handle. -/
theorem validated_of_error (can : CanImport m) (fresh : env.Fresh m.process)
    {error : AIMapperError} {out : Option Ptr} {m' : MapperState}
    (returns : importBuffer env m (some raw) = .ok (error, out, m')) (failed : error ≠ .none) :
    Validated env m raw := by
  rcases importBuffer_returns can fresh returns with
    ⟨-, noHandle, -, -, same⟩ | ⟨succeeded, -⟩
  · exact ⟨error, out, m', returns, fun _ => ⟨failed, noHandle, same.registry, same.fds⟩⟩
  · exact absurd succeeded failed

/-- A handle that is long enough is read inside its bounds. -/
theorem importBuffer_long (can : CanImport m) (fresh : env.Fresh m.process)
    (long : raw.Covers) : ∃ error out m', importBuffer env m (some raw) = .ok (error, out, m') := by
  refine importBuffer_defined can fresh ?_
  intro p fds initialized hclone length
  obtain ⟨ret, s', returns⟩ := (can.importer initialized fresh hclone raw).import_defined
    (cloned_handles ..) ((covers_of_length length).mpr long) env.gbm
  exact ⟨_, returns⟩

theorem Genuine.validated (can : CanImport m) (fresh : env.Fresh m.process) (h : Genuine raw) :
    Validated env m raw := by
  have long : raw.Covers := by
    unfold NativeHandle.Covers
    have ints := h.numInts
    rw [h.numFds]
    change 12 ≤ raw.numInts at ints
    change 11 ≤ 1 + raw.numInts
    omega
  obtain ⟨error, out, m', returns⟩ := importBuffer_long can fresh long
  exact ⟨error, out, m', returns, fun other => absurd h other⟩

theorem RefusedAnyway.validated (can : CanImport m) (fresh : env.Fresh m.process)
    (h : RefusedAnyway env m raw) : Validated env m raw := by
  by_cases uninitialized : ¬ m.mInitialized
  · exact validated_of_error can fresh (if_pos uninitialized) nofun
  by_cases empty : raw.numFds = 0
  · have returns : importBuffer env m (some raw) = .ok (.badBuffer, none, m) := by
      unfold importBuffer
      simp only [if_neg uninitialized, if_pos empty]
    exact validated_of_error can fresh returns nofun
  have initialized := not_not.mp uninitialized
  rcases nativeHandleClone_returns env.clone m.process raw with
    failed | ⟨p, fds, hclone, length, made⟩
  · have returns : importBuffer env m (some raw) = .ok (.noResources, none, m) := by
      unfold importBuffer
      simp only [if_neg uninitialized, if_neg empty, failed]
    exact validated_of_error can fresh returns nofun
  cases h with
  | uninitialized h => exact absurd h uninitialized
  | noFds h => exact absurd h empty
  | cloneFailed h =>
      rw [made] at h
      cases h
  | unknownFormat hclone' hformat unknown =>
      obtain ⟨rfl, rfl⟩ := Prod.mk.inj (Option.some.inj (hclone.symm.trans hclone'))
      obtain ⟨fd, -, hprime⟩ := primeFd_of_carries raw.ints (length ▸ empty)
      have stopped := (can.importer initialized fresh hclone raw).import_unknown
        (cloned_handles ..) hprime hformat unknown env.gbm
      have returns := importBuffer_cloned initialized empty made
      rw [stopped, ok_bind] at returns
      simp only [if_pos (show (-einval : Int) ≠ 0 by decide)] at returns
      rw [Process.handle_eq_ok.mpr (cloned_handles ..), ok_bind] at returns
      exact validated_of_error can fresh returns nofun
  | importFailed long h =>
      obtain ⟨error, out, m', returns⟩ := importBuffer_long can fresh long
      refine validated_of_error can fresh returns ?_
      rcases importBuffer_returns can fresh returns with
        ⟨failed, -⟩ | ⟨-, -, -, p, fds, new, data, calls, -, -, -, hnew, -⟩
      · exact failed
      · rw [h] at hnew
        cases hnew

theorem Validated.refused (can : CanImport m) (fresh : env.Fresh m.process)
    (h : Validated env m raw) (forged : ¬ Genuine raw) : RefusedAnyway env m raw := by
  obtain ⟨error, out, m', returns, refused⟩ := h
  by_cases uninitialized : ¬ m.mInitialized
  · exact .uninitialized uninitialized
  by_cases empty : raw.numFds = 0
  · exact .noFds empty
  have initialized := not_not.mp uninitialized
  rcases nativeHandleClone_returns env.clone m.process raw with
    failed | ⟨p, fds, hclone, length, made⟩
  · exact .cloneFailed (by rw [failed])
  rw [importBuffer_cloned initialized empty made] at returns
  obtain ⟨⟨ret, s'⟩, himport, returns⟩ := bind_eq_ok.mp returns
  have importer := can.importer initialized fresh hclone raw
  have placed := cloned_handles m.process p fds raw
  obtain ⟨fd, hfd, hprime⟩ := primeFd_of_carries raw.ints (length ▸ empty)
  have valid := ((fresh.fds p fds hclone).2 fd hfd).1
  have readable : ∃ format, NativeHandle.format { raw with fds } = .ok format := by
    have steps := himport
    rw [importer.import_eq placed] at steps
    unfold importBo at steps
    rw [hprime, ok_bind, if_neg (Int.not_lt.mpr valid)] at steps
    obtain ⟨format, hformat, -⟩ := bind_eq_ok.mp steps
    exact ⟨format, hformat⟩
  obtain ⟨format, hformat⟩ := readable
  by_cases unknown : grallocGmAndroidFormatToGbmFormat format = 0
  · exact .unknownFormat hclone hformat unknown
  obtain ⟨covers, succeeds⟩ :=
    importer.import_known placed hprime valid hformat unknown himport
  refine .importFailed ((covers_of_length length).mp covers) ?_
  by_contra created
  simp only [succeeds created, ne_eq, not_true, if_false] at returns
  cases returns
  exact (refused forged).1 rfl

/-- Exactly which handles are validated: gralloc handles, and those that
something else refuses before a word beyond their end is read. -/
theorem importBuffer_validated_iff (can : CanImport m) (fresh : env.Fresh m.process) :
    Validated env m raw ↔ Genuine raw ∨ RefusedAnyway env m raw := by
  constructor
  · intro validated
    by_cases genuine : Genuine raw
    · exact .inl genuine
    · exact .inr (validated.refused can fresh genuine)
  · rintro (genuine | refused)
    · exact genuine.validated can fresh
    · exact refused.validated can fresh

end Import

/-! ## Handles a client may pass -/

def clientImportEnv : ImportBufferEnv where
  clone := some (16, [8#32])
  gbm := { createdDevice := 0, newBo := some ⟨32, 256#32, 0⟩ }

theorem clientImportEnv_fresh : clientImportEnv.Fresh startedSession.mapper.process where
  handle := by
    rintro p fds ⟨⟩
    exact ⟨by decide, rfl⟩
  fds := by
    rintro p fds ⟨⟩
    refine ⟨List.nodup_singleton _, ?_⟩
    intro fd hmem
    rw [List.mem_singleton.mp hmem]
    exact ⟨by decide, rfl⟩
  bo := by
    rintro new ⟨⟩
    rfl

theorem startedSession_canImport : CanImport startedSession.mapper := by
  obtain ⟨imports, ledger, -⟩ := mapperSystem_ledger startedSession_initial .refl
  exact ledger.canImport

theorem importBuffer_validated_iff_client :
    Validated clientImportEnv startedSession.mapper clientHandle :=
  (importBuffer_validated_iff startedSession_canImport clientImportEnv_fresh).mpr
    (.inl ⟨rfl, by decide, rfl, rfl⟩)

/-- The client handle under another magic. -/
def forgedHandle : NativeHandle where
  fds := clientHandle.fds
  ints := 0 :: clientHandle.ints.tail

/-- A handle of one descriptor and no ints. -/
def bareHandle : NativeHandle where
  fds := clientHandle.fds
  ints := []

/-- The magic is not looked at, and the format of a bare handle is read beyond its end. -/
theorem importBuffer_unvalidated :
    Reachable mapperSystem startedSession ∧
      clientImportEnv.Fresh startedSession.mapper.process ∧
      ¬ Validated clientImportEnv startedSession.mapper forgedHandle ∧
      ¬ Validated clientImportEnv startedSession.mapper bareHandle := by
  refine ⟨⟨_, _, startedSession_initial, .refl⟩, clientImportEnv_fresh, ?_, ?_⟩
  · rintro ⟨error, out, m', returns, refused⟩
    have forged : ¬ Genuine forgedHandle := fun genuine => absurd genuine.magic (by decide)
    have accepted : startedSession.result (.importBuffer forgedHandle clientImportEnv) =
        some (.imported .none (some 16)) := by decide +kernel
    obtain ⟨m₁, performed⟩ := Session.result_eq_some.mp accepted
    obtain ⟨⟨error₁, out₁, m₂⟩, imported, same⟩ := bind_eq_ok.mp performed
    cases same
    cases imported.symm.trans returns
    exact (refused forged).1 rfl
  · rintro ⟨error, out, m', returns, -⟩
    have faulted : startedSession.result (.importBuffer bareHandle clientImportEnv) = none := by
      decide +kernel
    have performed : startedSession.result (.importBuffer bareHandle clientImportEnv) =
        some (.imported error out) :=
      Session.result_eq_some.mpr ⟨m', by unfold MapperCall.perform; simp only [returns]; rfl⟩
    exact nomatch faulted.symm.trans performed

end GrallocGbmMesa.Mapper
