import GrallocGbmMesa.Mapper.ClientRuns

/-!
# Frees of what is not imported

`freeBuffer` drops the metadata of a handle before it knows whether the handle is
registered, and learns whether the free has failed from an error number that the
failing path does not set.
-/

namespace GrallocGbmMesa.Mapper

open Checked TransitionSystem
open GrallocGbmMesa.Platform GrallocGbmMesa.Core

/-- The registration of the handle, its BO, its descriptor with its metadata and the handle
itself are gone, the BO and the descriptor by one call each, and nothing else is. -/
def FreedExactly (m m' : MapperState) (buffer : Ptr) : Prop :=
  ∃ p fd, m.process.gbmBoHandleMap buffer = some p ∧ HasPrimeFd m.process buffer fd ∧ m' =
    { m with
      process :=
        { m.process with
          gbmBoHandleMap := Function.update m.process.gbmBoHandleMap buffer none
          bos := Function.update m.process.bos p none
          handles := Function.update m.process.handles buffer none
          fds := Function.update m.process.fds fd none
          calls := .close fd :: .gbmBoDestroy p :: m.process.calls }
      metadataMap := Function.update m.metadataMap fd none }

/-- The call returns, succeeds exactly on a registered handle, then frees it, and otherwise
changes nothing. -/
def FreesExactly (errno : Int) (m : MapperState) (buffer : Ptr) : Prop :=
  ∃ error m', freeBuffer errno m buffer = .ok (error, m') ∧
    (error = .none ↔ m.process.gbmBoHandleMap buffer ≠ none) ∧
    (error = .none → FreedExactly m m' buffer) ∧ (error ≠ .none → m' = m)

/-- The mapper is not initialised, or the handle is registered, or the error number is not 0
and there is no metadata for the descriptor of the handle. -/
def FreesExactlyWhen (errno : Int) (m : MapperState) (buffer : Ptr) : Prop :=
  ¬ m.mInitialized ∨ m.process.gbmBoHandleMap buffer ≠ none ∨
    (errno ≠ 0 ∧ ∀ fd, HasPrimeFd m.process buffer fd → m.metadataMap fd = none)

section Free

variable {m : MapperState} {buffer : Ptr} {native : NativeHandle} {fd : Fd} {errno : Int}

/-- A handle that is not registered loses its metadata, and itself if the error number is 0. -/
theorem freeBuffer_stray (initialized : m.mInitialized = true) (nonNull : buffer ≠ 0)
    (unregistered : m.process.gbmBoHandleMap buffer = none)
    (placed : m.process.handles buffer = some native) (prime : native.primeFd = .ok fd)
    (errno : Int) :
    freeBuffer errno m buffer = .ok (
      if errno = 0 then
        (.none, { m with
          process := (m.process.nativeHandleClose native).nativeHandleDelete buffer
          metadataMap := Function.update m.metadataMap fd none })
      else (.badBuffer, { m with metadataMap := Function.update m.metadataMap fd none })) := by
  have core := grallocGmBufferFree_unregistered (s := m.process) (.inr unregistered) errno
  have handle := Process.handle_eq_ok.mpr placed
  unfold freeBuffer
  rw [if_neg (not_not_intro initialized), if_neg nonNull, handle, ok_bind, prime, ok_bind]
  simp only [core, ok_bind]
  by_cases silent : errno = 0
  · rw [if_neg (by omega), if_pos silent, handle]
    rfl
  · rw [if_pos (by omega), if_neg silent]
    rfl

theorem freesExactly_uninitialized (off : ¬ m.mInitialized)
    (unregistered : m.process.gbmBoHandleMap buffer = none) : FreesExactly errno m buffer :=
  ⟨.noResources, m, if_pos off, iff_of_false nofun (not_not_intro unregistered), nofun,
    fun _ => rfl⟩

theorem freesExactly_registered {p : Ptr} (initialized : m.mInitialized = true)
    (nonNull : buffer ≠ 0) (registered : m.process.gbmBoHandleMap buffer = some p)
    (live : m.process.bos p ≠ none) (placed : m.process.handles buffer = some native)
    (covers : native.Covers) (single : native.fds = [fd]) : FreesExactly errno m buffer := by
  have returns := freeBuffer_registered initialized nonNull registered live placed covers single
    errno
  refine ⟨_, _, returns, iff_of_true rfl (by rw [registered]; exact nofun), fun _ => ?_, nofun⟩
  exact ⟨p, fd, registered, ⟨native, placed, NativeHandle.primeFd_eq single⟩, rfl⟩

theorem freesExactly_stray_iff (initialized : m.mInitialized = true) (nonNull : buffer ≠ 0)
    (unregistered : m.process.gbmBoHandleMap buffer = none)
    (placed : m.process.handles buffer = some native) (prime : native.primeFd = .ok fd) :
    FreesExactly errno m buffer ↔ errno ≠ 0 ∧ m.metadataMap fd = none := by
  have returns := freeBuffer_stray initialized nonNull unregistered placed prime errno
  constructor
  · rintro ⟨error, m', returns', succeeds, -, unchanged⟩
    have failed : error ≠ .none := fun none => succeeds.mp none unregistered
    have nonzero : errno ≠ 0 := by
      intro silent
      rw [returns, if_pos silent] at returns'
      cases returns'
      exact failed rfl
    rw [returns, if_neg nonzero] at returns'
    cases returns'
    have same := congrArg (fun m => m.metadataMap fd) (unchanged nofun)
    simp only [Function.update_self] at same
    exact ⟨nonzero, same.symm⟩
  · rintro ⟨nonzero, clean⟩
    have kept : Function.update m.metadataMap fd none = m.metadataMap := by
      rw [Function.update_eq_self_iff, clean]
    rw [if_neg nonzero, kept] at returns
    exact ⟨_, _, returns, iff_of_false nofun (not_not_intro unregistered), nofun, fun _ => rfl⟩

end Free

/-- In every state that a client reaches, a free of a well-formed handle is exact exactly under
its condition. -/
theorem freeBuffer_exact_iff {first last : Session} {labels : List ClientEvent}
    (initial : clientSystem.initial first) (run : Run clientSystem first labels last)
    {buffer : Ptr} {native : NativeHandle} (nonNull : buffer ≠ 0)
    (placed : last.mapper.process.handles buffer = some native) (wellFormed : native.WellFormed)
    (errno : Int) :
    FreesExactly errno last.mapper buffer ↔ FreesExactlyWhen errno last.mapper buffer := by
  obtain ⟨base, imports, ledger, held⟩ := Ledger.of_clientRun initial run
  have forgotten : Ledger base imports last.forget.mapper := ledger
  have unregistered (unheld : buffer ∉ last.outstanding) :
      last.mapper.process.gbmBoHandleMap buffer = none :=
    forgotten.unregistered_of_unheld held unheld
  obtain ⟨fd, single⟩ := List.length_eq_one_iff.mp wellFormed.1
  have prime := NativeHandle.primeFd_eq single
  unfold FreesExactlyWhen
  by_cases initialized : last.mapper.mInitialized = true
  · rw [or_iff_right (not_not_intro initialized)]
    by_cases hheld : buffer ∈ last.outstanding
    · rw [held] at hheld
      obtain ⟨entry, hmem, rfl⟩ := List.mem_map.mp hheld
      have registered : last.mapper.process.gbmBoHandleMap entry.handle = some entry.bo :=
        ledger.registered hmem
      refine iff_of_true ?_ (.inl (by rw [registered]; exact nofun))
      exact freesExactly_registered initialized nonNull registered (ledger.live hmem) placed
        wellFormed.covers single
    · have stray := unregistered hheld
      rw [or_iff_right (not_not_intro stray),
        freesExactly_stray_iff initialized nonNull stray placed prime]
      refine and_congr_right fun _ => ⟨?_, fun clean => clean fd ⟨native, placed, prime⟩⟩
      rintro clean fd' ⟨native', placed', prime'⟩
      cases placed.symm.trans placed'
      cases prime.symm.trans prime'
      exact clean
  · have unheld : buffer ∉ last.outstanding := by
      intro hheld
      rw [held] at hheld
      obtain ⟨entry, hmem, -⟩ := List.mem_map.mp hheld
      exact initialized (ledger.initialized entry hmem)
    exact iff_of_true (freesExactly_uninitialized initialized (unregistered unheld))
      (.inl initialized)

theorem freeBuffer_exact_iff_imported : FreesExactly 0 importedSession.mapper 16 := by
  have run := Run.single (clientStep_of_session importedSession_step)
  have placed : importedSession.mapper.process.handles 16 =
      some { clientHandle with fds := [8#32] } := by decide +kernel
  exact (freeBuffer_exact_iff startedSession_initial run (by decide) placed (by decide) 0).mpr
    (.inr (.inl (by decide +kernel)))

/-- A client with a buffer, and a raw handle with the same descriptor whose metadata is set. -/
def clashingSession : Session :=
  { importedSession with
    mapper :=
      { importedSession.mapper with
        process :=
          { importedSession.mapper.process with
            handles := Function.update importedSession.mapper.process.handles 24
              (some { clientHandle with fds := [8#32] }) } } }

def clashingWrite : MapperCall :=
  .setStandardMetadata 16 StandardMetadataType.dataspace.value [1#8, 2#8, 0#8, 0#8]

def clashingWritten : Session := clashingSession.next clashingWrite

theorem clashingWritten_reachable : Reachable clientSystem clashingWritten := by
  have imported : Reachable clientSystem importedSession :=
    ⟨_, _, startedSession_initial, .single (clientStep_of_session importedSession_step)⟩
  have only : importedSession.outstanding = [16] := by decide +kernel
  have shared : clientSystem.step importedSession .own clashingSession := by
    refine ⟨rfl, ⟨_, _, rfl⟩, ?_, fun _ _ _ _ => rfl⟩
    intro p hmem
    rw [only, List.mem_singleton] at hmem
    rw [hmem]
    rfl
  have written : clientSystem.step clashingSession (.call ⟨clashingWrite, .written .none⟩)
      clashingWritten := Session.next_clientStep trivial (by decide +kernel)
  exact (imported.step shared).step written

/-- A free of the raw handle is refused, but the metadata of the buffer is gone; or it succeeds,
and the descriptor of the buffer is closed. -/
theorem freeBuffer_inexact :
    Reachable clientSystem clashingWritten ∧
      clashingWritten.mapper.process.gbmBoHandleMap 24 = none ∧
      clashingWritten.result (.freeBuffer 24 22) = some (.freed .badBuffer) ∧
      (clashingWritten.next (.freeBuffer 24 22)).mapper.metadataMap 8#32 = none ∧
      ¬ FreesExactly 22 clashingWritten.mapper 24 ∧
      clashingWritten.result (.freeBuffer 24 0) = some (.freed .none) ∧
      (clashingWritten.next (.freeBuffer 24 0)).mapper.process.fds 8#32 = none ∧
      ¬ FreesExactly 0 clashingWritten.mapper 24 := by
  have placed : clashingWritten.mapper.process.handles 24 =
      some { clientHandle with fds := [8#32] } := by decide +kernel
  have unregistered : clashingWritten.mapper.process.gbmBoHandleMap 24 = none := by decide +kernel
  have inexact (errno : Int) : FreesExactly errno clashingWritten.mapper 24 ↔
      errno ≠ 0 ∧ clashingWritten.mapper.metadataMap 8#32 = none :=
    freesExactly_stray_iff (by decide +kernel) (by decide) unregistered placed rfl
  refine ⟨clashingWritten_reachable, unregistered, by decide +kernel, by decide +kernel, ?_,
    by decide +kernel, by decide +kernel, ?_⟩
  · rw [inexact]
    decide +kernel
  · rw [inexact]
    exact fun h => h.1 rfl

end GrallocGbmMesa.Mapper
