import GrallocGbmMesa.Core.LockLocal

/-!
# Locks that give out planes

`gralloc_gbm_bo_lock_ycbcr` takes the lock first and looks at the format of the
handle afterwards.
-/

namespace GrallocGbmMesa.Core

open Checked
open GrallocGbmMesa.Platform

/-- The formats whose planes a lock gives out. -/
def ycbcrFormats : List Word := [halPixelFormatYCrCb420Sp, halPixelFormatYv12]

theorem ycbcrLayout_eq_none_iff (addr : Ptr) (format width height : Word) :
    ycbcrLayout addr format width height = none ↔ format ∉ ycbcrFormats := by
  unfold ycbcrLayout ycbcrFormats
  rw [List.mem_cons, List.mem_singleton, not_or]
  by_cases semiPlanar : format = halPixelFormatYCrCb420Sp
  · rw [if_pos semiPlanar]
    exact iff_of_false nofun fun h => h.1 semiPlanar
  rw [if_neg semiPlanar]
  by_cases planar : format = halPixelFormatYv12
  · rw [if_pos planar]
    exact iff_of_false nofun fun h => h.2 planar
  · rw [if_neg planar]
    exact iff_of_true rfl ⟨semiPlanar, planar⟩

/-- The words of a native handle that a lock reads. -/
structure Reads (native : NativeHandle) (handle : GrallocHandle) : Prop where
  usage : native.usage = .ok handle.usage
  format : native.format = .ok handle.format
  width : native.width = .ok handle.width
  height : native.height = .ok handle.height

theorem Reads.native (handle : GrallocHandle) : Reads handle.native handle := ⟨rfl, rfl, rfl, rfl⟩

theorem exists_reads {native : NativeHandle} (covers : native.Covers) :
    ∃ handle, Reads native handle := by
  obtain ⟨width, hwidth⟩ := covers.word (show 3 ≤ 10 by decide)
  obtain ⟨height, hheight⟩ := covers.word (show 4 ≤ 10 by decide)
  obtain ⟨format, hformat⟩ := covers.word (show 5 ≤ 10 by decide)
  obtain ⟨usage, husage⟩ := covers.word (show 6 ≤ 10 by decide)
  exact ⟨⟨0, 0, 0, width, height, format, usage, 0, 0, 0, 0⟩, husage, hformat, hwidth, hheight⟩

/-- What a lock of the planes makes of the result of the lock. -/
def ycbcrResult (handle : GrallocHandle) :
    Int × Option Ptr × Process → Int × Option AndroidYcbcr × Process
  | (err, addr, s) =>
      if err ≠ 0 then (err, none, s)
      else
        match ycbcrLayout (addr.getD 0) handle.format handle.width handle.height with
        | some ycbcr => (0, some ycbcr, s)
        | none => (-einval, none, s)

section Reads

variable {s s' : Process} {p : Ptr} {native : NativeHandle} {handle : GrallocHandle}

theorem grallocGbmBoLockYcbcr_eq (live : ∀ q, s.gbmBoHandleMap p = some q → s.bos q ≠ none)
    (placed : s.handles p = some native) (reads : Reads native handle) (answer : GbmMapResult)
    (usage : Word) :
    grallocGbmBoLockYcbcr answer s p usage =
      (grallocGbmBoLock answer s p usage).map (ycbcrResult handle) := by
  unfold grallocGbmBoLockYcbcr
  cases hlock : grallocGbmBoLock answer s p usage with
  | error fault => rfl
  | ok outcome =>
      obtain ⟨err, addr, s'⟩ := outcome
      have kept : s'.handles p = some native := by
        rcases grallocGbmBoLock_returns live hlock with
          ⟨-, -, rfl⟩ | ⟨q, bo, native, handleUsage, bo', calls, -, -, -, -, -, rfl⟩
        · exact placed
        · exact placed
      rw [ok_bind]
      dsimp only [Except.map, ycbcrResult]
      by_cases failed : err ≠ 0
      · rw [if_pos failed, if_pos failed]
      · rw [if_neg failed, if_neg failed, Process.handle_eq_ok.mpr kept]
        simp only [ok_bind, reads.format, reads.width, reads.height]
        cases ycbcrLayout (addr.getD 0) handle.format handle.width handle.height <;> rfl

/-- Planes are given out of these formats only. -/
theorem format_of_ycbcr (live : ∀ q, s.gbmBoHandleMap p = some q → s.bos q ≠ none)
    (placed : s.handles p = some native) (reads : Reads native handle) {answer : GbmMapResult}
    {usage : Word} {ret : Int} {ycbcr : AndroidYcbcr}
    (h : grallocGbmBoLockYcbcr answer s p usage = .ok (ret, some ycbcr, s')) :
    handle.format ∈ ycbcrFormats := by
  rw [grallocGbmBoLockYcbcr_eq live placed reads] at h
  obtain ⟨⟨err, addr, s₁⟩, -, same⟩ := map_eq_ok.mp h
  unfold ycbcrResult at same
  dsimp only at same
  by_contra other
  rw [(ycbcrLayout_eq_none_iff ..).mpr other] at same
  split at same <;> cases same

end Reads

end GrallocGbmMesa.Core
