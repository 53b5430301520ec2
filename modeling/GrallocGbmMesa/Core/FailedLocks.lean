import GrallocGbmMesa.Core.Runs
import GrallocGbmMesa.Core.YcbcrLocks

/-!
# Locks that fail

The four lock functions wait for a fence, take the lock and, two of them, look up the
planes.  A lock that fails on the way leaves the buffer as it was; one that fails on the
planes keeps the lock it has taken.
-/

namespace GrallocGbmMesa.Core

open Bits Checked TransitionSystem
open GrallocGbmMesa.Platform

/-! ## The layers of a lock -/

namespace LockCall

/-- The call gives out planes. -/
def OfPlanes : LockCall → Prop
  | lockYcbcr .. | lockAsyncYcbcr .. => True
  | lock .. | lockAsync .. | unlock _ | unlockAsync _ => False

instance (call : LockCall) : Decidable call.OfPlanes := by
  cases call <;> unfold OfPlanes <;> infer_instance

/-- The fence the call waits for, and what the wait returns. -/
def fence : LockCall → Option (Fd × Int)
  | lockAsync _ _ fenceFd syncWait _ | lockAsyncYcbcr _ _ fenceFd syncWait _ =>
      if fenceFd.toInt ≥ 0 then some (fenceFd, syncWait) else none
  | lock .. | lockYcbcr .. | unlock _ | unlockAsync _ => none

/-- The wait for the fence fails. -/
def FenceFails (call : LockCall) : Prop := ∃ fd err, call.fence = some (fd, err) ∧ err < 0

/-- The process once the wait is over. -/
def waited (call : LockCall) (s : Process) : Process :=
  match call.fence with
  | none => s
  | some (fd, _) => (s.log (.syncWait fd 3000)).close fd

/-- What a lock of the planes makes of the result of the lock, on a handle with these words. -/
def planesEnd (words : GrallocHandle) (err : Int) (addr : Option Ptr) : Int × Option Ptr :=
  if err ≠ 0 then (err, none)
  else
    match ycbcrLayout (addr.getD 0) words.format words.width words.height with
    | some ycbcr => (0, some ycbcr.y)
    | none => (-einval, none)

/-- What the call makes of the result of the lock. -/
def finish (call : LockCall) (words : GrallocHandle) (err : Int) (addr : Option Ptr) :
    Int × Option Ptr :=
  if call.OfPlanes then planesEnd words err addr else (err, addr)

theorem waited_same (call : LockCall) (s : Process) : SameBuffers s (call.waited s) := by
  unfold waited
  cases call.fence with
  | none => exact .refl s
  | some fence => exact (SameBuffers.waited s fence.1).close fence.1

/-- The call once the wait is over. -/
def afterWait (call : LockCall) (usage : Word) (answer : GbmMapResult) (s : Process) :
    Except Fault (Int × Option Ptr × Process) :=
  if call.OfPlanes then
    (grallocGbmBoLockYcbcr answer s call.handle usage).map fun (ret, ycbcr, s') =>
      (ret, ycbcr.map AndroidYcbcr.y, s')
  else grallocGbmBoLock answer s call.handle usage

/-- The wait comes first, and may be all that a call does. -/
theorem perform_layers {call : LockCall} {usage : Word} {answer : GbmMapResult}
    (hrequest : call.request = some (usage, answer)) (s : Process) :
    call.perform s =
      match call.fence with
      | some (fd, err) =>
          if err < 0 then .ok (err, none, s.log (.syncWait fd 3000))
          else call.afterWait usage answer (call.waited s)
      | none => call.afterWait usage answer (call.waited s) := by
  cases call with
  | lock handle usage answer =>
      cases hrequest
      rfl
  | lockAsync handle usage fenceFd syncWait answer =>
      cases hrequest
      unfold perform grallocGbmBoLockAsync waited fence
      by_cases given : fenceFd.toInt ≥ 0
      · simp only [if_pos given]
        rfl
      · simp only [if_neg given]
        rfl
  | lockYcbcr handle usage answer =>
      cases hrequest
      exact bind_pure_comp ..
  | lockAsyncYcbcr handle usage fenceFd syncWait answer =>
      cases hrequest
      unfold perform grallocGbmBoLockAsyncYcbcr waited fence
      by_cases given : fenceFd.toInt ≥ 0
      · simp only [if_pos given]
        by_cases failed : syncWait < 0
        · simp only [if_pos failed]
          rfl
        · simp only [if_neg failed]
          exact bind_pure_comp ..
      · simp only [if_neg given]
        exact bind_pure_comp ..
  | unlock | unlockAsync => cases hrequest

theorem perform_fenceFails {call : LockCall} {usage : Word} {answer : GbmMapResult}
    (hrequest : call.request = some (usage, answer)) (fails : call.FenceFails) :
    ∃ fd err, err ≠ 0 ∧ ∀ s, call.perform s = .ok (err, none, s.log (.syncWait fd 3000)) := by
  obtain ⟨fd, err, hfence, failed⟩ := fails
  refine ⟨fd, err, Int.ne_of_lt failed, fun s => ?_⟩
  rw [perform_layers hrequest, hfence]
  exact if_pos failed

theorem perform_waited {call : LockCall} {usage : Word} {answer : GbmMapResult}
    (hrequest : call.request = some (usage, answer)) (waits : ¬ call.FenceFails) (s : Process) :
    call.perform s = call.afterWait usage answer (call.waited s) := by
  rw [perform_layers hrequest]
  cases hfence : call.fence with
  | none => rfl
  | some fence =>
      have succeeded : ¬ fence.2 < 0 := fun failed => waits ⟨fence.1, fence.2, hfence, failed⟩
      exact if_neg succeeded

section OneBuffer

variable {s : Process} {p : Ptr} {bo : GbmBo} {native : NativeHandle} {words : GrallocHandle}

/-- A lock of the planes is a lock whose result is looked at. -/
theorem lockYcbcr_eq {handle : Ptr} (buffer : Buffer s handle p bo)
    (placed : s.handles handle = some native) (reads : Reads native words)
    (answer : GbmMapResult) (usage : Word) :
    ((grallocGbmBoLockYcbcr answer s handle usage).map fun (ret, ycbcr, s') =>
        (ret, ycbcr.map AndroidYcbcr.y, s')) =
      (lockBo answer p words.usage usage bo).map fun (err, addr, bo', calls) =>
        ((planesEnd words err addr).1, (planesEnd words err addr).2, putBo s p bo' calls) := by
  have live : ∀ q, s.gbmBoHandleMap handle = some q → s.bos q ≠ none := by
    intro q registered
    cases buffer.1.symm.trans registered
    rw [buffer.2]
    exact nofun
  rw [grallocGbmBoLockYcbcr_eq live placed reads,
    grallocGbmBoLock_eq buffer.1 placed reads.usage buffer.2]
  cases lockBo answer p words.usage usage bo with
  | error fault => rfl
  | ok outcome =>
      obtain ⟨err, addr, bo', calls⟩ := outcome
      simp only [Except.map, ycbcrResult, planesEnd]
      by_cases failed : err ≠ 0
      · rw [if_pos failed, if_pos failed]
        rfl
      · rw [if_neg failed, if_neg failed]
        cases ycbcrLayout (addr.getD 0) words.format words.width words.height <;> rfl

/-- A call whose wait is over is a lock of the BO. -/
theorem perform_eq {call : LockCall} {usage : Word} {answer : GbmMapResult}
    (hrequest : call.request = some (usage, answer)) (waits : ¬ call.FenceFails)
    (buffer : Buffer s call.handle p bo) (placed : s.handles call.handle = some native)
    (reads : Reads native words) :
    call.perform s =
      (lockBo answer p words.usage usage bo).map fun (err, addr, bo', calls) =>
        ((call.finish words err addr).1, (call.finish words err addr).2,
          putBo (call.waited s) p bo' calls) := by
  have same := waited_same call s
  have buffer' : Buffer (call.waited s) call.handle p bo :=
    ⟨same.registry ▸ buffer.1, same.bos ▸ buffer.2⟩
  have placed' : (call.waited s).handles call.handle = some native := same.handles ▸ placed
  rw [perform_waited hrequest waits]
  unfold afterWait finish
  by_cases planes : call.OfPlanes
  · simp only [if_pos planes]
    exact lockYcbcr_eq buffer' placed' reads answer usage
  · simp only [if_neg planes]
    exact grallocGbmBoLock_eq buffer'.1 placed' reads.usage buffer'.2 answer usage

end OneBuffer

end LockCall

/-! ## Locks of one BO -/

@[simp] theorem boData_attach (bo : GbmBo) : boData (attach bo) = boData bo := rfl

/-- The lock of the BO is granted. -/
def Granted (answer : GbmMapResult) (handleUsage usage : Word) (bo : GbmBo) : Prop :=
  ¬ UsageRefused handleUsage usage ∧ Compatible (boData bo) usage ∧
    (CpuUsage (usage ||| (boData bo).lockedFor) → (boData bo).mapData = 0 ∧ answer ≠ .null)

namespace LockReturns

variable {answer : GbmMapResult} {p : Ptr} {handleUsage usage : Word} {bo bo' : GbmBo} {ret : Int}
  {addr : Option Ptr} {calls : List Call}

/-- A lock fails if it is not granted, and leaves the BO as it was. -/
theorem of_failed (h : LockReturns answer p handleUsage usage bo ret addr bo' calls)
    (failed : ret ≠ 0) : ¬ Granted answer handleUsage usage bo ∧ attach bo' = attach bo := by
  cases h with
  | refused hrefused => exact ⟨fun granted => granted.1 hrefused, rfl⟩
  | incompatible accepted clash => exact ⟨fun granted => clash granted.2.1, rfl⟩
  | shared | mapped => exact absurd rfl failed
  | occupied accepted compatible cpu mapped =>
      exact ⟨fun granted => mapped (granted.2.2 cpu).1, rfl⟩
  | mapFailed accepted compatible cpu unmapped null =>
      exact ⟨fun granted => (granted.2.2 cpu).2 null, rfl⟩

/-- A lock that is granted is counted. -/
theorem of_succeeded (h : LockReturns answer p handleUsage usage bo ret addr bo' calls)
    (succeeded : ret = 0) : Granted answer handleUsage usage bo ∧
      (boData bo').lockCount = (boData bo).lockCount + 1 := by
  cases h with
  | refused | incompatible | occupied | mapFailed => exact absurd succeeded (by decide)
  | shared accepted compatible noCpu room =>
      exact ⟨⟨accepted, compatible, fun cpu => absurd cpu noCpu⟩, rfl⟩
  | mapped accepted compatible cpu unmapped answered room =>
      exact ⟨⟨accepted, compatible, fun _ => ⟨unmapped, by rw [answered]; exact nofun⟩⟩, rfl⟩

end LockReturns

/-- The words and the mappings that a lock leaves. -/
def boEnd : Int × Option Ptr × GbmBo × List Call → Int × Option Ptr × BoData × List Mapping
  | (ret, addr, bo, _) => (ret, addr, boData bo, bo.mappings)

/-- A lock does not tell user data that is absent from user data that is zero. -/
theorem lockBo_attach (answer : GbmMapResult) (p : Ptr) (handleUsage usage : Word) (bo : GbmBo) :
    (lockBo answer p handleUsage usage (attach bo)).map boEnd =
      (lockBo answer p handleUsage usage bo).map boEnd := by
  by_cases refused : UsageRefused handleUsage usage
  · unfold lockBo
    simp only [if_pos refused]
    rfl
  · have same : lockBo answer p handleUsage usage (attach bo) =
        lockBo answer p handleUsage usage bo := by
      unfold lockBo
      simp only [if_neg refused]
      rfl
    rw [same]

/-! ## What a failed lock leaves -/

/-- What a call returns, and the words and the mappings of the BO afterwards. -/
def callEnd (p : Ptr) :
    Int × Option Ptr × Process → Int × Option Ptr × Option (BoData × List Mapping)
  | (ret, addr, s) => (ret, addr, (s.bos p).map fun bo => (boData bo, bo.mappings))

/-- A lock goes the same way on BOs that differ in absent user data only. -/
theorem LockCall.perform_attach {call : LockCall} {usage : Word} {answer : GbmMapResult}
    {s s' : Process} {p : Ptr} {bo bo' : GbmBo} {native : NativeHandle} {words : GrallocHandle}
    (hrequest : call.request = some (usage, answer)) (buffer : Buffer s call.handle p bo)
    (buffer' : Buffer s' call.handle p bo') (placed : s.handles call.handle = some native)
    (placed' : s'.handles call.handle = some native) (reads : Reads native words)
    (same : attach bo' = attach bo) :
    (call.perform s').map (callEnd p) = (call.perform s).map (callEnd p) := by
  by_cases fails : call.FenceFails
  · obtain ⟨fd, err, -, performed⟩ := perform_fenceFails hrequest fails
    have sameData : boData bo' = boData bo := by rw [← boData_attach bo', same, boData_attach]
    have sameMappings : bo'.mappings = bo.mappings := by
      rw [← attach_mappings bo', same, attach_mappings]
    have live : (s'.log (.syncWait fd 3000)).bos p = some bo' := buffer'.2
    have live₀ : (s.log (.syncWait fd 3000)).bos p = some bo := buffer.2
    simp only [performed, Except.map, callEnd, live, live₀, Option.map_some, sameData,
      sameMappings]
  rw [perform_eq hrequest fails buffer placed reads,
    perform_eq hrequest fails buffer' placed' reads]
  have sameLock : (lockBo answer p words.usage usage bo').map boEnd =
      (lockBo answer p words.usage usage bo).map boEnd := by
    rw [← lockBo_attach, same, lockBo_attach]
  -- what is left of the lock after its end determines what is left of the call
  have finished (t : Process) (bo : GbmBo) :
      ((lockBo answer p words.usage usage bo).map fun (err, addr, bo', calls) =>
        ((call.finish words err addr).1, (call.finish words err addr).2,
          putBo t p bo' calls)).map (callEnd p) =
      ((lockBo answer p words.usage usage bo).map boEnd).map fun (err, addr, data) =>
        ((call.finish words err addr).1, (call.finish words err addr).2, some data) := by
    cases lockBo answer p words.usage usage bo with
    | error fault => rfl
    | ok outcome =>
        simp only [Except.map, callEnd, boEnd, putBo_bos_self, Option.map_some]
  rw [finished, finished, sameLock]

/-- The lock state of the buffer is what it was, and the next lock goes as it would have gone. -/
structure Unchanged (s s' : Process) (handle p : Ptr) (bo : GbmBo) : Prop where
  words : ∃ bo', Buffer s' handle p bo' ∧ boData bo' = boData bo ∧ bo'.mappings = bo.mappings
  next : ∀ next : LockCall, next.handle = handle → next.request ≠ none →
    (next.perform s').map (callEnd p) = (next.perform s).map (callEnd p)

theorem Unchanged.of_attach {s s' : Process} {handle p : Ptr} {bo bo' : GbmBo}
    {native : NativeHandle} {words : GrallocHandle} (buffer : Buffer s handle p bo)
    (buffer' : Buffer s' handle p bo') (placed : s.handles handle = some native)
    (placed' : s'.handles handle = some native) (reads : Reads native words)
    (same : attach bo' = attach bo) : Unchanged s s' handle p bo where
  words := ⟨bo', buffer', by rw [← boData_attach bo', same, boData_attach],
    by rw [← attach_mappings bo', same, attach_mappings]⟩
  next := by
    rintro next rfl requested
    obtain ⟨⟨usage, answer⟩, hrequest⟩ := Option.ne_none_iff_exists'.mp requested
    exact next.perform_attach hrequest buffer buffer' placed placed' reads same

theorem planesEnd_ne_zero {words : GrallocHandle} {addr : Option Ptr}
    (failed : (LockCall.planesEnd words 0 addr).1 ≠ 0) : words.format ∉ ycbcrFormats := by
  rw [← ycbcrLayout_eq_none_iff (addr.getD 0) words.format words.width words.height]
  unfold LockCall.planesEnd at failed
  rw [if_neg (not_not_intro rfl)] at failed
  cases layout : ycbcrLayout (addr.getD 0) words.format words.width words.height with
  | none => rfl
  | some ycbcr =>
      rw [layout] at failed
      exact absurd rfl failed

/-- A lock that fails has changed nothing, unless it fails on the planes after it was granted. -/
theorem failedLock_unchanged_iff {s s' : Process} (reachable : Reachable coreSystem s)
    {call : LockCall} {usage : Word} {answer : GbmMapResult}
    (hrequest : call.request = some (usage, answer)) {p : Ptr} {bo : GbmBo}
    (buffer : Buffer s call.handle p bo) {native : NativeHandle}
    (placed : s.handles call.handle = some native) {format handleUsage : Word}
    (hformat : native.format = .ok format) (husage : native.usage = .ok handleUsage) {ret : Int}
    {addr : Option Ptr} (performed : call.perform s = .ok (ret, addr, s')) (failed : ret ≠ 0) :
    Unchanged s s' call.handle p bo ↔
      ¬ call.OfPlanes ∨ format ∈ ycbcrFormats ∨ call.FenceFails ∨
        ¬ Granted answer handleUsage usage bo := by
  obtain ⟨first, labels, initial, run⟩ := reachable
  obtain ⟨bo₀, hold, native', registered⟩ := (CoreInv.of_run initial run).holds _ p buffer.1
  cases placed.symm.trans registered.placed
  obtain ⟨words, reads⟩ := exists_reads registered.covers
  obtain rfl := Except.ok.inj (reads.format.symm.trans hformat)
  obtain rfl := Except.ok.inj (reads.usage.symm.trans husage)
  by_cases fails : call.FenceFails
  · refine iff_of_true ?_ (.inr (.inr (.inl fails)))
    obtain ⟨fd, err, -, waits⟩ := LockCall.perform_fenceFails hrequest fails
    cases (waits s).symm.trans performed
    exact .of_attach buffer buffer placed placed reads rfl
  rw [LockCall.perform_eq hrequest fails buffer placed reads] at performed
  obtain ⟨⟨err, addr₀, bo', calls⟩, hlock, finished⟩ := map_eq_ok.mp performed
  have returns := lockBo_returns hlock
  have same := call.waited_same s
  have buffer' : Buffer s' call.handle p bo' := by
    cases finished
    exact ⟨same.registry ▸ buffer.1, putBo_bos_self ..⟩
  have placed' : s'.handles call.handle = some native := by
    cases finished
    exact same.handles ▸ placed
  by_cases refused : err ≠ 0
  · obtain ⟨denied, kept⟩ := returns.of_failed refused
    exact iff_of_true (.of_attach buffer buffer' placed placed' reads kept)
      (.inr (.inr (.inr denied)))
  obtain rfl := not_not.mp refused
  obtain ⟨granted, counted⟩ := returns.of_succeeded rfl
  have planes : call.OfPlanes := by
    by_contra plain
    cases finished
    rw [LockCall.finish, if_neg plain] at failed
    exact failed rfl
  have other : words.format ∉ ycbcrFormats := by
    cases finished
    rw [LockCall.finish, if_pos planes] at failed
    exact planesEnd_ne_zero failed
  refine iff_of_false ?_ ?_
  · rintro ⟨⟨bo'', buffer'', data, -⟩, -⟩
    obtain rfl := (buffer'.unique buffer'').2
    rw [data] at counted
    omega
  · rintro (plain | known | waits | denied)
    · exact plain planes
    · exact other known
    · exact fails waits
    · exact denied granted

/-- A buffer that the CPU may read, in a format without planes. -/
def readableDesc : GrallocBufferDesc where
  width := 64#32
  height := 32#32
  androidFormat := halPixelFormatRgba8888
  androidUsage := grallocUsageSwReadOften

theorem readableProcess_reachable : Reachable coreSystem (allocatedProcess readableDesc) :=
  ⟨_, _, closedProcess_initial, allocatedProcess_run readableDesc⟩

theorem failedLock_unchanged_iff_refused :
    ∃ bo s', Buffer (allocatedProcess readableDesc) 16 32 bo ∧
      grallocGbmBoLock .null (allocatedProcess readableDesc) 16 grallocUsageSwReadOften =
        .ok (-enomem, some 0, s') ∧
      Unchanged (allocatedProcess readableDesc) s' 16 32 bo := by
  obtain ⟨bo, s', buffer, performed⟩ : ∃ bo s', Buffer (allocatedProcess readableDesc) 16 32 bo ∧
      (LockCall.lock 16 grallocUsageSwReadOften .null).perform (allocatedProcess readableDesc) =
        .ok (-enomem, some 0, s') := ⟨_, _, ⟨rfl, rfl⟩, rfl⟩
  refine ⟨bo, s', buffer, performed, ?_⟩
  have requested : (LockCall.lock 16 grallocUsageSwReadOften .null).request =
      some (grallocUsageSwReadOften, .null) := rfl
  exact (failedLock_unchanged_iff readableProcess_reachable requested buffer rfl rfl rfl performed
    (by decide)).mpr (.inl id)

/-- A lock for the planes of a buffer without any fails, but the buffer stays mapped and
locked, and a lock that would have succeeded fails. -/
theorem failedLock_keeps :
    ∃ bo s' bo', Reachable coreSystem (allocatedProcess readableDesc) ∧
      Buffer (allocatedProcess readableDesc) 16 32 bo ∧ (boData bo).lockCount = 0 ∧
      grallocGbmBoLockYcbcr (.mapped 4096 7 256#32) (allocatedProcess readableDesc) 16
        grallocUsageSwReadOften = .ok (-einval, none, s') ∧
      Buffer s' 16 32 bo' ∧ (boData bo').lockCount = 1 ∧ bo'.mappings.length = 1 ∧
      (∃ t, grallocGbmBoLock (.mapped 4096 7 256#32) (allocatedProcess readableDesc) 16
        grallocUsageSwReadOften = .ok (0, some 4096, t)) ∧
      (∃ t, grallocGbmBoLock (.mapped 4096 7 256#32) s' 16 grallocUsageSwReadOften =
        .ok (-einval, none, t)) ∧
      ¬ Unchanged (allocatedProcess readableDesc) s' 16 32 bo := by
  refine ⟨_, _, _, readableProcess_reachable, ⟨rfl, rfl⟩, rfl, rfl, ⟨rfl, rfl⟩, rfl,
    rfl, ⟨_, rfl⟩, ⟨_, rfl⟩, ?_⟩
  rintro ⟨⟨bo'', ⟨-, live⟩, data, -⟩, -⟩
  cases live
  exact absurd (congrArg BoData.lockCount data) (by decide)

end GrallocGbmMesa.Core
