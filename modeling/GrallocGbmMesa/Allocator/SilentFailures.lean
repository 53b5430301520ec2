import Mathlib.Data.List.ReduceOption
import GrallocGbmMesa.Allocator.Loops

/-!
# Failures that nobody reports

When `gbm_bo_create` fails and leaves 0 in `errno`, the attempt passes for one that has
succeeded, and hands on a local that nobody has initialised.  The loops then take what this
local holds for a handle.
-/

namespace GrallocGbmMesa.Allocator

open Checked PartialMap
open GrallocGbmMesa.Platform GrallocGbmMesa.Core GbmMesaAllocator

/-- The same answers, with other values in the locals `handle`. -/
def withLocals (env : DoAllocateEnv) (locals : Nat → Ptr) : DoAllocateEnv :=
  { env with attempts := fun i => { env.attempts i with handleLocal := locals i } }

/-! ## What the operations leave of the process -/

theorem dupFds_frame (fds answers : List Fd) (s : Process) :
    ∃ opened, (dupFds fds answers s).2 = { s with fds := opened } := by
  induction fds generalizing answers s with
  | nil => exact ⟨s.fds, rfl⟩
  | cons fd rest ih =>
      obtain ⟨first, duplicated⟩ : ∃ opened,
          (s.fcntlDupfd fd (answers.headD (-1))).2 = { s with fds := opened } := by
        unfold Process.fcntlDupfd
        split
        · split
          · exact ⟨s.fds, rfl⟩
          · exact ⟨_, rfl⟩
        · exact ⟨s.fds, rfl⟩
      obtain ⟨opened, others⟩ := ih answers.tail (s.fcntlDupfd fd (answers.headD (-1))).2
      rw [duplicated] at others
      exact ⟨opened, by rw [← others, ← duplicated]; rfl⟩

theorem dropHandle_frame (s : Process) (handle : NativeHandle) :
    ∃ fds calls, dropHandle s handle = { s with fds, calls } := by
  unfold dropHandle
  induction handle.fds generalizing s with
  | nil => exact ⟨s.fds, s.calls, rfl⟩
  | cons fd rest ih =>
      rw [List.foldl_cons]
      by_cases closed : fd = -1
      · rw [if_pos closed]
        exact ih s
      · rw [if_neg closed]
        exact ih (s.close fd)

theorem closeAll_handles (fds : List Fd) (s : Process) :
    (fds.foldl Process.close s).handles = s.handles := by
  induction fds generalizing s with
  | nil => rfl
  | cons fd rest ih => exact ih (s.close fd)

/-- A handle that is released was there, and is gone. -/
theorem releaseHandle_handles {errno : Int} {s s' : Process} {handle : Ptr}
    (h : releaseHandle errno s handle = .ok s') :
    handle = 0 ∧ s' = s ∨
      handle ≠ 0 ∧ s.handles handle ≠ none ∧
        s'.handles = Function.update s.handles handle none := by
  unfold releaseHandle at h
  by_cases null : handle = 0
  · rw [if_pos null] at h
    cases h
    exact .inl ⟨null, rfl⟩
  rw [if_neg null] at h
  obtain ⟨⟨ret, s₁⟩, freed, h⟩ := bind_eq_ok.mp h
  obtain ⟨native, hnative, h⟩ := bind_eq_ok.mp h
  cases h
  have kept := grallocGmBufferFree_handles freed
  have found := Process.handle_eq_ok.mp hnative
  rw [kept] at found
  refine .inr ⟨null, by rw [found]; exact nofun, ?_⟩
  change Function.update (s₁.nativeHandleClose native).handles handle none = _
  rw [Process.nativeHandleClose, closeAll_handles, kept]

/-- A handle that is exported was there, and is gone; its ints are in the entry. -/
theorem exportHandle_handles {answers : List Fd} {errno : Int} {entry dup : NativeHandle}
    {s s' : Process} {handle : Ptr}
    (h : GbmMesaAllocator.exportHandle answers errno entry s handle = .ok (dup, s')) :
    handle = 0 ∧ s' = s ∨
      handle ≠ 0 ∧ ∃ native, s.handles handle = some native ∧ dup.ints = native.ints ∧
        s'.handles = Function.update s.handles handle none := by
  unfold GbmMesaAllocator.exportHandle at h
  by_cases null : handle = 0
  · rw [if_pos null] at h
    cases h
    exact .inl ⟨null, rfl⟩
  rw [if_neg null] at h
  obtain ⟨native, hnative, h⟩ := bind_eq_ok.mp h
  obtain ⟨s₁, released, h⟩ := bind_eq_ok.mp h
  cases h
  refine .inr ⟨null, native, Process.handle_eq_ok.mp hnative, rfl, ?_⟩
  obtain ⟨opened, duplicated⟩ := dupFds_frame native.fds answers s
  obtain ⟨fds, calls, dropped⟩ := dropHandle_frame (dupFds native.fds answers s).2 entry
  rcases releaseHandle_handles released with ⟨nothing, -⟩ | ⟨-, -, handles⟩
  · exact absurd nothing null
  · rw [handles]
    change Function.update (dropHandle (dupFds native.fds answers s).2 entry).handles handle none
      = _
    rw [dropped, duplicated]

/-- An attempt reports that it has failed, or it says that it has succeeded, with a handle that
is the one thing new among the handles or with what the local holds. -/
theorem gbmAllocateBuffer_handles {env : AttemptEnv} {allocator : GbmMesaAllocator} {s : Process}
    (initialized : allocator.isInitialized = true) (ready : DeviceReady s)
    (free : env.newHandle ≠ 0 → s.handles env.newHandle = none) (desc : GrallocBufferDesc) :
    (∃ s', gbmAllocateBuffer env allocator s desc =
        .ok (toBinderStatus .noResources, none, s') ∧ Reported env.toAllocEnv ∧
          s'.handles = s.handles) ∨
      (∃ s', grallocAllocate env.toAllocEnv s desc = .ok (0, none, s') ∧
        gbmAllocateBuffer env allocator s desc =
          .ok (.ok, some (grallocGmAndroidCaculatePixelStride desc.androidFormat 0,
            env.handleLocal), s') ∧
        Unreported env.toAllocEnv ∧ DeviceReady s' ∧ s'.handles = s.handles) ∨
      ∃ new s', grallocAllocate env.toAllocEnv s desc =
          .ok (0, some (new.stride, env.newHandle), s') ∧
        gbmAllocateBuffer env allocator s desc =
          .ok (.ok, some (grallocGmAndroidCaculatePixelStride desc.androidFormat new.stride,
            env.newHandle), s') ∧
        env.newHandle ≠ 0 ∧ env.newBo = some new ∧ DeviceReady s' ∧
        s'.handles = Function.update s.handles env.newHandle
          (some (allocatedHandle env.toAllocEnv new desc).native) := by
  unfold gbmAllocateBuffer
  rw [if_neg (not_not_intro initialized), if_neg (by simp [grallocIsDescSupport_eq_true])]
  by_cases null : env.newHandle = 0
  · rw [grallocAllocate_refused (.inr null)]
    refine .inl ⟨_, rfl, .inl null, ?_⟩
    exact (deviceProcess_frame env.toAllocEnv s).2.2.1
  obtain ⟨asks, same⟩ := AsksForBo.of_ready ready null
  cases newBo : env.newBo with
  | none =>
      have kept := noBo_same (free null) desc
      rw [same] at kept
      rw [grallocAllocate_noBo asks newBo, ok_bind]
      by_cases silent : env.errno = 0
      · refine .inr (.inl ⟨_, by rw [silent]; rfl, if_neg (by omega), ⟨null, newBo, silent⟩, ?_,
          kept.handles⟩)
        unfold DeviceReady
        rw [kept.gbmDevFd, kept.gbmDev, kept.devices]
        exact ready
      · exact .inl ⟨_, if_pos (by omega), .inr ⟨newBo, silent⟩, kept.handles⟩
  | some new =>
      rw [grallocAllocate_made asks newBo, ok_bind]
      refine .inr (.inr ⟨new, _, rfl, rfl, null, rfl, ?_, rfl⟩)
      unfold madeProcess
      rw [same]
      exact ready

/-- An attempt that says that it has succeeded has not reported a failure. -/
theorem gbmAllocateBuffer_told {env : AttemptEnv} {allocator : GbmMesaAllocator} {s s' : Process}
    {desc : GrallocBufferDesc} {stored : Option (Word × Ptr)}
    (h : gbmAllocateBuffer env allocator s desc = .ok (.ok, stored, s')) :
    ¬ Reported env.toAllocEnv := by
  unfold gbmAllocateBuffer at h
  split at h
  · cases h
  split at h
  · cases h
  obtain ⟨⟨ret, made, s₁⟩, allocates, h⟩ := bind_eq_ok.mp h
  by_cases succeeded : ret = 0
  · subst succeeded
    exact not_reported_of_ok allocates
  · dsimp only at h
    rw [if_pos succeeded] at h
    cases h

/-! ## A local that points nowhere -/

/-- One of the handles is not there, or is there twice. -/
def Dangling (handles : List Ptr) (s : Process) : Prop :=
  ∃ p ∈ handles, p ≠ 0 ∧ (s.handles p = none ∨ 2 ≤ handles.count p)

namespace Dangling

variable {handles : List Ptr} {s s' : Process} {p : Ptr}

theorem congr (h : Dangling handles s) (same : s'.handles = s.handles) : Dangling handles s' := by
  unfold Dangling
  rwa [same]

theorem append (h : Dangling handles s) (same : s'.handles = s.handles) (p : Ptr) :
    Dangling (handles ++ [p]) s' := by
  obtain ⟨lost, hlost, nonNull, bad⟩ := h
  refine ⟨lost, List.mem_append_left _ hlost, nonNull, ?_⟩
  rw [same, List.count_append]
  exact bad.imp_right fun twice => Nat.le_trans twice (Nat.le_add_right _ _)

/-- A handle that is created where one is missing is there twice. -/
theorem store (h : Dangling handles s) {native : NativeHandle}
    (stored : s'.handles = Function.update s.handles p (some native)) :
    Dangling (handles ++ [p]) s' := by
  obtain ⟨lost, hlost, nonNull, bad⟩ := h
  refine ⟨lost, List.mem_append_left _ hlost, nonNull, ?_⟩
  rw [stored, List.count_append]
  by_cases here : lost = p
  · have once := List.count_pos_iff.mpr hlost
    rw [here] at once ⊢
    rw [List.count_singleton_self]
    exact .inr (by omega)
  · rw [Function.update_of_ne here]
    exact bad.imp_right fun twice => Nat.le_trans twice (Nat.le_add_right _ _)

/-- A handle that is taken away leaves another one that is not there. -/
theorem tail (h : Dangling (p :: handles) s)
    (taken : p = 0 ∧ s' = s ∨
      p ≠ 0 ∧ s.handles p ≠ none ∧ s'.handles = Function.update s.handles p none) :
    Dangling handles s' := by
  obtain ⟨lost, hlost, nonNull, bad⟩ := h
  rcases taken with ⟨null, rfl⟩ | ⟨-, live, taken⟩
  · have other : lost ≠ p := fun same => nonNull (same.trans null)
    rw [List.count_cons_of_ne (Ne.symm other)] at bad
    exact ⟨lost, (List.mem_cons.mp hlost).resolve_left other, nonNull, bad⟩
  · by_cases here : lost = p
    · subst here
      have twice := bad.resolve_left live
      rw [List.count_cons_self] at twice
      refine ⟨lost, List.count_pos_iff.mp (by omega), nonNull, .inl ?_⟩
      rw [taken, Function.update_self]
    · rw [List.count_cons_of_ne (Ne.symm here)] at bad
      refine ⟨lost, (List.mem_cons.mp hlost).resolve_left here, nonNull, ?_⟩
      rw [taken, Function.update_of_ne here]
      exact bad

/-- Releasing the handles does not come to an end. -/
theorem not_released {errno : Int} (h : Dangling handles s) :
    handles.foldlM (releaseHandle errno) s ≠ .ok s' := by
  induction handles generalizing s with
  | nil =>
      obtain ⟨lost, hlost, -⟩ := h
      cases hlost
  | cons p rest ih =>
      intro released
      rw [List.foldlM_cons] at released
      obtain ⟨s₁, first, others⟩ := bind_eq_ok.mp released
      exact ih (h.tail (releaseHandle_handles first)) others

end Dangling

section Loop

variable {env : DoAllocateEnv} {allocator : GbmMesaAllocator} {desc : GrallocBufferDesc}

/-- The loop does not get rid of a handle that is not there. -/
theorem allocateHandles_dangling (initialized : allocator.isInitialized = true) (remaining : Nat) :
    ∀ {handles handles' : List Ptr} {s s' : Process} {stride stride' : Word}
      {status : ScopedAStatus}, DeviceReady s →
      AttemptsNew env desc handles.length remaining s → Dangling handles s →
      allocateHandles env allocator desc remaining handles stride s =
        .ok (status, handles', stride', s') → status = .ok ∧ Dangling handles' s' := by
  induction remaining with
  | zero =>
      intro handles handles' s s' stride stride' status ready fresh dangling returns
      cases returns
      exact ⟨rfl, dangling⟩
  | succ remaining ih =>
      intro handles handles' s s' stride stride' status ready ⟨fresh, later⟩ dangling returns
      have next (p : Ptr) : (handles ++ [p]).length = handles.length + 1 :=
        length_stored_add handles p 0
      unfold allocateHandles at returns
      rcases gbmAllocateBuffer_handles initialized ready fresh.handle desc with
        ⟨s₁, attempt, -, same⟩ | ⟨s₁, allocates, attempt, -, ready₁, same⟩ |
        ⟨new, s₁, allocates, attempt, -, -, ready₁, stored⟩
      · rw [attempt, ok_bind] at returns
        obtain ⟨s₂, released, -⟩ := bind_eq_ok.mp returns
        exact absurd released (dangling.congr same).not_released
      · rw [attempt, ok_bind] at returns
        have rest := later _ _ allocates
        rw [← next (env.attempts handles.length).handleLocal] at rest
        exact ih ready₁ rest (dangling.append same _) returns
      · rw [attempt, ok_bind] at returns
        have rest := later _ _ allocates
        rw [← next (env.attempts handles.length).newHandle] at rest
        exact ih ready₁ rest (dangling.store stored) returns

/-- If the local holds the handle that has just been deleted, the first failure that is not
reported leaves it among the handles. -/
theorem allocateHandles_unreported (initialized : allocator.isInitialized = true)
    (stale : ∀ i, (env.attempts i).handleLocal = (env.attempts i).newHandle) (remaining : Nat) :
    ∀ {handles handles' : List Ptr} {s s' : Process} {stride stride' : Word}
      {status : ScopedAStatus} {j : Nat}, DeviceReady s →
      AttemptsNew env desc handles.length remaining s → j < remaining →
      Unreported (answersOf env (handles.length + j)) →
      (∀ k < j, ¬ Reported (answersOf env (handles.length + k))) →
      allocateHandles env allocator desc remaining handles stride s =
        .ok (status, handles', stride', s') → status = .ok ∧ Dangling handles' s' := by
  induction remaining with
  | zero => exact fun _ _ inside => absurd inside (Nat.not_lt_zero _)
  | succ remaining ih =>
      intro handles handles' s s' stride stride' status j ready ⟨fresh, later⟩ inside silent quiet
        returns
      have next (p : Ptr) : (handles ++ [p]).length = handles.length + 1 :=
        length_stored_add handles p 0
      unfold allocateHandles at returns
      rcases gbmAllocateBuffer_handles initialized ready fresh.handle desc with
        ⟨s₁, -, reported, -⟩ | ⟨s₁, allocates, attempt, ⟨nonNull, -⟩, ready₁, same⟩ |
        ⟨new, s₁, allocates, attempt, -, created, ready₁, -⟩
      · cases j with
        | zero => exact absurd silent reported.not_unreported
        | succ j => exact absurd reported (quiet 0 (Nat.succ_pos j))
      · rw [attempt, ok_bind, stale] at returns
        have rest := later _ _ allocates
        rw [← next (env.attempts handles.length).newHandle] at rest
        refine allocateHandles_dangling initialized remaining ready₁ rest ?_ returns
        refine ⟨_, List.mem_append_right _ (List.mem_singleton_self _), nonNull, .inl ?_⟩
        rw [same]
        exact fresh.handle nonNull
      · rw [attempt, ok_bind] at returns
        have rest := later _ _ allocates
        rw [← next (env.attempts handles.length).newHandle] at rest
        cases j with
        | zero => cases created.symm.trans silent.2.1
        | succ j =>
            rw [← length_stored_add handles (env.attempts handles.length).newHandle] at silent
            refine ih ready₁ rest (Nat.lt_of_succ_lt_succ inside) silent ?_ returns
            intro k before
            rw [length_stored_add]
            exact quiet (k + 1) (Nat.succ_lt_succ before)

/-- A loop that succeeds has met with no failure that is reported. -/
theorem allocateHandles_told (remaining : Nat) :
    ∀ {handles handles' : List Ptr} {s s' : Process} {stride stride' : Word},
      allocateHandles env allocator desc remaining handles stride s =
        .ok (.ok, handles', stride', s') →
      ∀ k < remaining, ¬ Reported (answersOf env (handles.length + k)) := by
  induction remaining with
  | zero => exact fun _ k inside => absurd inside (Nat.not_lt_zero k)
  | succ remaining ih =>
      intro handles handles' s s' stride stride' returns k inside
      unfold allocateHandles at returns
      obtain ⟨⟨status, stored, s₁⟩, attempt, returns⟩ := bind_eq_ok.mp returns
      by_cases succeeded : status = .ok
      · subst succeeded
        have rest := ih returns
        cases k with
        | zero => exact gbmAllocateBuffer_told attempt
        | succ k =>
            have later := rest k (Nat.lt_of_succ_lt_succ inside)
            rwa [length_stored_add] at later
      · dsimp only at returns
        rw [if_pos succeeded] at returns
        obtain ⟨s₂, -, returns⟩ := bind_eq_ok.mp returns
        cases returns
        exact absurd rfl succeeded

end Loop

/-! ## A local that is `NULL` -/

/-- What an attempt puts among the handles. -/
def slotHandle (slot : Option Held) : Ptr := (slot.map Held.handle).getD 0

section Null

variable {base : Process} {env : DoAllocateEnv} {allocator : GbmMesaAllocator}
  {desc : GrallocBufferDesc}

/-- With `NULL` in the local, failures that are not reported leave a slot empty. -/
theorem Holdings.allocateHandles_null (can : CanAllocate base)
    (initialized : allocator.isInitialized = true)
    (null : ∀ i, (env.attempts i).handleLocal = 0) (remaining : Nat) :
    ∀ {held : List Held} {handles : List Ptr} {s : Process} (stride : Word),
      Holdings base held [] s → AttemptsNew env desc handles.length remaining s →
      (∀ k < remaining, ¬ Reported (answersOf env (handles.length + k))) →
      ∃ (slots : List (Option Held)) (stride' : Word) (s' : Process),
        GbmMesaAllocator.allocateHandles env allocator desc remaining handles stride s =
          .ok (.ok, handles ++ slots.map slotHandle, stride', s') ∧
        slots.length = remaining ∧ Holdings base (held ++ slots.reduceOption) [] s' := by
  induction remaining with
  | zero =>
      intro held handles s stride h fresh told
      refine ⟨[], stride, s, ?_, rfl, ?_⟩
      · rw [List.map_nil, List.append_nil]
        rfl
      · rwa [List.reduceOption_nil, List.append_nil]
  | succ remaining ih =>
      intro held handles s stride h ⟨fresh, later⟩ told
      have next (p : Ptr) : (handles ++ [p]).length = handles.length + 1 :=
        length_stored_add handles p 0
      have told' (p : Ptr) : ∀ k < remaining,
          ¬ Reported (answersOf env ((handles ++ [p]).length + k)) := by
        intro k inside
        rw [length_stored_add]
        exact told (k + 1) (Nat.succ_lt_succ inside)
      unfold GbmMesaAllocator.allocateHandles
      rcases h.attempt can initialized fresh desc with
        ⟨s₁, -, failed, -⟩ | ⟨s₁, allocates, returns, -, kept⟩ |
        ⟨new, s₁, allocates, returns, -, -, kept⟩
      · exact absurd failed (told 0 (Nat.succ_pos _))
      · rw [returns, null, ok_bind]
        have rest := later _ _ allocates
        rw [← next 0] at rest
        obtain ⟨slots, stride', s', loop, length, all⟩ :=
          ih (grallocGmAndroidCaculatePixelStride desc.androidFormat 0) kept rest (told' 0)
        refine ⟨none :: slots, stride', s', loop.trans ?_, by rw [List.length_cons, length], all⟩
        rw [List.append_assoc]
        rfl
      · rw [returns, ok_bind]
        have rest := later _ _ allocates
        rw [← next (env.attempts handles.length).newHandle] at rest
        obtain ⟨slots, stride', s', loop, length, all⟩ :=
          ih (grallocGmAndroidCaculatePixelStride desc.androidFormat new.stride) kept rest (told' _)
        refine ⟨some (allocated (env.attempts handles.length).toAllocEnv new desc) :: slots,
          stride', s', loop.trans ?_, by rw [List.length_cons, length], ?_⟩
        · rw [List.append_assoc]
          rfl
        · rw [List.reduceOption_cons_of_some, List.append_cons]
          exact all

/-- An export takes the first buffer away, whatever becomes of its descriptor. -/
theorem Buffers.exportHandle {held : List Held} {buffer : Held} {s : Process}
    (h : Buffers base (buffer :: held) s) (answers : List Fd) (errno : Int)
    (entry : NativeHandle) :
    ∃ dup s', GbmMesaAllocator.exportHandle answers errno entry s buffer.handle = .ok (dup, s') ∧
      Buffers base held s' := by
  have native : s.handles buffer.handle = some buffer.native.native :=
    h.handles.of_mem List.mem_cons_self
  obtain ⟨opened, duplicated⟩ := dupFds_frame buffer.native.native.fds answers s
  obtain ⟨fds, calls, dropped⟩ :=
    dropHandle_frame (dupFds buffer.native.native.fds answers s).2 entry
  have kept : Buffers base (buffer :: held)
      (dropHandle (dupFds buffer.native.native.fds answers s).2 entry) := by
    rw [dropped, duplicated]
    exact h.congr rfl rfl rfl rfl rfl rfl
  obtain ⟨s', released, rest⟩ := kept.release errno
  unfold GbmMesaAllocator.exportHandle
  rw [if_neg (h.nonNull buffer List.mem_cons_self), Process.handle_eq_ok.mpr native, ok_bind]
  refine ⟨(dupToAidl answers s buffer.native.native).1, s', ?_, rest⟩
  change (releaseHandle errno (dropHandle (dupFds buffer.native.native.fds answers s).2 entry)
    buffer.handle >>= _) = _
  rw [released]
  rfl

/-- The second loop passes over the empty slots. -/
theorem Buffers.exportHandles (slots : List (Option Held)) :
    ∀ {i : Nat} {buffers : List NativeHandle} {s : Process},
      Buffers base slots.reduceOption s →
      ∃ exported, GbmMesaAllocator.exportHandles env i (slots.map slotHandle) buffers s =
        .ok exported := by
  induction slots with
  | nil => exact fun _ => ⟨_, rfl⟩
  | cons slot slots ih =>
      intro i buffers s h
      rw [List.map_cons]
      unfold GbmMesaAllocator.exportHandles
      cases slot with
      | none => exact ih h
      | some buffer =>
          rw [List.reduceOption_cons_of_some] at h
          obtain ⟨dup, s₁, returns, kept⟩ :=
            h.exportHandle (env.dups i) env.errno (buffers.getD i emptyHandle)
          change ∃ exported, (GbmMesaAllocator.exportHandle _ _ _ s buffer.handle >>= _) = _
          rw [returns, ok_bind]
          exact ih kept

/-- A request with failures that are not reported, and none that is, succeeds. -/
theorem doAllocate_null {s : Process} {count : Word} (can : CanAllocate s)
    (initialized : allocator.isInitialized = true) (nonneg : 0 ≤ count.toInt)
    (null : ∀ i, (env.attempts i).handleLocal = 0) (fresh : AttemptsNew env desc 0 count.toNat s)
    (told : ∀ k < count.toNat, ¬ Reported (answersOf env k)) :
    ∃ result s', doAllocate env allocator s desc count {} = .ok (.ok, result, s') := by
  have told' : ∀ k < count.toNat, ¬ Reported (answersOf env (([] : List Ptr).length + k)) := by
    intro k inside
    rw [List.length_nil, Nat.zero_add]
    exact told k inside
  obtain ⟨slots, stride, s₁, allocates, -, holds⟩ := (Holdings.refl s).allocateHandles_null can
    initialized null count.toNat 0 fresh told'
  unfold doAllocate
  rw [if_neg (not_not_intro initialized), if_neg (Int.not_lt.mpr nonneg), allocates, ok_bind]
  rw [List.nil_append] at holds
  obtain ⟨⟨buffers, s'⟩, exports⟩ := holds.toBuffers.exportHandles slots
  refine ⟨{ stride, buffers }, s', ?_⟩
  simp only [ne_eq, not_true, if_false, resizeBuffers, List.drop_nil, List.foldl_nil]
  rw [List.nil_append, exports]
  rfl

end Null

end GrallocGbmMesa.Allocator
