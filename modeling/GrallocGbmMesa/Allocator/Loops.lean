import GrallocGbmMesa.Allocator.Holdings

/-!
# The loops of an allocation

The first loop ends with every buffer held or with none, the second turns what
is held into what is exported.
-/

namespace GrallocGbmMesa.Allocator

open Checked PartialMap
open GrallocGbmMesa.Platform GrallocGbmMesa.Core GbmMesaAllocator

/-- The platform has no handle or no BO for an attempt. -/
def AttemptFails (env : AllocEnv) : Prop := env.newHandle = 0 ∨ env.newBo = none

instance (env : AllocEnv) : Decidable (AttemptFails env) :=
  decidable_of_iff (env.newHandle = 0 ∨ env.newBo.isNone = true)
    (or_congr_right Option.isNone_iff_eq_none)

theorem Reported.attemptFails {env : AllocEnv} (h : Reported env) : AttemptFails env :=
  h.imp_right And.left

/-- An attempt that succeeds has not reported a failure. -/
theorem not_reported_of_ok {env : AllocEnv} {s s' : Process} {desc : GrallocBufferDesc}
    {stored : Option (Word × Ptr)} (h : grallocAllocate env s desc = .ok (0, stored, s')) :
    ¬ Reported env := by
  generalize hret : (0 : Int) = ret at h
  cases grallocAllocate_returns h with
  | refused denied => exact absurd hret (by decide)
  | noBo asks answer =>
      rintro (null | ⟨-, errno⟩)
      · exact asks.handle null
      · omega
  | made asks answer =>
      rintro (null | ⟨none, -⟩)
      · exact asks.handle null
      · cases none.symm.trans answer

/-- Something holds of each attempt from `i` on in the process in which it is made. -/
def EachAttempt (P : AllocEnv → Process → Prop) (answers : Nat → AllocEnv)
    (desc : GrallocBufferDesc) : Nat → Nat → Process → Prop
  | _, 0, _ => True
  | i, remaining + 1, s =>
      P (answers i) s ∧
        ∀ stored s', grallocAllocate (answers i) s desc = .ok (0, stored, s') →
          EachAttempt P answers desc (i + 1) remaining s'

/-- The answers to `gralloc_allocate` among those to a request. -/
def answersOf (env : DoAllocateEnv) (i : Nat) : AllocEnv := (env.attempts i).toAllocEnv

/-- Every attempt from `i` on is handed what is not in use when it is made. -/
def AttemptsNew (env : DoAllocateEnv) : GrallocBufferDesc → Nat → Nat → Process → Prop :=
  EachAttempt AttemptNew (answersOf env)

/-- Every attempt from `i` on is handed what is not in use when it is made, exports its BO, and
has an error number if it has none. -/
def AttemptsFresh (env : DoAllocateEnv) : GrallocBufferDesc → Nat → Nat → Process → Prop :=
  EachAttempt AttemptFresh (answersOf env)

/-- The attempt is handed what is not in use, and says that there is no BO if there is none. -/
def AttemptReports (env : AllocEnv) (s : Process) : Prop := AttemptNew env s ∧ ¬ Unreported env

theorem AttemptFresh.reports {env : AllocEnv} {s : Process} (h : AttemptFresh env s) :
    AttemptReports env s := ⟨h.toAttemptNew, h.not_unreported⟩

section EachAttempt

variable {P Q : AllocEnv → Process → Prop} {answers : Nat → AllocEnv} {desc : GrallocBufferDesc}

theorem EachAttempt.mono (weaker : ∀ {env s}, P env s → Q env s) (remaining : Nat) :
    ∀ {i : Nat} {s : Process}, EachAttempt P answers desc i remaining s →
      EachAttempt Q answers desc i remaining s := by
  induction remaining with
  | zero => exact fun _ => trivial
  | succ remaining ih =>
      rintro i s ⟨first, later⟩
      exact ⟨weaker first, fun stored s' returns => ih (later stored s' returns)⟩

/-- No attempt that is made fails unreported if each that would has one before it that reports
its failure. -/
theorem EachAttempt.reports (remaining : Nat) : ∀ {i : Nat} {s : Process},
    EachAttempt AttemptNew answers desc i remaining s →
      (∀ j < remaining, Unreported (answers (i + j)) → ∃ k < j, Reported (answers (i + k))) →
      EachAttempt AttemptReports answers desc i remaining s := by
  induction remaining with
  | zero => exact fun _ _ => trivial
  | succ remaining ih =>
      rintro i s ⟨first, later⟩ told
      refine ⟨⟨first, ?_⟩, ?_⟩
      · intro silent
        obtain ⟨k, none, -⟩ := told 0 (Nat.succ_pos _) silent
        cases none
      · intro stored s' returns
        refine ih (later stored s' returns) ?_
        intro j inside silent
        rw [Nat.add_assoc, Nat.add_comm 1 j] at silent
        obtain ⟨k, before, reported⟩ := told (j + 1) (Nat.succ_lt_succ inside) silent
        cases k with
        | zero => exact absurd reported (not_reported_of_ok returns)
        | succ k =>
            refine ⟨k, Nat.lt_of_succ_lt_succ before, ?_⟩
            rwa [Nat.add_assoc, Nat.add_comm 1 k]

theorem EachAttempt.reports_of_told {remaining : Nat} {s : Process}
    (h : EachAttempt AttemptNew answers desc 0 remaining s)
    (told : ∀ j < remaining, ¬ Unreported (answers j)) :
    EachAttempt AttemptReports answers desc 0 remaining s := by
  refine h.reports remaining fun j before silent => ?_
  rw [Nat.zero_add] at silent
  exact absurd silent (told j before)

end EachAttempt

/-- Every handle from the entry at `i` on is duplicated to a descriptor that is
not open at that time. -/
def DupsFresh (env : DoAllocateEnv) : Nat → List Ptr → Process → Prop
  | _, [], _ => True
  | i, handle :: rest, s =>
      (∃ fd, env.dups i = [fd] ∧ 0 ≤ fd.toInt ∧ s.fds fd = none) ∧
        ∀ entry s', exportHandle (env.dups i) env.errno emptyHandle s handle = .ok (entry, s') →
          DupsFresh env (i + 1) rest s'

/-- The buffers of the attempts from `i` on, if all of them succeed. -/
inductive Attempted (env : DoAllocateEnv) (desc : GrallocBufferDesc) : Nat → List Held → Prop where
  | nil (i : Nat) : Attempted env desc i []
  | cons {i : Nat} {new : NewBo} {rest : List Held} (nonNull : (env.attempts i).newHandle ≠ 0)
      (created : (env.attempts i).newBo = some new) (later : Attempted env desc (i + 1) rest) :
      Attempted env desc i (allocated (env.attempts i).toAllocEnv new desc :: rest)

namespace Attempted

variable {env : DoAllocateEnv} {desc : GrallocBufferDesc} {held : List Held}

theorem get {i k : Nat} {buffer : Held} (h : Attempted env desc i held)
    (hbuffer : held[k]? = some buffer) :
    ∃ new, (env.attempts (i + k)).newHandle ≠ 0 ∧ (env.attempts (i + k)).newBo = some new ∧
      buffer = allocated (env.attempts (i + k)).toAllocEnv new desc := by
  induction h generalizing k with
  | nil i => cases hbuffer
  | @cons i new rest nonNull created later ih =>
      cases k with
      | zero =>
          cases hbuffer
          exact ⟨new, nonNull, created, rfl⟩
      | succ k =>
          rw [List.getElem?_cons_succ] at hbuffer
          rw [Nat.add_succ, ← Nat.succ_add]
          exact ih hbuffer

theorem succeeds {i k : Nat} (h : Attempted env desc i held) (inside : k < held.length) :
    ¬ AttemptFails (env.attempts (i + k)).toAllocEnv := by
  obtain ⟨new, nonNull, created, -⟩ := h.get (List.getElem?_eq_getElem inside)
  rintro (null | failed)
  · exact nonNull null
  · rw [created] at failed
    cases failed

end Attempted

/-- The pixel stride a loop reports: that of the last buffer, or the one it started with. -/
def batchStride (desc : GrallocBufferDesc) (stride : Word) (held : List Held) : Word :=
  held.foldl (fun _ buffer =>
    grallocGmAndroidCaculatePixelStride desc.androidFormat buffer.native.stride) stride

/-- The AIDL handle of a buffer that is exported on a descriptor. -/
def aidlHandle (entry : Fd × Held) : NativeHandle where
  fds := [entry.1]
  ints := entry.2.native.native.ints

def exportEntry (entry : Fd × Held) : Fd × FileId := (entry.1, entry.2.file)

/-! ## Entries of a result -/

section Entries

variable {before : List NativeHandle} {remaining : Nat}

/-- The entry that is written next is empty. -/
theorem getD_next {i : Nat} (length : before.length = i) :
    (before ++ List.replicate (remaining + 1) emptyHandle).getD i emptyHandle = emptyHandle := by
  rw [List.getD_eq_getElem?_getD, List.getElem?_append_right (Nat.le_of_eq length), length,
    Nat.sub_self]
  rfl

theorem set_next {i : Nat} (length : before.length = i) (entry : NativeHandle) :
    (before ++ List.replicate (remaining + 1) emptyHandle).set i entry =
      (before ++ [entry]) ++ List.replicate remaining emptyHandle := by
  rw [List.set_append_right _ _ (Nat.le_of_eq length), length, Nat.sub_self, List.append_assoc]
  rfl

end Entries

/-! ## The loops -/

/-- An attempt is counted from what has been stored before it. -/
theorem length_stored_add {α : Type} (stored : List α) (last : α) (k : Nat) :
    (stored ++ [last]).length + k = stored.length + (k + 1) := by
  rw [List.length_append, List.length_singleton, Nat.add_assoc, Nat.add_comm 1 k]

namespace Holdings

variable {base s : Process} {env : DoAllocateEnv} {allocator : GbmMesaAllocator}
  {desc : GrallocBufferDesc} {held : List Held} {exported : List (Fd × FileId)}

/-- One attempt of the first loop. -/
theorem attempt (h : Holdings base held [] s) (can : CanAllocate base)
    (initialized : allocator.isInitialized = true) {attempt : AttemptEnv}
    (fresh : AttemptNew attempt.toAllocEnv s) (desc : GrallocBufferDesc) :
    (∃ s', gbmAllocateBuffer attempt allocator s desc =
          .ok (toBinderStatus .noResources, none, s') ∧
        Reported attempt.toAllocEnv ∧ Holdings base held [] s') ∨
      (∃ s', Core.grallocAllocate attempt.toAllocEnv s desc = .ok (0, none, s') ∧
        gbmAllocateBuffer attempt allocator s desc =
          .ok (.ok, some (grallocGmAndroidCaculatePixelStride desc.androidFormat 0,
            attempt.handleLocal), s') ∧
        Unreported attempt.toAllocEnv ∧ Holdings base held [] s') ∨
      ∃ new s', Core.grallocAllocate attempt.toAllocEnv s desc =
          .ok (0, some (new.stride, attempt.newHandle), s') ∧
        gbmAllocateBuffer attempt allocator s desc =
          .ok (.ok, some (grallocGmAndroidCaculatePixelStride desc.androidFormat new.stride,
            attempt.newHandle), s') ∧
        attempt.newHandle ≠ 0 ∧ attempt.newBo = some new ∧
        Holdings base (held ++ [allocated attempt.toAllocEnv new desc]) [] s' := by
  unfold gbmAllocateBuffer
  rw [if_neg (not_not_intro initialized), if_neg (by simp [grallocIsDescSupport_eq_true])]
  rcases h.grallocAllocate can fresh desc with
    ⟨ret, s', returns, ⟨failed, told⟩ | ⟨rfl, silent⟩, kept⟩ |
    ⟨new, s', returns, nonNull, created, kept⟩
  · rw [returns, ok_bind]
    simp only [if_pos failed]
    exact .inl ⟨s', rfl, told, kept⟩
  · rw [returns, ok_bind]
    exact .inr (.inl ⟨s', rfl, rfl, silent, kept⟩)
  · rw [returns, ok_bind]
    exact .inr (.inr ⟨new, s', rfl, rfl, nonNull, created, kept⟩)

/-- The first loop holds one buffer for each attempt, or releases what it held. -/
theorem allocateHandles {P : AllocEnv → Process → Prop}
    (reports : ∀ {env s}, P env s → AttemptReports env s) (can : CanAllocate base)
    (initialized : allocator.isInitialized = true) (remaining : Nat) :
    ∀ {held : List Held} {s : Process} (stride : Word), Holdings base held [] s →
      EachAttempt P (answersOf env) desc held.length remaining s →
      (∃ handles stride' s',
          GbmMesaAllocator.allocateHandles env allocator desc remaining (held.map Held.handle)
            stride s = .ok (toBinderStatus .noResources, handles, stride', s') ∧
          (∃ k < remaining, Reported (answersOf env (held.length + k)) ∧
            ∀ j < k, ¬ Unreported (answersOf env (held.length + j))) ∧
          Holdings base [] [] s') ∨
        ∃ more s',
          GbmMesaAllocator.allocateHandles env allocator desc remaining (held.map Held.handle)
            stride s = .ok (.ok, (held ++ more).map Held.handle, batchStride desc stride more, s') ∧
          Attempted env desc held.length more ∧ more.length = remaining ∧
          (∀ k < remaining, ∃ s, P (answersOf env (held.length + k)) s) ∧
          Holdings base (held ++ more) [] s' := by
  induction remaining with
  | zero =>
      intro held s stride h fresh
      refine .inr ⟨[], s, ?_, .nil _, rfl, nofun, ?_⟩
      · rw [List.append_nil]
        rfl
      · rwa [List.append_nil]
  | succ remaining ih =>
      intro held s stride h ⟨first, later⟩
      obtain ⟨fresh, told⟩ := reports first
      unfold GbmMesaAllocator.allocateHandles
      rw [List.length_map]
      rcases h.attempt can initialized fresh desc with
        ⟨s₁, returns, failed, kept⟩ | ⟨s₁, -, -, silent, -⟩ |
        ⟨new, s₁, allocates, returns, nonNull, created, kept⟩
      · obtain ⟨s', released, nothing⟩ := kept.releaseAll env.errno
        refine .inl ⟨held.map Held.handle, stride, s', ?_, ⟨0, Nat.succ_pos _, failed, nofun⟩,
          nothing⟩
        rw [returns, ok_bind]
        change (do
          let s ← (held.map Held.handle).foldlM (releaseHandle env.errno) s₁
          Except.ok (toBinderStatus .noResources, held.map Held.handle, stride, s)) = _
        rw [released, ok_bind]
      · exact absurd silent told
      · have rest := later _ _ allocates
        rw [returns, ok_bind]
        rcases ih (grallocGmAndroidCaculatePixelStride desc.androidFormat new.stride) kept
          (by simpa using rest) with
          ⟨handles, stride', s', loop, ⟨k, inside, failed, before⟩, nothing⟩ |
          ⟨more, s', loop, attempted, length, each, all⟩
        · rw [List.map_append] at loop
          refine .inl ⟨handles, stride', s', loop, ⟨k + 1, Nat.succ_lt_succ inside, ?_, ?_⟩,
            nothing⟩
          · rwa [length_stored_add] at failed
          · intro j earlier
            cases j with
            | zero => exact told
            | succ j =>
                rw [← length_stored_add]
                exact before j (Nat.lt_of_succ_lt_succ earlier)
        · rw [List.append_assoc] at loop all
          rw [List.length_append, List.length_singleton] at attempted
          rw [List.map_append] at loop
          refine .inr ⟨allocated (env.attempts held.length).toAllocEnv new desc :: more, s', loop,
            .cons nonNull created attempted, by rw [List.length_cons, length], ?_, all⟩
          intro k inside
          cases k with
          | zero => exact ⟨s, first⟩
          | succ k =>
              rw [← length_stored_add]
              exact each k (Nat.lt_of_succ_lt_succ inside)

/-- The second loop exports every buffer that is held, and holds none at its end. -/
theorem exportHandles (held : List Held) : ∀ {i : Nat} {s : Process}
    {exported : List (Fd × FileId)} (before : List NativeHandle), before.length = i →
      Holdings base held exported s → (∀ buffer ∈ held, ¬ buffer.Unexported) →
      DupsFresh env i (held.map Held.handle) s →
      ∃ (exports : List (Fd × Held)) (s' : Process), exports.map Prod.snd = held ∧
        (∀ entry ∈ exports, 0 ≤ entry.1.toInt) ∧
        GbmMesaAllocator.exportHandles env i (held.map Held.handle)
            (before ++ List.replicate held.length emptyHandle) s =
          .ok (before ++ exports.map aidlHandle, s') ∧
        Holdings base [] (exported ++ exports.map exportEntry) s' := by
  induction held with
  | nil =>
      intro i s exported before length h present fresh
      exact ⟨[], s, rfl, nofun, by simp [GbmMesaAllocator.exportHandles], by simpa using h⟩
  | cons buffer held ih =>
      intro i s exported before length h present fresh
      obtain ⟨⟨fd, hdups, valid, free⟩, later⟩ := fresh
      obtain ⟨s₁, returns, kept⟩ :=
        h.exportHandle (present buffer List.mem_cons_self) valid free env.errno
      rw [hdups] at later
      have length' : (before ++ [aidlHandle (fd, buffer)]).length = i + 1 := by
        rw [List.length_append, length, List.length_singleton]
      obtain ⟨exports, s', all, positive, rest, nothing⟩ := ih _ length' kept
        (fun other hother => present other (List.mem_cons_of_mem _ hother)) (later _ _ returns)
      refine ⟨(fd, buffer) :: exports, s', by rw [List.map_cons, all],
        List.forall_mem_cons.mpr ⟨valid, positive⟩, ?_, ?_⟩
      · rw [List.map_cons, List.length_cons]
        unfold GbmMesaAllocator.exportHandles
        rw [getD_next length, hdups, returns, ok_bind]
        dsimp only
        rw [set_next length]
        exact rest.trans (by rw [List.append_assoc]; rfl)
      · rw [List.append_assoc] at nothing
        exact nothing

end Holdings

end GrallocGbmMesa.Allocator
