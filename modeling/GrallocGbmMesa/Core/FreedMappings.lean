import GrallocGbmMesa.Core.FailedLocks

/-!
# Mappings of freed buffers

A free destroys the BO of its handle in whatever lock state it finds it, and the user data
that remembers the mapping goes with the BO.  As long as no buffer is freed that is locked
for CPU access, every mapping is released before its BO is destroyed.
-/

namespace GrallocGbmMesa.Core

open Checked TransitionSystem
open GrallocGbmMesa.Platform

/-! ## What is added to the log -/

/-- The calls between two states are of a kind. -/
def Adds (Kind : Call → Prop) (s s' : Process) : Prop :=
  ∃ newer, s'.calls = newer ++ s.calls ∧ ∀ call ∈ newer, Kind call

namespace Adds

variable {Kind Other : Call → Prop} {s s' s'' : Process}

theorem nothing (same : s'.calls = s.calls) : Adds Kind s s' := ⟨[], same, nofun⟩

theorem one {call : Call} (kind : Kind call) (added : s'.calls = call :: s.calls) :
    Adds Kind s s' := by
  refine ⟨[call], added, ?_⟩
  rintro other hmem
  obtain rfl := List.mem_singleton.mp hmem
  exact kind

theorem trans (h : Adds Kind s s') (h' : Adds Kind s' s'') : Adds Kind s s'' := by
  obtain ⟨newer, added, kind⟩ := h
  obtain ⟨newest, added', kind'⟩ := h'
  refine ⟨newest ++ newer, by rw [added', added, List.append_assoc], fun call hmem => ?_⟩
  exact (List.mem_append.mp hmem).elim (kind' call) (kind call)

theorem mono (sub : ∀ call, Kind call → Other call) (h : Adds Kind s s') : Adds Other s s' := by
  obtain ⟨newer, added, kind⟩ := h
  exact ⟨newer, added, fun call hmem => sub call (kind call hmem)⟩

end Adds

/-- Calls that destroy a BO. -/
def Destroys : Call → Prop
  | .gbmBoDestroy _ => True
  | _ => False

theorem not_destroys_of_not_onBo {call : Call} (quiet : ¬ OnBo call) : ¬ Destroys call := by
  cases call with
  | gbmBoDestroy p => exact absurd trivial quiet
  | _ => exact id

/-- The calls concern no BO there is. -/
def Quiet (s s' : Process) : Prop := Adds (fun call => ¬ OnBo call) s s'

/-- The calls destroy no BO. -/
def Spares (s s' : Process) : Prop := Adds (fun call => ¬ Destroys call) s s'

namespace Quiet

variable {s s' : Process}

theorem spares (h : Quiet s s') : Spares s s' := h.mono fun _ => not_destroys_of_not_onBo

/-- Nothing is mapped or released. -/
theorem maps (h : Quiet s s') (p : Ptr) :
    made p s'.calls = made p s.calls ∧ released p s'.calls = released p s.calls := by
  obtain ⟨newer, added, quiet⟩ := h
  have none (call : Call) (hmem : call ∈ newer.reverse) :
      mapOf p call = .none ∧ unmapOf p call = .none := by
    have quiet := quiet call (List.mem_reverse.mp hmem)
    cases call with
    | gbmBoMap | gbmBoUnmap => exact absurd trivial quiet
    | _ => exact ⟨rfl, rfl⟩
  rw [added, made_append, released_append]
  have noMap : made p newer = [] :=
    List.filterMap_eq_nil_iff.mpr fun call hmem => (none call hmem).1
  have noUnmap : released p newer = [] :=
    List.filterMap_eq_nil_iff.mpr fun call hmem => (none call hmem).2
  rw [noMap, noUnmap, List.append_nil, List.append_nil]
  exact ⟨rfl, rfl⟩

theorem device (created : Ptr) (s : Process) (fd : Fd) :
    Quiet s (grallocGbmDeviceCreate created s fd).2.2 :=
  (grallocGbmDeviceCreate_calls created s fd).elim .nothing (.one id)

theorem allocate {env : AllocEnv} {desc : GrallocBufferDesc} {ret : Int}
    {stored : Option (Word × Ptr)} (h : grallocAllocate env s desc = .ok (ret, stored, s')) :
    Quiet s s' := by
  have device : Quiet s (deviceProcess env s) := .device env.createdDevice s s.gbmDevFd
  cases grallocAllocate_returns h with
  | refused denied => exact device
  | noBo asks answer | made asks answer => exact device.trans (.one id rfl)

theorem bufferImport {env : ImportEnv} {handle : Ptr} {ret : Int}
    (h : grallocGmBufferImport env s handle = .ok (ret, s')) : Quiet s s' := by
  have device : Quiet s (openedProcess env s) := .device env.createdDevice s s.gbmDevFd
  cases grallocGmBufferImport_returns h with
  | refused denied => exact .nothing rfl
  | noBo failed => exact device
  | asked failed => exact device.trans (.one id rfl)
  | imported nonNull free placed answer layout => exact device.trans (.one id rfl)

end Quiet

namespace Spares

variable {s s' : Process} {answer : GbmMapResult} {handle : Ptr} {usage : Word} {ret : Int}

theorem bufferLock {addr : Option Ptr}
    (hlive : ∀ p, s.gbmBoHandleMap handle = some p → s.bos p ≠ none)
    (h : grallocGbmBoLock answer s handle usage = .ok (ret, addr, s')) : Spares s s' := by
  rcases grallocGbmBoLock_returns hlive h with
    ⟨-, -, rfl⟩ | ⟨p, bo, native, handleUsage, bo', calls, -, -, -, -, returns, rfl⟩
  · exact .nothing rfl
  · cases returns with
    | refused | incompatible | shared | occupied => exact .nothing rfl
    | mapFailed | mapped => exact .one id rfl

theorem bufferLockYcbcr {ycbcr : Option AndroidYcbcr}
    (hlive : ∀ p, s.gbmBoHandleMap handle = some p → s.bos p ≠ none)
    (h : grallocGbmBoLockYcbcr answer s handle usage = .ok (ret, ycbcr, s')) : Spares s s' := by
  unfold grallocGbmBoLockYcbcr at h
  obtain ⟨⟨err, addr, s₁⟩, hlock, h⟩ := bind_eq_ok.mp h
  have locked := bufferLock hlive hlock
  dsimp only at h
  by_cases failed : err ≠ 0
  · rw [if_pos failed] at h
    cases h
    exact locked
  rw [if_neg failed] at h
  obtain ⟨hnd, -, h⟩ := bind_eq_ok.mp h
  obtain ⟨format, -, h⟩ := bind_eq_ok.mp h
  obtain ⟨width, -, h⟩ := bind_eq_ok.mp h
  obtain ⟨height, -, h⟩ := bind_eq_ok.mp h
  cases layout : ycbcrLayout (addr.getD 0) format width height with
  | none =>
      rw [layout] at h
      cases h
      exact locked
  | some ycbcr =>
      rw [layout] at h
      cases h
      exact locked

theorem bufferUnlock (hlive : ∀ p, s.gbmBoHandleMap handle = some p → s.bos p ≠ none)
    (h : grallocGbmBoUnlock s handle = .ok (ret, s')) : Spares s s' := by
  rcases grallocGbmBoUnlock_returns hlive h with
    ⟨-, -, rfl⟩ | ⟨p, bo, bo', calls, -, -, returns, -, rfl⟩
  · exact .nothing rfl
  · cases returns with
    | unlocked | shared => exact .nothing rfl
    | unmapped => exact .one id rfl

theorem waited (call : LockCall) (s : Process) : Spares s (call.waited s) := by
  unfold LockCall.waited
  cases call.fence with
  | none => exact .nothing rfl
  | some fence =>
      have logged : Spares s (s.log (.syncWait fence.1 3000)) := .one id rfl
      exact logged.trans (.one id rfl)

/-- A lock or an unlock destroys no BO. -/
theorem perform {call : LockCall} {addr : Option Ptr} (hlive : RegistryLive s)
    (h : call.perform s = .ok (ret, addr, s')) : Spares s s' := by
  cases hrequest : call.request with
  | none =>
      cases call with
      | unlock handle =>
          obtain ⟨⟨err, s₁⟩, hunlock, h⟩ := bind_eq_ok.mp h
          cases h
          exact bufferUnlock (hlive handle) hunlock
      | unlockAsync handle =>
          obtain ⟨⟨err, fence, s₁⟩, hasync, h⟩ := bind_eq_ok.mp h
          cases h
          obtain ⟨⟨err, s₁⟩, hunlock, hasync⟩ := bind_eq_ok.mp hasync
          have unlocked := bufferUnlock (hlive handle) hunlock
          dsimp only at hasync
          by_cases failed : err ≠ 0
          · rw [if_pos failed] at hasync
            cases hasync
            exact unlocked
          · rw [if_neg failed] at hasync
            cases hasync
            exact unlocked
      | lock | lockAsync | lockYcbcr | lockAsyncYcbcr => cases hrequest
  | some request =>
      by_cases fails : call.FenceFails
      · obtain ⟨fd, err, -, performed⟩ := LockCall.perform_fenceFails hrequest fails
        cases (performed s).symm.trans h
        exact .one id rfl
      have live := (call.waited_same s).registryLive hlive call.handle
      refine (waited call s).trans ?_
      rw [LockCall.perform_waited hrequest fails] at h
      unfold LockCall.afterWait at h
      by_cases planes : call.OfPlanes
      · rw [if_pos planes] at h
        obtain ⟨⟨err, ycbcr, s₁⟩, hlock, same⟩ := map_eq_ok.mp h
        cases same
        exact bufferLockYcbcr live hlock
      · rw [if_neg planes] at h
        exact bufferLock live h

end Spares

/-! ## BOs that are destroyed -/

/-- The mappings of a BO, if there is one. -/
def outstanding (s : Process) (p : Ptr) : List Ptr := (s.bos p).elim [] live

/-- The mappings of a BO that was destroyed had been released by then, each of them once. -/
def DestroyedReleased (calls : List Call) : Prop :=
  ∀ p earlier, .gbmBoDestroy p :: earlier <:+ calls → made p earlier = released p earlier

theorem DestroyedReleased.append {newer older : List Call}
    (spares : ∀ call ∈ newer, ¬ Destroys call) (h : DestroyedReleased older) :
    DestroyedReleased (newer ++ older) := by
  induction newer with
  | nil => exact h
  | cons call newer ih =>
      intro p earlier suffix
      rcases List.suffix_cons_iff.mp suffix with same | inside
      · cases same
        exact absurd trivial (spares _ List.mem_cons_self)
      · exact ih (fun call hmem => spares call (List.mem_cons_of_mem _ hmem)) p earlier inside

theorem DestroyedReleased.destroy {p : Ptr} {calls : List Call} (h : DestroyedReleased calls)
    (all : made p calls = released p calls) : DestroyedReleased (.gbmBoDestroy p :: calls) := by
  intro q earlier suffix
  rcases List.suffix_cons_iff.mp suffix with same | inside
  · cases same
    exact all
  · exact h q earlier inside

/-- The mappings that were made are those released and the outstanding ones, and none of the
latter was left on a BO that was destroyed. -/
structure MapsReleased (s : Process) : Prop where
  ledger : ∀ p, made p s.calls = released p s.calls ++ outstanding s p
  destroyed : DestroyedReleased s.calls

namespace MapsReleased

variable {created : Ptr → Option GrallocBufferDesc} {s s' : Process} {event : CoreEvent}

theorem initial (h : coreSystem.initial s) : MapsReleased s := by
  obtain ⟨⟨-, -, -, bos⟩, silent⟩ := h
  refine ⟨fun p => ?_, ?_⟩
  · rw [outstanding, bos, silent]
    rfl
  · rw [silent]
    intro p earlier suffix
    cases List.suffix_nil.mp suffix

theorem spared (h : MapsReleased s) (spares : Spares s s') : DestroyedReleased s'.calls := by
  obtain ⟨newer, added, spares⟩ := spares
  rw [added]
  exact h.destroyed.append spares

theorem quiet (h : MapsReleased s) (quiet : Quiet s s')
    (same : ∀ p, outstanding s' p = outstanding s p) : MapsReleased s' where
  ledger p := by
    obtain ⟨sameMade, sameReleased⟩ := quiet.maps p
    rw [sameMade, sameReleased, same, h.ledger]
  destroyed := h.spared quiet.spares

/-- A buffer that joins has no mappings. -/
theorem joins (h : MapsReleased s) (quiet : Quiet s s') {handle p : Ptr} {bo : GbmBo}
    {native : NativeHandle} (new : Joins s s' handle p bo native) : MapsReleased s' := by
  refine h.quiet quiet fun q => ?_
  unfold outstanding
  rw [new.bos]
  by_cases own : q = p
  · rw [own, Function.update_self, new.fresh, Option.elim_some, live, new.unmapped]
    rfl
  · rw [Function.update_of_ne own]

/-- One BO is mapped or unmapped, and the others stay. -/
theorem moves (h : MapsReleased s) {s₁ : Process} {p : Ptr} {bo bo' : GbmBo} {calls : List Call}
    (same : SameBuffers s s₁) (hbo : s.bos p = some bo) (spares : Spares s (putBo s₁ p bo' calls))
    (own : live bo ++ made p calls = released p calls ++ live bo')
    (others : ∀ q, q ≠ p → made q calls = [] ∧ released q calls = []) :
    MapsReleased (putBo s₁ p bo' calls) := by
  refine ⟨fun q => ?_, h.spared spares⟩
  have before := h.ledger q
  unfold outstanding at before ⊢
  rw [putBo_calls, made_append, released_append, same.made, same.released, before]
  by_cases moved : q = p
  · subst moved
    rw [putBo_bos_self, hbo, Option.elim_some, Option.elim_some, List.append_assoc, own,
      List.append_assoc]
  · obtain ⟨noMap, noUnmap⟩ := others q moved
    rw [putBo_bos_of_ne moved, same.bos, noMap, noUnmap, List.append_nil, List.append_nil]

theorem locked (h : MapsReleased s) (inv : CoreInv created s) {event : LockEvent}
    (hstep : lockSystem.step s event s') : MapsReleased s' := by
  obtain ⟨answered, performed⟩ := hstep
  obtain ⟨call, ret, addr⟩ := event
  have spares := Spares.perform inv.registryLive performed
  cases LockCall.perform_step inv.registryLive performed with
  | untouched failed same =>
      refine ⟨fun p => ?_, h.spared spares⟩
      rw [same.made, same.released, outstanding, same.bos]
      exact h.ledger p
  | locked hrequest same registered hbo hnative husage returns given =>
      have calls := returns.calls (answered _ _ hrequest)
      refine h.moves same hbo spares ?_ fun q other => ⟨(calls q).2.2 other, (calls q).1⟩
      rw [(calls _).1, (calls _).2.1 rfl, List.nil_append]
  | unlocked hrequest registered hbo returns =>
      obtain ⟨bo₀, hold, native, buffer⟩ := inv.holds _ _ registered
      cases hbo.symm.trans buffer.live
      refine h.moves (.refl s) hbo spares ?_ fun q other =>
        ⟨(returns.calls q).1, (returns.calls q).2 other⟩
      rw [(returns.calls _).1, List.append_nil]
      exact (buffer.represents.unlock returns).2

end MapsReleased

/-! ## Frees -/

/-- The BO has no mapping, its user data remembers none, and what was mapped of it has been
released. -/
structure Unmapped (s : Process) (p : Ptr) (bo : GbmBo) : Prop where
  mappings : bo.mappings = []
  mapData : (boData bo).mapData = 0
  released : made p s.calls = Core.released p s.calls

/-- The BO that is destroyed is unmapped. -/
def CoreEvent.DestroysUnmapped (s : Process) : CoreEvent → Prop
  | freed _ handle _ => ∀ p bo, Buffer s handle p bo → Unmapped s p bo
  | allocated .. | imported .. | locked _ | own => True

/-- The buffer that is freed is not locked for CPU access. -/
def CoreEvent.FreesUnlocked (s : Process) : CoreEvent → Prop
  | freed _ handle _ => ∀ p bo, Buffer s handle p bo → ¬ CpuUsage (boData bo).lockedFor
  | allocated .. | imported .. | locked _ | own => True

namespace MapsReleased

variable {created : Ptr → Option GrallocBufferDesc} {s s' : Process} {event : CoreEvent}

theorem unmapped_iff (h : MapsReleased s) {p : Ptr} {bo : GbmBo} {hold : Hold}
    (hbo : s.bos p = some bo) (represents : Represents bo hold) :
    Unmapped s p bo ↔ ¬ CpuUsage (boData bo).lockedFor := by
  rw [represents.lockedFor, ← Hold.mapping_eq_none]
  constructor
  · rintro ⟨none, -, -⟩
    rw [represents.mappings] at none
    exact Option.toList_eq_nil_iff.mp none
  · intro unmapped
    have none : bo.mappings = [] := by
      rw [represents.mappings, unmapped]
      rfl
    refine ⟨none, ?_, ?_⟩
    · rw [represents.mapData, Hold.mapData, unmapped]
      rfl
    · rw [h.ledger, outstanding, hbo, Option.elim_some, live, none]
      exact List.append_nil _

theorem destroysUnmapped_iff (h : MapsReleased s) (inv : CoreInv created s) (event : CoreEvent) :
    event.DestroysUnmapped s ↔ event.FreesUnlocked s := by
  cases event with
  | allocated | imported | locked | own => exact Iff.rfl
  | freed errno handle ret =>
      refine forall₂_congr fun p bo => forall_congr' fun buffer => ?_
      obtain ⟨bo', hold, native, registered⟩ := inv.holds handle p buffer.1
      cases buffer.2.symm.trans registered.live
      exact h.unmapped_iff buffer.2 registered.represents

theorem freed (h : MapsReleased s) {errno ret : Int} {handle : Ptr}
    (unmapped : (CoreEvent.freed errno handle ret).DestroysUnmapped s)
    (returns : grallocGmBufferFree errno s handle = .ok (ret, s')) : MapsReleased s' := by
  rcases grallocGmBufferFree_returns returns with
    ⟨-, -, rfl⟩ | ⟨p, -, registered, hbo, -, -, rfl⟩
  · exact h
  obtain ⟨bo, hbo⟩ := Option.ne_none_iff_exists'.mp hbo
  have unmapped := unmapped p bo ⟨registered, hbo⟩
  refine ⟨fun q => ?_, h.destroyed.destroy unmapped.released⟩
  have before := h.ledger q
  change made q ([.gbmBoDestroy p] ++ s.calls) =
    released q ([.gbmBoDestroy p] ++ s.calls) ++ (Function.update s.bos p none q).elim [] live
  rw [made_append, released_append, before, outstanding]
  by_cases own : q = p
  · rw [own, Function.update_self, hbo, Option.elim_some, live, unmapped.mappings]
    rfl
  · rw [Function.update_of_ne own]
    exact (List.append_nil _).trans (congrArg (· ++ _) (List.append_nil _).symm)

/-- Every step keeps the account, a free as long as the buffer is not locked for CPU access. -/
theorem step (h : MapsReleased s) (inv : CoreInv created s) (unlocked : event.FreesUnlocked s)
    (hstep : coreSystem.step s event s') : MapsReleased s' := by
  cases event with
  | allocated env desc ret stored =>
      obtain ⟨fresh, freshBo, returns⟩ := hstep
      have quiet := Quiet.allocate returns
      rcases grallocAllocate_joins fresh freshBo (fun p => inv.unregistered) returns with
        ⟨-, same⟩ | ⟨new, -, -, -, joined⟩
      · exact h.quiet quiet fun p => by rw [outstanding, same.bos, outstanding]
      · exact h.joins quiet joined
  | imported env handle ret =>
      obtain ⟨freshBo, returns⟩ := hstep
      have quiet := Quiet.bufferImport returns
      rcases grallocGmBufferImport_joins freshBo returns with
        ⟨-, same⟩ | ⟨-, p, bo, native, joined, -⟩
      · exact h.quiet quiet fun p => by rw [outstanding, same.bos, outstanding]
      · exact h.joins quiet joined
  | locked event => exact h.locked inv hstep
  | freed errno handle ret =>
      exact h.freed ((h.destroysUnmapped_iff inv _).mpr unlocked) hstep
  | own =>
      refine h.quiet hstep.calls fun p => ?_
      rw [outstanding, Elsewhere.bos hstep, outstanding]

end MapsReleased

/-- What holds of the buffers and of their mappings. -/
structure FreesInv (s : Process) : Prop where
  core : ∃ created, CoreInv created s
  maps : MapsReleased s

namespace FreesInv

variable {s s' : Process} {event : CoreEvent}

theorem initial (h : coreSystem.initial s) : FreesInv s :=
  ⟨⟨_, .of_run h .refl⟩, .initial h⟩

theorem step (inv : FreesInv s)
    (hstep : (coreSystem.guarded fun s event => event.FreesUnlocked s).step s event s') :
    FreesInv s' := by
  obtain ⟨⟨created, core⟩, maps⟩ := inv
  exact ⟨⟨_, core.step hstep.2⟩, maps.step core hstep.1 hstep.2⟩

theorem destroysUnmapped_iff (inv : FreesInv s) (event : CoreEvent) :
    event.DestroysUnmapped s ↔ event.FreesUnlocked s := by
  obtain ⟨⟨created, core⟩, maps⟩ := inv
  exact maps.destroysUnmapped_iff core event

end FreesInv

/-- The BOs that a run destroys are unmapped exactly if no buffer is freed in it that is locked
for CPU access, and then every mapping has been released or is outstanding on a BO that has
not been destroyed. -/
theorem freedMappings_iff {first last : Process} {labels : List CoreEvent}
    (initial : coreSystem.initial first) :
    (Run (coreSystem.guarded fun s event => event.DestroysUnmapped s) first labels last ↔
        Run (coreSystem.guarded fun s event => event.FreesUnlocked s) first labels last) ∧
      (Run (coreSystem.guarded fun s event => event.FreesUnlocked s) first labels last →
        MapsReleased last ∧
          ∀ event : CoreEvent, event.DestroysUnmapped last ↔ event.FreesUnlocked last) := by
  have start := FreesInv.initial initial
  constructor
  · exact Run.guarded_iff FreesInv start .step fun inv _ => inv.destroysUnmapped_iff _
  · intro run
    have inv := run.invariant FreesInv start .step
    exact ⟨inv.maps, inv.destroysUnmapped_iff⟩

/-- The buffer that the CPU may read is mapped at 4096. -/
def mappingLock : LockCall := .lock 16 grallocUsageSwReadOften (.mapped 4096 7 256#32)

theorem mappingLock_answered : mappingLock.Answered := by
  rintro _ _ ⟨⟩
  exact ⟨by decide, by decide⟩

theorem freedMappings_iff_unlocked : ∃ s s₁ s₂,
    mappingLock.perform (allocatedProcess readableDesc) = .ok (0, some 4096, s) ∧
      grallocGbmBoUnlock s 16 = .ok (0, s₁) ∧ grallocGmBufferFree 0 s₁ 16 = .ok (0, s₂) ∧
      made 32 s₂.calls = [7] ∧ released 32 s₂.calls = [7] ∧ MapsReleased s₂ := by
  obtain ⟨s, s₁, s₂, bo₁, locks, unlocks, frees, buffer, free, mapped, unmapped⟩ : ∃ s s₁ s₂ bo₁,
      mappingLock.perform (allocatedProcess readableDesc) = .ok (0, some 4096, s) ∧
        grallocGbmBoUnlock s 16 = .ok (0, s₁) ∧ grallocGmBufferFree 0 s₁ 16 = .ok (0, s₂) ∧
        Buffer s₁ 16 32 bo₁ ∧ (boData bo₁).lockedFor = 0 ∧ made 32 s₂.calls = [7] ∧
        released 32 s₂.calls = [7] :=
    ⟨_, _, _, _, rfl, rfl, rfl, ⟨rfl, rfl⟩, rfl, rfl, rfl⟩
  have locked : coreSystem.step (allocatedProcess readableDesc)
      (.locked ⟨mappingLock, 0, some 4096⟩) s := ⟨mappingLock_answered, locks⟩
  have unlocked : coreSystem.step s (.locked ⟨.unlock 16, 0, none⟩) s₁ := by
    refine ⟨nofun, ?_⟩
    rw [LockCall.perform, unlocks]
    rfl
  have run := ((allocatedProcess_run readableDesc).tail locked).tail unlocked
  have guarded : Run (coreSystem.guarded fun s event => event.FreesUnlocked s) _ _ s₁ :=
    run.to_guarded (by simp [allocatedLabels, CoreEvent.FreesUnlocked])
  have order : (CoreEvent.freed 0 16 0).FreesUnlocked s₁ := by
    intro p bo found
    obtain ⟨rfl, rfl⟩ := buffer.unique found
    rw [free]
    exact Bits.not_meets_zero _
  have freed : (coreSystem.guarded fun s event => event.FreesUnlocked s).step s₁
      (.freed 0 16 0) s₂ := ⟨order, frees⟩
  exact ⟨s, s₁, s₂, locks, unlocks, frees, mapped, unmapped,
    ((freedMappings_iff closedProcess_initial).2 (guarded.tail freed)).1⟩

/-- A buffer that is freed while it is mapped takes its mapping along. -/
theorem freedMappings_leaked : ∃ s s₁ bo, Reachable coreSystem s ∧
    mappingLock.perform (allocatedProcess readableDesc) = .ok (0, some 4096, s) ∧
    Buffer s 16 32 bo ∧ bo.mappings.length = 1 ∧ (boData bo).mapData = 7 ∧
    grallocGmBufferFree 0 s 16 = .ok (0, s₁) ∧ s₁.calls = .gbmBoDestroy 32 :: s.calls ∧
    made 32 s₁.calls = [7] ∧ released 32 s₁.calls = [] ∧
    ¬ (CoreEvent.freed 0 16 0).DestroysUnmapped s ∧ ¬ DestroyedReleased s₁.calls := by
  obtain ⟨s, s₁, bo, locks, buffer, mapped, data, frees, destroys, mapping, leaked, before⟩ :
      ∃ s s₁ bo, mappingLock.perform (allocatedProcess readableDesc) = .ok (0, some 4096, s) ∧
        Buffer s 16 32 bo ∧ bo.mappings.length = 1 ∧ (boData bo).mapData = 7 ∧
        grallocGmBufferFree 0 s 16 = .ok (0, s₁) ∧ s₁.calls = .gbmBoDestroy 32 :: s.calls ∧
        made 32 s₁.calls = [7] ∧ released 32 s₁.calls = [] ∧
        made 32 s.calls ≠ released 32 s.calls :=
    ⟨_, _, _, rfl, ⟨rfl, rfl⟩, rfl, rfl, rfl, rfl, rfl, rfl, by decide⟩
  have locked : coreSystem.step (allocatedProcess readableDesc)
      (.locked ⟨mappingLock, 0, some 4096⟩) s := ⟨mappingLock_answered, locks⟩
  refine ⟨s, s₁, bo, readableProcess_reachable.step locked, locks, buffer, mapped, data, frees,
    destroys, mapping, leaked, ?_, ?_⟩
  · intro unmapped
    exact before (unmapped 32 bo buffer).released
  · intro all
    exact before (all 32 s.calls (destroys ▸ List.suffix_refl _))

end GrallocGbmMesa.Core
