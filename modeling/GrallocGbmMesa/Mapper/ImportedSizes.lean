import GrallocGbmMesa.Core.AllocateImport
import GrallocGbmMesa.Mapper.LockCounts

/-!
# The sizes of imported BOs

The BO of an imported buffer has the size that the import computed from the words
of its handle, whatever happens to the buffer afterwards.
-/

namespace GrallocGbmMesa.Mapper

open Checked PartialMap TransitionSystem
open GrallocGbmMesa.Platform GrallocGbmMesa.Core

/-- A BO has the size that an import of the handle asks for. -/
def ImportSized (native : NativeHandle) (bo : GbmBo) : Prop :=
  ∃ format data, importData native format = .ok data ∧ bo.width = data.width ∧
    bo.height = data.height

/-- Every registered BO has the size of its handle. -/
def Sized (s : Process) : Prop :=
  ∀ p q bo native, Buffer s p q bo → s.handles p = some native → ImportSized native bo

theorem ImportSized.congr {native : NativeHandle} {bo bo' : GbmBo} (h : ImportSized native bo)
    (same : SameImage bo bo') : ImportSized native bo' := by
  obtain ⟨format, data, layout, width, height⟩ := h
  exact ⟨format, data, layout, same.1.trans width, same.2.1.trans height⟩

/-- An import that succeeds is one of the core library. -/
theorem importBuffer_core {env : ImportBufferEnv} {m m' : MapperState} {raw : NativeHandle}
    {p : Ptr} (returns : importBuffer env m (some raw) = .ok (.none, some p, m')) :
    ∃ fds, env.clone = some (p, fds) ∧
      grallocGmBufferImport env.gbm (cloned m.process p fds raw) p = .ok (0, m'.process) := by
  by_cases uninitialized : ¬ m.mInitialized
  · unfold importBuffer at returns
    rw [if_pos uninitialized] at returns
    cases returns
  by_cases empty : raw.numFds = 0
  · unfold importBuffer at returns
    rw [if_neg uninitialized] at returns
    simp only [if_pos empty] at returns
    cases returns
  rcases nativeHandleClone_returns env.clone m.process raw with
    failed | ⟨q, fds, hclone, -, made⟩
  · unfold importBuffer at returns
    rw [if_neg uninitialized] at returns
    simp only [if_neg empty, failed] at returns
    cases returns
  rw [importBuffer_cloned (not_not.mp uninitialized) empty made] at returns
  obtain ⟨⟨ret, s'⟩, himport, returns⟩ := bind_eq_ok.mp returns
  dsimp only at returns
  by_cases failed : ret ≠ 0
  · rw [if_pos failed] at returns
    obtain ⟨clone, -, returns⟩ := bind_eq_ok.mp returns
    cases returns
  · rw [if_neg failed] at returns
    cases returns
    rw [not_not.mp failed] at himport
    exact ⟨fds, hclone, himport⟩

section Steps

variable {base : Process} {imports : List Import} {m m' : MapperState}

/-- The sizes are kept by a step that leaves the buffers it does not resize. -/
theorem Sized.of_kept {s s' : Process} (sized : Sized s)
    (kept : ∀ p q bo native, Buffer s' p q bo → s'.handles p = some native →
      (∃ bo₀, Buffer s p q bo₀ ∧ s.handles p = some native ∧ SameImage bo₀ bo) ∨
        ImportSized native bo) : Sized s' := by
  intro p q bo native hbuffer placed
  rcases kept p q bo native hbuffer placed with ⟨bo₀, before, hnative, same⟩ | new
  · exact (sized p q bo₀ native before hnative).congr same
  · exact new

theorem sized_import (h : Ledger base imports m.forget) (sized : Sized m.process)
    {raw : NativeHandle} {env : ImportBufferEnv} {error : AIMapperError} {out : Option Ptr}
    (fresh : env.Fresh m.process)
    (returns : importBuffer env m (some raw) = .ok (error, out, m')) : Sized m'.process := by
  have can : CanImport m := ⟨h.canImport.ready, h.canImport.registry⟩
  rcases importBuffer_returns can fresh returns with
    ⟨-, -, -, -, same⟩ | ⟨rfl, initialized, -, p, fds, new, data, calls, rfl, hclone, -, made,
      after⟩
  · intro p q bo native hbuffer placed
    rw [same.handles] at placed
    exact sized p q bo native ⟨same.registry ▸ hbuffer.1, same.bos ▸ hbuffer.2⟩ placed
  -- what the core library has computed for the new buffer
  obtain ⟨fds', hclone', himport⟩ := importBuffer_core returns
  rw [hclone] at hclone'
  cases hclone'
  have placed := cloned_handles m.process p fds raw
  have importer := can.importer initialized fresh hclone raw
  rw [importer.import_eq placed] at himport
  obtain ⟨-, new', format, layout, made', computed, core⟩ :=
    (importBo_returns importer.free himport).resolve_left fun failed => failed.1 rfl
  cases made.symm.trans made'
  have live : m'.process.bos new.bo =
      some (importedBo new layout (cloned m.process p fds raw)) := by
    rw [core]
    exact Function.update_self ..
  have registry := cloned_registry m.process p fds raw
  obtain ⟨table, opened, -⟩ :=
    openAll_eq m.process (raw.fds.map fun fd => (m.process.fds fd).getD 0) fds
  have bos : (cloned m.process p fds raw).bos = m.process.bos := by
    unfold cloned
    rw [opened]
    rfl
  have handles : (cloned m.process p fds raw).handles =
      Function.update m.process.handles p (some { raw with fds }) := by
    unfold cloned
    rw [opened]
    rfl
  refine sized.of_kept fun p' q bo native hbuffer hnative => ?_
  by_cases own : p' = p
  · subst own
    have hplaced : m'.process.handles p' = some { raw with fds } := by
      rw [after]
      exact placed
    have registered : m'.process.gbmBoHandleMap p' = some new.bo := by
      rw [after]
      exact Function.update_self ..
    cases hplaced.symm.trans hnative
    cases registered.symm.trans hbuffer.1
    cases live.symm.trans hbuffer.2
    exact .inr ⟨format, layout, computed, rfl, rfl⟩
  · have registered := hbuffer.1
    have hlive := hbuffer.2
    rw [after] at registered hlive hnative
    dsimp only at registered hlive hnative
    rw [Function.update_of_ne own, registry] at registered
    rw [handles, Function.update_of_ne own] at hnative
    have other : q ≠ new.bo := by
      rintro rfl
      exact (h.registered_bo registered).1 (fresh.bo new made)
    rw [bos, Function.update_of_ne other] at hlive
    exact .inl ⟨bo, ⟨registered, hlive⟩, hnative, rfl, rfl, rfl⟩

/-- What does not concern the imports concerns no buffer. -/
theorem sized_undisturbed (h : Ledger base imports m.forget) (sized : Sized m.process)
    (same : Undisturbed imports m.forget m'.forget) : Sized m'.process := by
  have forgetful : Ledger base imports (Session.mapper ⟨m.forget, []⟩) := h
  refine sized.of_kept fun p q bo native hbuffer hnative => .inl ⟨bo, ?_, ?_, rfl, rfl, rfl⟩
  · exact ⟨same.registry ▸ hbuffer.1, same.bos ▸ hbuffer.2⟩
  · have registered : m.process.gbmBoHandleMap p = some q := same.registry ▸ hbuffer.1
    obtain ⟨entry, hmem, rfl, -⟩ := forgetful.of_registered registered
    exact (same.handles entry hmem).symm.trans hnative

/-- A BO that is locked or unlocked keeps its size. -/
theorem sized_put (sized : Sized m.process) {own : Ptr} {bo₀ bo' : GbmBo}
    (live : m.process.bos own = some bo₀) (image : SameImage bo₀ bo')
    (registry : m'.process.gbmBoHandleMap = m.process.gbmBoHandleMap)
    (handles : m'.process.handles = m.process.handles)
    (bos : m'.process.bos = Function.update m.process.bos own (some bo')) : Sized m'.process := by
  refine sized.of_kept fun p q bo native hbuffer hnative => .inl ?_
  have registered : m.process.gbmBoHandleMap p = some q := registry ▸ hbuffer.1
  have placed : m.process.handles p = some native := handles ▸ hnative
  have hlive := hbuffer.2
  rw [bos] at hlive
  by_cases same : q = own
  · subst same
    rw [Function.update_self] at hlive
    cases hlive
    exact ⟨bo₀, ⟨registered, live⟩, placed, image⟩
  · rw [Function.update_of_ne same] at hlive
    exact ⟨bo, ⟨registered, hlive⟩, placed, rfl, rfl, rfl⟩

theorem sized_lock (h : Ledger base imports m.forget) (sized : Sized m.process) {entry : Import}
    (hmem : entry ∈ imports) {cpuUsage : BitVec 64} {region : ARect} {fence : Option (Fd × FileId)}
    {answer : GbmMapResult} {error : AIMapperError} {addr : Option Ptr}
    (returns : Mapper.lock answer (receiveFence m fence).2 entry.handle cpuUsage region
      (receiveFence m fence).1 = .ok (error, addr, m')) : Sized m'.process := by
  obtain ⟨⟨error', addr', s⟩, hbody, returns⟩ := bind_eq_ok.mp returns
  obtain ⟨rfl, rest⟩ := Prod.mk.inj (Except.ok.inj returns)
  obtain ⟨rfl, after⟩ := Prod.mk.inj rest
  have received : (receiveFence m fence).2.process.gbmBoHandleMap = m.process.gbmBoHandleMap ∧
      (receiveFence m fence).2.process.bos = m.process.bos ∧
      (receiveFence m fence).2.process.handles = m.process.handles := by
    cases fence <;> exact ⟨rfl, rfl, rfl⟩
  have closed : m'.process.gbmBoHandleMap = s.gbmBoHandleMap ∧ m'.process.bos = s.bos ∧
      m'.process.handles = s.handles := by
    rw [← after]
    unfold closeUniqueFd
    split <;> exact ⟨rfl, rfl, rfl⟩
  obtain ⟨registry, bos, handles⟩ := received
  have sized' : Sized (receiveFence m fence).2.process := by
    refine sized.of_kept fun p q bo native hbuffer hnative => .inl ⟨bo, ?_, ?_, rfl, rfl, rfl⟩
    · exact ⟨registry ▸ hbuffer.1, bos ▸ hbuffer.2⟩
    · exact handles ▸ hnative
  have registered : m.process.gbmBoHandleMap entry.handle = some entry.bo := h.registered hmem
  rcases lockBody_returns (by rw [registry, registered]) (by rw [bos]; exact h.live hmem) hbody with
    ⟨-, same⟩ | ⟨bo, native, handleUsage, ret, bo', calls, hbo, -, -, hlock, put, -⟩
  · refine sized'.of_kept fun p q bo native hbuffer hnative => .inl ?_
    rw [same] at closed
    exact ⟨bo, ⟨closed.1 ▸ hbuffer.1, closed.2.1 ▸ hbuffer.2⟩, closed.2.2 ▸ hnative, rfl, rfl, rfl⟩
  · rw [put] at closed
    exact sized_put sized' hbo hlock.sameImage closed.1 closed.2.2 closed.2.1

theorem sized_unlock (h : Ledger base imports m.forget) (sized : Sized m.process)
    {entry : Import} (hmem : entry ∈ imports) {error : AIMapperError} {fence : Option Fd}
    (returns : Mapper.unlock m entry.handle = .ok (error, fence, m')) : Sized m'.process := by
  have registered : m.process.gbmBoHandleMap entry.handle = some entry.bo := h.registered hmem
  rcases unlock_returns registered (h.live hmem) returns with
    ⟨-, rfl⟩ | ⟨bo, bo', calls, hbo, hunlock, -, rfl⟩
  · exact sized
  · exact sized_put sized hbo hunlock.sameImage rfl rfl rfl

theorem sized_free (h : Ledger base imports m.forget) (sized : Sized m.process)
    {entry : Import} (hmem : entry ∈ imports) {errno : Int} {error : AIMapperError}
    (returns : freeBuffer errno m entry.handle = .ok (error, m')) : Sized m'.process := by
  have valid := h.valid entry hmem
  have placed : m.process.handles entry.handle = some entry.native := h.native hmem
  have registered : m.process.gbmBoHandleMap entry.handle = some entry.bo := h.registered hmem
  have initialized : m.mInitialized = true := h.initialized entry hmem
  rw [freeBuffer_registered initialized valid.nonNull registered (h.live hmem) placed
    valid.wellFormed.covers rfl errno] at returns
  cases returns
  refine sized.of_kept fun p q bo native hbuffer hnative => .inl ⟨bo, ⟨?_, ?_⟩, ?_, rfl, rfl, rfl⟩
  · exact eq_some_of_erased hbuffer.1
  · exact eq_some_of_erased hbuffer.2
  · exact eq_some_of_erased hnative

/-- Whatever a client does, registered BOs have the sizes of their handles. -/
theorem Ledger.sized_step {session next : Session} {event : ClientEvent}
    (h : Ledger base imports session.mapper.forget)
    (held : session.outstanding = imports.map Import.handle)
    (hstep : clientSystem.step session event next) (sized : Sized session.mapper.process) :
    Sized next.mapper.process := by
  cases h.clientMove held hstep with
  | undisturbed quiet same => exact sized_undisturbed h sized same
  | imported fresh returns => exact sized_import h sized fresh returns
  | freed hmem returns => exact sized_free h sized hmem returns
  | locked hmem valid returns => exact sized_lock h sized hmem returns
  | unlocked hmem returns => exact sized_unlock h sized hmem returns

end Steps

/-- In every state that a client reaches, registered BOs have the sizes of their handles. -/
theorem sized_of_clientRun {first last : Session} {labels : List ClientEvent}
    (initial : clientSystem.initial first) (run : Run clientSystem first labels last) :
    Sized last.mapper.process := by
  induction run with
  | refl =>
      obtain ⟨-, env, s, unused, constructed⟩ := initial
      intro p q bo native hbuffer
      have noBo : first.mapper.process.bos = fun _ => none := by
        rw [constructed]
        exact (grallocGbmDeviceInit_buffers env s).2.trans unused.bos
      rw [Buffer, noBo] at hbuffer
      cases hbuffer.2
  | tail before hstep ih =>
      obtain ⟨base, imports, ledger, held⟩ := Ledger.of_clientRun initial before
      exact ledger.sized_step held hstep ih

end GrallocGbmMesa.Mapper
