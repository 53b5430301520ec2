import GrallocGbmMesa.Mapper.Ledger
import GrallocGbmMesa.Mapper.Records

/-!
# What the calls do to the ledger

Each call of a session keeps the ledger: an import that succeeds adds an entry, a free drops
the one of its buffer, and every other call leaves the entries as they are.
-/

namespace GrallocGbmMesa.Mapper

open Checked PartialMap TransitionSystem
open GrallocGbmMesa.Platform GrallocGbmMesa.Core

namespace Ledger

variable {base : Process} {imports : List Import} {m m' : MapperState} {entry : Import}

/-- Initialising the device creates no buffer. -/
theorem initial {env : DeviceInitEnv} {s : Process} (unused : Unused s) :
    Ledger (construct env s).process [] (construct env s) := by
  have untouched := grallocGbmDeviceInit_buffers env s
  have noBo : (construct env s).process.bos = fun _ => none := untouched.2.trans unused.bos
  refine ⟨untouched.1.trans unused.registry, rfl, rfl, ?_, ?_, ?_, List.nodup_nil, List.nodup_nil,
    List.nodup_nil, ?_, ?_, ?_⟩
  · intro p
    simp [noBo]
  · intro p bo hbo
    rw [noBo] at hbo
    cases hbo
  · intro fd stored
    exact absurd rfl stored
  · intro entry hmem
    cases hmem
  · intro positive
    exact grallocGbmDeviceInit_ready (fun dev => absurd unused.gbmDev dev)
      (of_decide_eq_true positive)
  · intro entry hmem
    cases hmem

theorem setRecord (h : Ledger base imports m) (hmem : entry ∈ imports)
    (metadata : GrallocMetadata) : Ledger base imports (m.setRecord entry.primeFd metadata) := by
  apply h.of_metadata
  intro fd stored
  by_cases same : fd = entry.primeFd
  · subst same
    exact List.mem_map_of_mem hmem
  · rw [Function.update_of_ne same] at stored
    exact h.metadata fd stored

theorem prime (entry : Import) : entry.native.primeFd = .ok entry.primeFd :=
  NativeHandle.primeFd_eq rfl

theorem readable (h : Ledger base imports m) (hmem : entry ∈ imports) :
    Readable m entry.handle entry.native entry.primeFd :=
  ⟨h.initialized entry hmem, (h.valid entry hmem).nonNull, h.native hmem, prime entry⟩

/-! ## One call -/

theorem canImport (h : Ledger base imports m) : CanImport m :=
  ⟨h.ready, fun _ => h.unregistered⟩

theorem importBuffer (h : Ledger base imports m) {env : ImportBufferEnv} {raw : NativeHandle}
    {error : AIMapperError} {out : Option Ptr} (wellFormed : raw.WellFormed)
    (fresh : env.Fresh m.process)
    (returns : Mapper.importBuffer env m (some raw) = .ok (error, out, m')) :
    (error ≠ .none ∧ out = none ∧ SameResources m.process m'.process ∧
        m'.metadataMap = m.metadataMap ∧ Ledger base imports m') ∨
      ∃ entry, error = .none ∧ out = some entry.handle ∧ entry.ints = raw.ints ∧
        m.process.fds entry.primeFd = none ∧ m'.metadataMap = m.metadataMap ∧
        Ledger base (imports ++ [entry]) m' := by
  rcases importBuffer_returns h.canImport fresh returns with
    ⟨failed, noHandle, initialized, metadata, same⟩ |
    ⟨succeeded, initialized, -, p, fds, new, data, calls, rfl, hclone, length, hnew, rfl⟩
  · exact .inl ⟨failed, noHandle, same, metadata, h.of_sameResources initialized metadata same⟩
  · obtain ⟨original, ints⟩ := raw
    obtain ⟨source, rfl⟩ := List.length_eq_one_iff.mp wellFormed.1
    obtain ⟨fd, rfl⟩ := List.length_eq_one_iff.mp length
    obtain ⟨nonNull, freshHandle⟩ := fresh.handle p [fd] hclone
    have freshFd := ((fresh.fds p [fd] hclone).2 fd (List.mem_singleton_self fd)).2
    refine .inr ⟨⟨p, ints, fd, (m.process.fds source).getD 0, new.bo⟩, succeeded, rfl, rfl,
      freshFd, rfl, ?_⟩
    exact h.append initialized nonNull freshHandle freshFd (fresh.bo new hnew) wellFormed.2
      (represents_idle rfl rfl)

theorem freeBuffer (h : Ledger base imports m) (hmem : entry ∈ imports) (errno : Int) :
    ∃ m', Mapper.freeBuffer errno m entry.handle = .ok (.none, m') ∧
      m'.metadataMap = Function.update m.metadataMap entry.primeFd none ∧
      Ledger base (imports.filter fun other => other.handle ≠ entry.handle) m' := by
  have valid := h.valid entry hmem
  exact ⟨_, freeBuffer_registered (h.initialized entry hmem) valid.nonNull (h.registered hmem)
    (h.live hmem) (h.native hmem) valid.wellFormed.covers rfl errno, rfl, h.remove hmem⟩

theorem receiveFence_eq (m : MapperState) (fence : Option (Fd × FileId)) :
    (receiveFence m fence).2 =
      { m with process := { m.process with fds := (receiveFence m fence).2.process.fds } } := by
  cases fence <;> rfl

/-- A fence that was received is closed again. -/
theorem closeFence_fds {m : MapperState} {fence : Option (Fd × FileId)}
    (fresh : ∀ fd file, fence = some (fd, file) → 0 ≤ fd.toInt ∧ m.process.fds fd = none)
    {s : Process} (opened : s.fds = (receiveFence m fence).2.process.fds) :
    (closeUniqueFd s (receiveFence m fence).1).fds = m.process.fds := by
  cases fence with
  | none => exact opened
  | some received =>
      obtain ⟨fd, file⟩ := received
      obtain ⟨positive, free⟩ := fresh fd file rfl
      have valid : fd ≠ -1 := by
        rintro rfl
        exact absurd positive (by decide)
      change (closeUniqueFd s fd).fds = _
      unfold closeUniqueFd
      rw [if_neg valid]
      change Function.update s.fds fd none = m.process.fds
      rw [opened]
      change Function.update (Function.update m.process.fds fd (some file)) fd none = m.process.fds
      rw [Function.update_idem, ← free, Function.update_eq_self]

/-- Closing a descriptor leaves everything but the open files. -/
theorem sameResources_closeUniqueFd {s t : Process} {fd : Fd}
    (same : SameResources s { t with fds := s.fds })
    (closed : (closeUniqueFd t fd).fds = s.fds) : SameResources s (closeUniqueFd t fd) := by
  have others : SameResources { t with fds := s.fds }
      { closeUniqueFd t fd with fds := s.fds } := by
    unfold closeUniqueFd
    split <;> exact ⟨rfl, rfl, rfl, rfl, rfl, rfl, rfl⟩
  exact
    { registry := others.registry.trans same.registry
      bos := others.bos.trans same.bos
      handles := others.handles.trans same.handles
      fds := closed
      gbmDevFd := others.gbmDevFd.trans same.gbmDevFd
      gbmDev := others.gbmDev.trans same.gbmDev
      devices := others.devices.trans same.devices }

theorem lock (h : Ledger base imports m) (hmem : entry ∈ imports) {fence : Option (Fd × FileId)}
    {answer : GbmMapResult} {cpuUsage : BitVec 64} {region : ARect} {error : AIMapperError}
    {addr : Option Ptr} (valid : answer.Valid)
    (fresh : ∀ fd file, fence = some (fd, file) → 0 ≤ fd.toInt ∧ m.process.fds fd = none)
    (returns : Mapper.lock answer (receiveFence m fence).2 entry.handle cpuUsage region
      (receiveFence m fence).1 = .ok (error, addr, m')) :
    m'.metadataMap = m.metadataMap ∧ Ledger base imports m' := by
  obtain ⟨⟨error', addr', s⟩, hbody, returns⟩ := bind_eq_ok.mp returns
  cases returns
  have received := receiveFence_eq m fence
  have closed := @closeFence_fds m fence fresh
  generalize (receiveFence m fence).1 = fd at closed
  generalize (receiveFence m fence).2 = m₁ at received closed hbody
  generalize m₁.process.fds = fds at received closed
  subst received
  rcases lockBody_returns (by exact h.registered hmem) (by exact h.live hmem) hbody with
    ⟨-, rfl⟩ | ⟨bo, native, handleUsage, ret, bo', calls, hbo, -, -, hlock, rfl, -⟩
  · have same : SameResources m.process (closeUniqueFd { m.process with fds } fd) :=
      sameResources_closeUniqueFd (.refl m.process) (closed rfl)
    exact ⟨rfl, h.of_sameResources rfl rfl same⟩
  · obtain ⟨hold, represents⟩ := h.locks _ _ hbo
    have after : ∃ hold', Represents bo' hold' := by
      rcases represents.lock valid hlock with ⟨-, same⟩ | ⟨-, hold', -, taken⟩
      · exact ⟨hold, same⟩
      · exact ⟨hold', taken⟩
    obtain ⟨hold', represents'⟩ := after
    have same : SameResources (putBo m.process entry.bo bo' calls)
        (closeUniqueFd (putBo { m.process with fds } entry.bo bo' calls) fd) :=
      sameResources_closeUniqueFd (.refl (putBo m.process entry.bo bo' calls)) (closed rfl)
    exact ⟨rfl, (h.of_putBo hbo represents').of_sameResources rfl rfl same⟩

theorem unlock (h : Ledger base imports m) (hmem : entry ∈ imports) {error : AIMapperError}
    {fence : Option Fd} (returns : Mapper.unlock m entry.handle = .ok (error, fence, m')) :
    m'.metadataMap = m.metadataMap ∧ Ledger base imports m' := by
  rcases unlock_returns (h.registered hmem) (h.live hmem) returns with
    ⟨-, rfl⟩ | ⟨bo, bo', calls, hbo, hunlock, -, rfl⟩
  · exact ⟨rfl, h⟩
  · obtain ⟨hold, represents⟩ := h.locks _ _ hbo
    exact ⟨rfl, h.of_putBo hbo (represents.unlock hunlock).1⟩

theorem getStandardMetadata (h : Ledger base imports m) (hmem : entry ∈ imports)
    {type : BitVec 64} {outDataSize : Nat} {size : Int} {bytes : List ByteStream.Byte}
    (returns : Mapper.getStandardMetadata m entry.handle type outDataSize =
      .ok (size, bytes, m')) :
    (m' = m ∨ m' = m.setRecord entry.primeFd (m.record entry.primeFd)) ∧
      Ledger base imports m' := by
  rcases (h.readable hmem).getStandardMetadata_state returns with rfl | rfl
  · exact ⟨.inl rfl, h⟩
  · exact ⟨.inr rfl, h.setRecord hmem _⟩

theorem setStandardMetadata (h : Ledger base imports m) (hmem : entry ∈ imports)
    (type : BitVec 64) (metadata : List ByteStream.Byte) :
    ∃ m', Mapper.setStandardMetadata m entry.handle type metadata =
        .ok ((applyMetadata (StandardMetadataType.ofValue type) metadata
          (m.record entry.primeFd)).1, m') ∧
      m' = m.setRecord entry.primeFd
        (applyMetadata (StandardMetadataType.ofValue type) metadata
          (m.record entry.primeFd)).2 ∧
      Ledger base imports m' :=
  ⟨_, (h.readable hmem).setStandardMetadata_eq type metadata, rfl, h.setRecord hmem _⟩

end Ledger

/-! ## Steps of a session -/

/-- The handle an event gives out. -/
def MapperEvent.importedHandle : MapperEvent → Option Ptr
  | ⟨_, .imported .none handle⟩ => handle
  | _ => none

/-- The handle, the type and the bytes of a write that was accepted. -/
def MapperEvent.accepted : MapperEvent → Option (Ptr × BitVec 64 × List ByteStream.Byte)
  | ⟨.setStandardMetadata buffer type metadata, .written .none⟩ => some (buffer, type, metadata)
  | _ => none

/-- How a call moves the buffers of a session and their records. -/
inductive LedgerStep (m : MapperState) (imports : List Import) (event : MapperEvent)
    (m' : MapperState) : List Import → Prop where
  | kept (noImport : event.importedHandle = none) (noWrite : event.accepted = none)
      (metadata : m'.metadataMap = m.metadataMap) : LedgerStep m imports event m' imports
  | imported {entry : Import} (given : event.importedHandle = some entry.handle)
      (noWrite : event.accepted = none) (closed : m.process.fds entry.primeFd = none)
      (metadata : m'.metadataMap = m.metadataMap) :
      LedgerStep m imports event m' (imports ++ [entry])
  | freed {entry : Import} (hmem : entry ∈ imports) (noImport : event.importedHandle = none)
      (noWrite : event.accepted = none)
      (metadata : m'.metadataMap = Function.update m.metadataMap entry.primeFd none) :
      LedgerStep m imports event m' (imports.filter fun other => other.handle ≠ entry.handle)
  | read {entry : Import} (hmem : entry ∈ imports) (noImport : event.importedHandle = none)
      (noWrite : event.accepted = none)
      (metadata : m' = m.setRecord entry.primeFd (m.record entry.primeFd)) :
      LedgerStep m imports event m' imports
  | written {entry : Import} {type : BitVec 64} {metadata : List ByteStream.Byte}
      (hmem : entry ∈ imports)
      (hcall : event.call = .setStandardMetadata entry.handle type metadata)
      (hresult : event.result = .written
        (applyMetadata (StandardMetadataType.ofValue type) metadata
          (m.record entry.primeFd)).1)
      (stored : m' = m.setRecord entry.primeFd
        (applyMetadata (StandardMetadataType.ofValue type) metadata
          (m.record entry.primeFd)).2) :
      LedgerStep m imports event m' imports

/-- A buffer that is still held has its entry still. -/
theorem LedgerStep.keeps {m m' : MapperState} {imports imports' : List Import}
    {event : MapperEvent} (h : LedgerStep m imports event m' imports')
    (distinct : (imports.map Import.handle).Nodup) {entry : Import} (hmem : entry ∈ imports)
    (held : entry.handle ∈ imports'.map Import.handle) : entry ∈ imports' := by
  cases h with
  | kept | read | written => exact hmem
  | imported => exact List.mem_append_left _ hmem
  | freed =>
      obtain ⟨other, hother, same⟩ := List.mem_map.mp held
      rw [Ledger.entry_eq distinct hmem (List.mem_filter.mp hother).1 same.symm]
      exact hother

theorem Ledger.step {base : Process} {imports : List Import} {session next : Session}
    {event : MapperEvent} (h : Ledger base imports session.mapper)
    (held : session.outstanding = imports.map Import.handle)
    (hstep : mapperSystem.step session event next) :
    ∃ imports', LedgerStep session.mapper imports event next.mapper imports' ∧
      Ledger base imports' next.mapper ∧ next.outstanding = imports'.map Import.handle := by
  obtain ⟨call, result⟩ := event
  obtain ⟨m', outstanding'⟩ := next
  obtain ⟨admissible, performed, rfl⟩ := hstep
  rw [held]
  have entryOf {buffer : Ptr} (hmem : buffer ∈ session.outstanding) :
      ∃ entry ∈ imports, entry.handle = buffer := by
    rw [held] at hmem
    exact List.mem_map.mp hmem
  cases call with
  | importBuffer raw env =>
      obtain ⟨⟨error, out, m₁⟩, himport, performed⟩ := bind_eq_ok.mp performed
      cases performed
      rcases h.importBuffer admissible.1 admissible.2 himport with
        ⟨failed, rfl, -, metadata, after⟩ | ⟨entry, rfl, rfl, -, closed, metadata, after⟩
      · refine ⟨imports, .kept ?_ rfl metadata, after, ?_⟩ <;> cases error <;> rfl
      · refine ⟨imports ++ [entry], .imported rfl rfl closed metadata, after, ?_⟩
        rw [List.map_append]
        rfl
  | freeBuffer buffer errno =>
      obtain ⟨entry, hmem, rfl⟩ := entryOf admissible
      obtain ⟨m₁, hfree, metadata, after⟩ := h.freeBuffer hmem errno
      rw [MapperCall.perform, hfree] at performed
      cases performed
      refine ⟨_, .freed hmem rfl rfl metadata, after, ?_⟩
      change (imports.map Import.handle).filter _ = _
      rw [List.filter_map]
      rfl
  | lock buffer cpuUsage region fence answer =>
      obtain ⟨held, valid, fresh⟩ := admissible
      obtain ⟨entry, hmem, rfl⟩ := entryOf held
      obtain ⟨⟨error, addr, m₁⟩, hlock, performed⟩ := bind_eq_ok.mp performed
      cases performed
      obtain ⟨metadata, after⟩ := h.lock hmem valid fresh hlock
      exact ⟨imports, .kept rfl rfl metadata, after, rfl⟩
  | unlock buffer =>
      obtain ⟨entry, hmem, rfl⟩ := entryOf admissible
      obtain ⟨⟨error, fence, m₁⟩, hunlock, performed⟩ := bind_eq_ok.mp performed
      cases performed
      obtain ⟨metadata, after⟩ := h.unlock hmem hunlock
      exact ⟨imports, .kept rfl rfl metadata, after, rfl⟩
  | getStandardMetadata buffer type outDataSize =>
      obtain ⟨entry, hmem, rfl⟩ := entryOf admissible
      obtain ⟨⟨size, bytes, m₁⟩, hget, performed⟩ := bind_eq_ok.mp performed
      cases performed
      obtain ⟨state, after⟩ := h.getStandardMetadata hmem hget
      rcases state with rfl | rfl
      · exact ⟨imports, .kept rfl rfl rfl, h, rfl⟩
      · exact ⟨imports, .read hmem rfl rfl rfl, after, rfl⟩
  | setStandardMetadata buffer type metadata =>
      obtain ⟨entry, hmem, rfl⟩ := entryOf admissible
      obtain ⟨m₁, hset, stored, after⟩ := h.setStandardMetadata hmem type metadata
      rw [MapperCall.perform, hset] at performed
      cases performed
      exact ⟨imports, .written hmem rfl rfl stored, after, rfl⟩

end GrallocGbmMesa.Mapper
