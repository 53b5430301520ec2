import GrallocGbmMesa.Mapper.ClientRuns
import GrallocGbmMesa.Mapper.Reports

/-!
# Records that no import owns

A metadata call on a handle that is not imported leaves a record behind, under a
descriptor that a later import may be given.  That record is an initial one,
unless the call is a write of a stored type and size.
-/

namespace GrallocGbmMesa.Mapper

open ByteStream Checked TransitionSystem
open GrallocGbmMesa.Platform GrallocGbmMesa.Core

/-! ## The record of a descriptor after a call -/

/-- An initialised mapper writes a stored type and size to a handle with the descriptor. -/
def MapperCall.Writes (m : MapperState) (fd : Fd) : MapperCall → Prop
  | setStandardMetadata buffer type metadata =>
      m.mInitialized = true ∧ buffer ≠ 0 ∧ HasPrimeFd m.process buffer fd ∧
        ∃ stored : StoredType, type = stored.type.value ∧ metadata.length = stored.size
  | _ => False

section Record

variable {m m' : MapperState} {buffer : Ptr} {error : AIMapperError}

theorem importBuffer_metadata {env : ImportBufferEnv} {raw : NativeHandle} {out : Option Ptr}
    (returns : importBuffer env m (some raw) = .ok (error, out, m')) :
    m'.metadataMap = m.metadataMap := by
  unfold importBuffer at returns
  by_cases uninitialized : ¬ m.mInitialized
  · rw [if_pos uninitialized] at returns
    cases returns
    rfl
  rw [if_neg uninitialized] at returns
  dsimp only at returns
  by_cases empty : raw.numFds = 0
  · rw [if_pos empty] at returns
    cases returns
    rfl
  rw [if_neg empty] at returns
  split at returns
  · cases returns
    rfl
  · obtain ⟨⟨ret, s⟩, -, returns⟩ := bind_eq_ok.mp returns
    by_cases failed : ret ≠ 0
    · simp only [if_pos failed] at returns
      obtain ⟨clone, -, returns⟩ := bind_eq_ok.mp returns
      cases returns
      rfl
    · simp only [if_neg failed] at returns
      cases returns
      rfl

/-- A free drops the record of the descriptor it finds, and does so whenever it succeeds. -/
theorem freeBuffer_metadata {errno : Int}
    (returns : freeBuffer errno m buffer = .ok (error, m')) :
    (error ≠ .none ∧ m'.metadataMap = m.metadataMap) ∨
      ∃ fd, HasPrimeFd m.process buffer fd ∧
        m'.metadataMap = Function.update m.metadataMap fd none := by
  unfold freeBuffer at returns
  by_cases uninitialized : ¬ m.mInitialized
  · rw [if_pos uninitialized] at returns
    cases returns
    exact .inl ⟨nofun, rfl⟩
  by_cases null : buffer = 0
  · rw [if_neg uninitialized, if_pos null] at returns
    cases returns
    exact .inl ⟨nofun, rfl⟩
  rw [if_neg uninitialized, if_neg null] at returns
  obtain ⟨hnd, hhandle, returns⟩ := bind_eq_ok.mp returns
  obtain ⟨primeFd, hprime, returns⟩ := bind_eq_ok.mp returns
  obtain ⟨⟨ret, s⟩, -, returns⟩ := bind_eq_ok.mp returns
  refine .inr ⟨primeFd, ⟨hnd, Process.handle_eq_ok.mp hhandle, hprime⟩, ?_⟩
  by_cases failed : ret ≠ 0
  · simp only [if_pos failed] at returns
    cases returns
    rfl
  · simp only [if_neg failed] at returns
    obtain ⟨handle, -, returns⟩ := bind_eq_ok.mp returns
    cases returns
    rfl

theorem lock_metadata {fence : Option (Fd × FileId)} {answer : GbmMapResult}
    {cpuUsage : BitVec 64} {region : ARect} {addr : Option Ptr}
    (returns : Mapper.lock answer (receiveFence m fence).2 buffer cpuUsage region
      (receiveFence m fence).1 = .ok (error, addr, m')) : m'.metadataMap = m.metadataMap := by
  obtain ⟨⟨error', addr', s⟩, -, returns⟩ := bind_eq_ok.mp returns
  cases returns
  cases fence <;> rfl

theorem unlock_metadata {fence : Option Fd}
    (returns : Mapper.unlock m buffer = .ok (error, fence, m')) :
    m'.metadataMap = m.metadataMap := by
  unfold Mapper.unlock at returns
  by_cases uninitialized : ¬ m.mInitialized
  · rw [if_pos uninitialized] at returns
    cases returns
    rfl
  by_cases null : buffer = 0
  · rw [if_neg uninitialized, if_pos null] at returns
    cases returns
    rfl
  rw [if_neg uninitialized, if_neg null] at returns
  obtain ⟨⟨ret, s⟩, -, returns⟩ := bind_eq_ok.mp returns
  by_cases failed : ret ≠ 0
  · simp only [if_pos failed] at returns
    cases returns
    rfl
  · simp only [if_neg failed] at returns
    cases returns
    rfl

/-- A write of another type or size shows in no record. -/
theorem setStandardMetadata_record {type : BitVec 64} {metadata : List Byte} {fd : Fd}
    (returns : setStandardMetadata m buffer type metadata = .ok (error, m'))
    (other : ¬ MapperCall.Writes m fd (.setStandardMetadata buffer type metadata)) :
    m'.record fd = m.record fd := by
  rcases setStandardMetadata_state returns with
    rfl | ⟨initialized, nonNull, found, prime, rfl⟩
  · rfl
  by_cases same : fd = found
  · subst same
    rw [MapperState.record_setRecord_self]
    rcases applyMetadata_returns (StandardMetadataType.ofValue type) metadata (m.record fd) with
      ⟨-, refused⟩ | ⟨stored, known, accepted⟩
    · exact refused
    · refine absurd ⟨initialized, nonNull, prime, stored,
        StandardMetadataType.ofValue_eq_some.mp known, ?_⟩ other
      by_contra misfit
      rw [known, stored.applyMetadata_eq, if_neg misfit] at accepted
      cases accepted
  · exact m.record_setRecord_of_ne _ _ same

/-- A call that does not write to a descriptor keeps or drops its record. -/
theorem MapperCall.perform_record {call : MapperCall} {result : MapperResult}
    (performed : call.perform m = .ok (result, m')) {fd : Fd} (other : ¬ call.Writes m fd) :
    m'.record fd = m.record fd ∨ m'.record fd = initialMetadata fd := by
  have kept (same : m'.metadataMap = m.metadataMap) : m'.record fd = m.record fd := by
    rw [MapperState.record, same, MapperState.record]
  cases call with
  | importBuffer raw env =>
      obtain ⟨⟨error, out, m₁⟩, himport, returns⟩ := bind_eq_ok.mp performed
      cases returns
      exact .inl (kept (importBuffer_metadata himport))
  | freeBuffer buffer errno =>
      obtain ⟨⟨error, m₁⟩, hfree, returns⟩ := bind_eq_ok.mp performed
      cases returns
      rcases freeBuffer_metadata hfree with ⟨-, same⟩ | ⟨found, -, dropped⟩
      · exact .inl (kept same)
      unfold MapperState.record
      rw [dropped]
      by_cases same : fd = found
      · rw [same, Function.update_self]
        exact .inr rfl
      · rw [Function.update_of_ne same]
        exact .inl rfl
  | lock buffer cpuUsage region fence answer =>
      obtain ⟨⟨error, addr, m₁⟩, hlock, returns⟩ := bind_eq_ok.mp performed
      cases returns
      exact .inl (kept (lock_metadata hlock))
  | unlock buffer =>
      obtain ⟨⟨error, fence, m₁⟩, hunlock, returns⟩ := bind_eq_ok.mp performed
      cases returns
      exact .inl (kept (unlock_metadata hunlock))
  | getStandardMetadata buffer type outDataSize =>
      obtain ⟨⟨size, bytes, m₁⟩, hget, returns⟩ := bind_eq_ok.mp performed
      cases returns
      rcases getStandardMetadata_state hget with rfl | ⟨found, rfl⟩
      · exact .inl rfl
      · exact .inl (m.record_setRecord_record found fd)
  | setStandardMetadata buffer type metadata =>
      obtain ⟨⟨error, m₁⟩, hset, returns⟩ := bind_eq_ok.mp performed
      cases returns
      exact .inl (setStandardMetadata_record hset other)

end Record

/-! ## Runs -/

/-- If the mapper is initialised, a write of a stored type and size is made to a buffer the
client holds, or to `NULL`. -/
def WritesHeld (session : Session) : ClientEvent → Prop
  | .call ⟨.setStandardMetadata buffer type metadata, _⟩ =>
      session.mapper.mInitialized = true → ∀ stored : StoredType, type = stored.type.value →
        metadata.length = stored.size → buffer = 0 ∨ buffer ∈ session.outstanding
  | _ => True

/-- What the next import finds under a descriptor that no import has. -/
def InitialElsewhere (imports : List Import) (m : MapperState) : Prop :=
  ∀ fd, fd ∉ imports.map Import.primeFd → m.record fd = initialMetadata fd

/-- The client gives a buffer up by freeing it only. -/
theorem MapperEvent.freed_of_gone {event : MapperEvent} {handles : List Ptr} {p : Ptr}
    (held : p ∈ handles) (gone : p ∉ event.outstanding handles) :
    ∃ errno, event = ⟨.freeBuffer p errno, .freed .none⟩ := by
  unfold MapperEvent.outstanding at gone
  split at gone
  · exact absurd (List.mem_append_left _ held) gone
  · rename_i buffer errno
    have same : p = buffer := by
      by_contra other
      exact gone (List.mem_filter.mpr ⟨held, decide_eq_true other⟩)
    exact ⟨errno, by rw [same]⟩
  · exact absurd held gone

namespace Ledger

variable {base : Process} {imports : List Import} {session next : Session}

/-- A held descriptor is that of an import. -/
theorem owned_of_hasPrimeFd (h : Ledger base imports session.mapper.forget)
    (held : session.outstanding = imports.map Import.handle) {p : Ptr}
    (hmem : p ∈ session.outstanding) {fd : Fd} (prime : HasPrimeFd session.mapper.process p fd) :
    fd ∈ imports.map Import.primeFd := by
  have forgetful : Ledger base imports session.forget.mapper := h
  rw [held] at hmem
  obtain ⟨entry, hentry, rfl⟩ := List.mem_map.mp hmem
  rw [(forgetful.hasPrimeFd hentry).mp prime]
  exact List.mem_map_of_mem hentry

/-- The descriptor of a buffer that is given up has no record. -/
theorem initial_of_gone (h : Ledger base imports session.mapper.forget) {event : ClientEvent}
    (held : session.outstanding = imports.map Import.handle)
    (hstep : clientSystem.step session event next) {entry : Import} (hmem : entry ∈ imports)
    (gone : entry.handle ∉ next.outstanding) :
    next.mapper.record entry.primeFd = initialMetadata entry.primeFd := by
  have forgetful : Ledger base imports session.forget.mapper := h
  have before : entry.handle ∈ session.outstanding := by
    rw [held]
    exact List.mem_map_of_mem hmem
  cases event with
  | plain =>
      rw [hstep.2] at gone
      exact absurd before gone
  | own =>
      rw [OwnChange.outstanding hstep] at gone
      exact absurd before gone
  | call event =>
      obtain ⟨-, performed, outstanding⟩ := hstep
      rw [outstanding] at gone
      obtain ⟨errno, rfl⟩ := event.freed_of_gone before gone
      obtain ⟨⟨error, m'⟩, hfree, returns⟩ := bind_eq_ok.mp performed
      cases returns
      rcases freeBuffer_metadata hfree with ⟨failed, -⟩ | ⟨fd, prime, dropped⟩
      · exact absurd rfl failed
      · obtain rfl := (forgetful.hasPrimeFd hmem).mp prime
        rw [MapperState.record, dropped, Function.update_self]
        rfl

/-- As long as writes are held, what no import owns is as the next one expects it. -/
theorem initialElsewhere_step (h : Ledger base imports session.mapper.forget)
    {event : ClientEvent} (held : session.outstanding = imports.map Import.handle)
    (clean : InitialElsewhere imports session.mapper) (guard : WritesHeld session event)
    (hstep : clientSystem.step session event next) :
    ∃ base' imports', Ledger base' imports' next.mapper.forget ∧
      next.outstanding = imports'.map Import.handle ∧ InitialElsewhere imports' next.mapper := by
  obtain ⟨base', imports', after, held', keeps⟩ := h.client_step held hstep
  refine ⟨base', imports', after, held', fun fd unowned => ?_⟩
  by_cases owned : fd ∈ imports.map Import.primeFd
  · obtain ⟨entry, hmem, rfl⟩ := List.mem_map.mp owned
    refine h.initial_of_gone held hstep hmem fun still => unowned ?_
    exact List.mem_map_of_mem (keeps entry hmem still)
  have before := clean fd owned
  cases event with
  | plain call buffer error =>
      have same : next.mapper = session.mapper := by
        rw [← call.perform_state session.mapper buffer, hstep.1]
      rwa [same]
  | own =>
      obtain ⟨fds, handles, mapper⟩ := OwnChange.mapper hstep
      rw [mapper]
      exact before
  | call event =>
      obtain ⟨call, result⟩ := event
      obtain ⟨-, performed, -⟩ := hstep
      have other : ¬ call.Writes session.mapper fd := by
        intro writes
        cases call with
        | setStandardMetadata buffer type metadata =>
            obtain ⟨initialized, nonNull, prime, stored, known, fits⟩ := writes
            rcases guard initialized stored known fits with null | hmem
            · exact nonNull null
            · exact owned (h.owned_of_hasPrimeFd held hmem prime)
        | _ => exact writes
      rcases MapperCall.perform_record performed other with same | initial
      · exact same.trans before
      · exact initial

theorem of_writesHeld {first last : Session} {labels : List ClientEvent}
    (initial : clientSystem.initial first)
    (run : Run (clientSystem.guarded WritesHeld) first labels last) :
    ∃ base imports, Ledger base imports last.mapper.forget ∧
      last.outstanding = imports.map Import.handle ∧ InitialElsewhere imports last.mapper := by
  refine run.invariant (fun session => ∃ base imports, Ledger base imports session.mapper.forget ∧
    session.outstanding = imports.map Import.handle ∧
    InitialElsewhere imports session.mapper) ?_ ?_
  · obtain ⟨base, imports, ledger, held⟩ := Ledger.of_clientRun initial .refl
    refine ⟨base, imports, ledger, held, fun fd _ => ?_⟩
    obtain ⟨-, env, s, -, constructed⟩ := initial
    rw [constructed]
    rfl
  · rintro state event next ⟨base, imports, ledger, held, clean⟩ ⟨guard, hstep⟩
    exact ledger.initialElsewhere_step held clean guard hstep

end Ledger

/-! ## The next import -/

/-- Every stored type of the buffer reads as its initial value. -/
def StartsInitial (m : MapperState) (handle : Ptr) : Prop :=
  ∀ stored : StoredType, Reports m handle stored.type stored.initial

theorem Ledger.import_startsInitial {base : Process} {imports : List Import}
    {session next : Session} {raw : NativeHandle} {env : ImportBufferEnv} {handle : Ptr}
    (h : Ledger base imports session.mapper.forget)
    (clean : InitialElsewhere imports session.mapper)
    (hstep : clientSystem.step session
      (.call ⟨.importBuffer raw env, .imported .none (some handle)⟩) next) :
    StartsInitial next.mapper handle := by
  obtain ⟨possible, performed, -⟩ := hstep
  obtain ⟨⟨error, out, m'⟩, himport, returns⟩ := bind_eq_ok.mp performed
  cases returns
  have forgotten := importBuffer_forget env session.mapper raw
  rw [himport] at forgotten
  rcases h.importBuffer possible.1 possible.2 forgotten with
    ⟨failed, -⟩ | ⟨entry, -, given, -, closed, -, after⟩
  · exact absurd rfl failed
  obtain rfl : handle = entry.handle := Option.some.inj given
  have unowned : entry.primeFd ∉ imports.map Import.primeFd := by
    intro owned
    obtain ⟨other, hother, same⟩ := List.mem_map.mp owned
    rw [← same, h.opened hother] at closed
    cases closed
  have record : next.mapper.record entry.primeFd = initialMetadata entry.primeFd := by
    rw [MapperState.record, importBuffer_metadata himport]
    exact clean entry.primeFd unowned
  have found := after.readable (List.mem_append_right imports (List.mem_singleton_self entry))
  have readable : Readable next.mapper entry.handle entry.native entry.primeFd :=
    ⟨found.initialized, found.nonNull, found.placed, found.prime⟩
  intro stored
  apply readable.reports stored.type_ne_invalid
  rw [stored.provideValue_eq, record, stored.read_initialMetadata]

end GrallocGbmMesa.Mapper
