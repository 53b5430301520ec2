import GrallocGbmMesa.Mapper.LedgerSteps

/-!
# The resources of a session

In every state a session reaches, the registry, the BOs, the descriptors and the
metadata are those of the buffers it has imported and not yet freed.  No call on
them faults unless its arguments make it, and nothing is left once the last of
them is freed.
-/

namespace GrallocGbmMesa.Mapper

open Checked PartialMap TransitionSystem
open GrallocGbmMesa.Platform GrallocGbmMesa.Core

/-- The descriptor a live handle holds. -/
def HasPrimeFd (s : Process) (p : Ptr) (fd : Fd) : Prop :=
  ∃ native, s.handles p = some native ∧ native.primeFd = .ok fd

/-- What a call on a buffer relies on beyond the handle: a lock, that the sides
of its region do not overflow, that the mapping has the stride of the BO and
that the counter is not full; an unlock, that the buffer was locked before. -/
def MapperCall.Sound (s : Process) : MapperCall → Prop
  | lock buffer _ region _ answer =>
      ¬ BitVec.ssubOverflow region.right region.left ∧
        ¬ BitVec.ssubOverflow region.bottom region.top ∧
        ∀ p bo, Buffer s buffer p bo → answer.Fits bo ∧ (boData bo).lockCount ≠ intMax
  | unlock buffer => ∀ p bo, Buffer s buffer p bo → bo.userData ≠ none
  | _ => True

namespace Session

/-- The registry, the BOs, the descriptors and the metadata belong to the
handles the client holds. -/
structure Owned (session : Session) : Prop where
  keys : ∀ p, session.mapper.process.gbmBoHandleMap p ≠ none ↔ p ∈ session.outstanding
  distinctBos : ∀ p q bo, session.mapper.process.gbmBoHandleMap p = some bo →
    session.mapper.process.gbmBoHandleMap q = some bo → p = q
  liveBos : ∀ p bo, session.mapper.process.gbmBoHandleMap p = some bo →
    session.mapper.process.bos bo ≠ none
  registeredBos : ∀ bo, session.mapper.process.bos bo ≠ none →
    ∃ p, session.mapper.process.gbmBoHandleMap p = some bo
  openFds : ∀ p ∈ session.outstanding, ∃ fd, HasPrimeFd session.mapper.process p fd ∧
    session.mapper.process.fds fd ≠ none
  distinctFds : ∀ p ∈ session.outstanding, ∀ q ∈ session.outstanding, ∀ fd,
    HasPrimeFd session.mapper.process p fd → HasPrimeFd session.mapper.process q fd → p = q
  metadata : ∀ fd, session.mapper.metadataMap fd ≠ none →
    ∃ p ∈ session.outstanding, HasPrimeFd session.mapper.process p fd

/-- An import that fails leaves no trace. -/
def FailedImportUndone (session : Session) : Prop :=
  ∀ raw env error handle next,
    mapperSystem.step session ⟨.importBuffer raw env, .imported error handle⟩ next →
    error ≠ .none →
    SameResources session.mapper.process next.mapper.process ∧
      next.mapper.metadataMap = session.mapper.metadataMap

/-- Every call that meets its conditions returns. -/
def CallsReturn (session : Session) : Prop :=
  ∀ call : MapperCall, call.Admissible session → call.Sound session.mapper.process →
    Defined (call.perform session.mapper)

/-- A session that has used the resources of `first` and given them all back. -/
structure GivenBack (first last : Process) : Prop where
  registry : last.gbmBoHandleMap = first.gbmBoHandleMap
  bos : last.bos = first.bos
  fds : last.fds = first.fds
  handles : last.handles = first.handles

end Session

namespace Ledger

variable {base : Process} {imports : List Import} {session : Session}

theorem hasPrimeFd (h : Ledger base imports session.mapper) {entry : Import}
    (hmem : entry ∈ imports) {fd : Fd} :
    HasPrimeFd session.mapper.process entry.handle fd ↔ fd = entry.primeFd := by
  constructor
  · rintro ⟨native, hnative, hprime⟩
    rw [h.native hmem] at hnative
    cases hnative
    rw [prime entry] at hprime
    exact (Except.ok.inj hprime).symm
  · rintro rfl
    exact ⟨entry.native, h.native hmem, prime entry⟩

/-- Every entry of the registry is a buffer of the session. -/
theorem of_registered (h : Ledger base imports session.mapper) {p bo : Ptr}
    (registered : session.mapper.process.gbmBoHandleMap p = some bo) :
    ∃ entry ∈ imports, entry.handle = p ∧ entry.bo = bo := by
  rw [h.registry] at registered
  rcases overlay_eq_some registered with found | none
  · obtain ⟨entry, hmem, same⟩ := List.mem_map.mp found
    cases same
    exact ⟨entry, hmem, rfl, rfl⟩
  · cases none

theorem owned (h : Ledger base imports session.mapper)
    (held : session.outstanding = imports.map Import.handle) : session.Owned where
  keys p := by
    rw [held]
    constructor
    · intro registered
      obtain ⟨bo, hbo⟩ := Option.ne_none_iff_exists'.mp registered
      obtain ⟨entry, hmem, rfl, -⟩ := h.of_registered hbo
      exact List.mem_map_of_mem hmem
    · intro hmem
      obtain ⟨entry, hentry, rfl⟩ := List.mem_map.mp hmem
      rw [h.registered hentry]
      exact Option.some_ne_none _
  distinctBos p q bo hp hq := by
    obtain ⟨first, hfirst, rfl, hbo⟩ := h.of_registered hp
    obtain ⟨second, hsecond, rfl, rfl⟩ := h.of_registered hq
    rw [entry_eq h.distinctBos hfirst hsecond hbo]
  liveBos p bo registered := by
    obtain ⟨entry, hmem, -, rfl⟩ := h.of_registered registered
    exact h.live hmem
  registeredBos bo live := by
    obtain ⟨entry, hmem, rfl⟩ := List.mem_map.mp ((h.bos bo).mp live)
    exact ⟨entry.handle, h.registered hmem⟩
  openFds p hmem := by
    rw [held] at hmem
    obtain ⟨entry, hentry, rfl⟩ := List.mem_map.mp hmem
    refine ⟨entry.primeFd, (h.hasPrimeFd hentry).mpr rfl, ?_⟩
    rw [h.opened hentry]
    exact Option.some_ne_none _
  distinctFds p hp q hq fd hpfd hqfd := by
    rw [held] at hp hq
    obtain ⟨first, hfirst, rfl⟩ := List.mem_map.mp hp
    obtain ⟨second, hsecond, rfl⟩ := List.mem_map.mp hq
    have same := ((h.hasPrimeFd hfirst).mp hpfd).symm.trans ((h.hasPrimeFd hsecond).mp hqfd)
    rw [entry_eq h.distinctFds hfirst hsecond same]
  metadata fd stored := by
    rw [held]
    obtain ⟨entry, hmem, rfl⟩ := List.mem_map.mp (h.metadata fd stored)
    exact ⟨entry.handle, List.mem_map_of_mem hmem, (h.hasPrimeFd hmem).mpr rfl⟩

theorem failedImportUndone (h : Ledger base imports session.mapper) :
    session.FailedImportUndone := by
  rintro raw env error handle next ⟨⟨wellFormed, fresh⟩, performed, -⟩ failed
  obtain ⟨⟨error', out, m'⟩, himport, performed⟩ := bind_eq_ok.mp performed
  cases performed
  rcases h.importBuffer wellFormed fresh himport with
    ⟨-, -, same, metadata, -⟩ | ⟨entry, succeeded, -⟩
  · exact ⟨same, metadata⟩
  · exact absurd succeeded failed

theorem givenBack (h : Ledger base [] session.mapper) (noBo : base.bos = fun _ => none)
    (noKey : base.gbmBoHandleMap = fun _ => none) :
    Session.GivenBack base session.mapper.process where
  registry := h.registry.trans noKey.symm
  bos := by
    rw [noBo]
    funext p
    by_contra live
    exact List.not_mem_nil ((h.bos p).mp live)
  fds := h.fds
  handles := h.handles

/-! ## Calls that return -/

/-- Every provider reads words of the handle and the BO of the buffer. -/
theorem provideValue_defined {s : Process} {buffer : Ptr} {native : NativeHandle}
    (covers : native.Covers) (live : ∀ p, s.gbmBoHandleMap buffer = some p → s.bos p ≠ none)
    (metadata : GrallocMetadata) (type : StandardMetadataType) :
    ∃ value, provideValue s buffer native metadata type = .ok value := by
  obtain ⟨width, hwidth⟩ := covers.word (show 3 ≤ 10 by decide)
  obtain ⟨height, hheight⟩ := covers.word (show 4 ≤ 10 by decide)
  obtain ⟨format, hformat⟩ := covers.word (show 5 ≤ 10 by decide)
  obtain ⟨usage, husage⟩ := covers.word (show 6 ≤ 10 by decide)
  obtain ⟨stride, hstride⟩ := covers.word (show 7 ≤ 10 by decide)
  obtain ⟨modifier, hmodifier⟩ := covers.modifier
  cases type with
  | pixelFormatFourcc =>
      simp only [provideValue, NativeHandle.format, hformat, ok_bind]
      split <;> exact ⟨_, rfl⟩
  | allocationSize =>
      simp only [provideValue, grallocGetGbmBoFromHandle]
      cases registered : s.gbmBoHandleMap buffer with
      | none => exact ⟨_, rfl⟩
      | some p =>
          obtain ⟨bo, hbo⟩ := Option.ne_none_iff_exists'.mp (live p registered)
          simp only [Process.bo_eq_ok.mpr hbo, ok_bind]
          exact ⟨_, rfl⟩
  | width | height | pixelFormatRequested | pixelFormatModifier | usage | protectedContent
  | planeLayouts | crop | stride =>
      simp only [provideValue, NativeHandle.width, NativeHandle.height, NativeHandle.format,
        NativeHandle.usage, NativeHandle.stride, hwidth, hheight, hformat, husage, hstride,
        hmodifier, ok_bind]
      exact ⟨_, rfl⟩
  | invalid | bufferId | name | layerCount | compression | interlaced | chromaSiting | dataspace
  | blendMode | smpte2086 | cta861_3 | smpte2094_40 | smpte2094_10 => exact ⟨_, rfl⟩

theorem getStandardMetadata_defined (h : Ledger base imports session.mapper) {entry : Import}
    (hmem : entry ∈ imports) (type : BitVec 64) (outDataSize : Nat) :
    Defined (Mapper.getStandardMetadata session.mapper entry.handle type outDataSize) := by
  have readable := h.readable hmem
  by_cases unknown : StandardMetadataType.ofValue type = none ∨
      StandardMetadataType.ofValue type = some .invalid
  · exact ⟨_, readable.getStandardMetadata_unknown unknown outDataSize⟩
  rw [not_or] at unknown
  obtain ⟨known, hknown⟩ := Option.ne_none_iff_exists'.mp unknown.1
  have live : ∀ p, session.mapper.process.gbmBoHandleMap entry.handle = some p →
      session.mapper.process.bos p ≠ none := by
    intro p registered
    cases (h.registered hmem).symm.trans registered
    exact h.live hmem
  obtain ⟨value, provided⟩ := provideValue_defined (h.valid entry hmem).wellFormed.covers live
    (session.mapper.record entry.primeFd) known
  rw [StandardMetadataType.ofValue_eq_some.mp hknown,
    readable.getStandardMetadata_eq (by rintro rfl; exact unknown.2 hknown), provided]
  exact ⟨_, rfl⟩

theorem lock_defined (h : Ledger base imports session.mapper) {entry : Import}
    (hmem : entry ∈ imports) {cpuUsage : BitVec 64} {region : ARect}
    {fence : Option (Fd × FileId)} {answer : GbmMapResult}
    (sound : (MapperCall.lock entry.handle cpuUsage region fence answer).Sound
      session.mapper.process) :
    Defined (Mapper.lock answer (receiveFence session.mapper fence).2 entry.handle cpuUsage region
      (receiveFence session.mapper fence).1) := by
  obtain ⟨width, height, fits⟩ := sound
  obtain ⟨bo, hbo⟩ := Option.ne_none_iff_exists'.mp (h.live hmem)
  obtain ⟨fit, room⟩ := fits entry.bo bo ⟨h.registered hmem, hbo⟩
  obtain ⟨usage, husage⟩ := (h.valid entry hmem).wellFormed.covers.word (show 6 ≤ 10 by decide)
  have body : Defined (lockBody answer (receiveFence session.mapper fence).2 entry.handle cpuUsage
      region) := by
    rw [receiveFence_eq]
    exact lockBody_defined (h.registered hmem) (h.native hmem) husage hbo fit room width height
  obtain ⟨result, returns⟩ := body
  unfold Mapper.lock
  rw [returns]
  exact ⟨_, rfl⟩

theorem unlock_defined (h : Ledger base imports session.mapper) {entry : Import}
    (hmem : entry ∈ imports)
    (sound : (MapperCall.unlock entry.handle).Sound session.mapper.process) :
    Defined (Mapper.unlock session.mapper entry.handle) := by
  obtain ⟨bo, hbo⟩ := Option.ne_none_iff_exists'.mp (h.live hmem)
  obtain ⟨hold, represents⟩ := h.locks _ _ hbo
  have attached := sound entry.bo bo ⟨h.registered hmem, hbo⟩
  obtain ⟨s', bo', returns, -⟩ :=
    represents.unlock_process ⟨h.registered hmem, hbo⟩ attached
  unfold Mapper.unlock
  rw [if_neg (not_not_intro (h.initialized entry hmem)), if_neg (h.valid entry hmem).nonNull,
    returns]
  exact ⟨_, rfl⟩

theorem callsReturn (h : Ledger base imports session.mapper)
    (held : session.outstanding = imports.map Import.handle) : session.CallsReturn := by
  intro call admissible sound
  have entryOf {buffer : Ptr} (hmem : buffer ∈ session.outstanding) :
      ∃ entry ∈ imports, entry.handle = buffer := by
    rw [held] at hmem
    exact List.mem_map.mp hmem
  unfold MapperCall.perform
  cases call with
  | importBuffer raw env =>
      obtain ⟨wellFormed, fresh⟩ := admissible
      have imports (p : Ptr) (fds : List Fd) (initialized : session.mapper.mInitialized = true)
          (hclone : env.clone = some (p, fds)) (length : fds.length = raw.numFds) :
          Defined (grallocGmBufferImport env.gbm (cloned session.mapper.process p fds raw) p) := by
        have covers : NativeHandle.Covers { raw with fds } :=
          NativeHandle.WellFormed.covers ⟨length.trans wellFormed.1, wellFormed.2⟩
        obtain ⟨ret, s', returns⟩ := (h.canImport.importer initialized fresh hclone
          raw).import_defined (cloned_handles ..) covers env.gbm
        exact ⟨_, returns⟩
      obtain ⟨error, out, m', returns⟩ := importBuffer_defined h.canImport fresh imports
      simp only [returns]
      exact ⟨_, rfl⟩
  | freeBuffer buffer errno =>
      obtain ⟨entry, hmem, rfl⟩ := entryOf admissible
      obtain ⟨m', returns, -⟩ := h.freeBuffer hmem errno
      simp only [returns]
      exact ⟨_, rfl⟩
  | lock buffer cpuUsage region fence answer =>
      obtain ⟨entry, hmem, rfl⟩ := entryOf admissible.1
      obtain ⟨result, returns⟩ := h.lock_defined hmem sound
      simp only [returns]
      exact ⟨_, rfl⟩
  | unlock buffer =>
      obtain ⟨entry, hmem, rfl⟩ := entryOf admissible
      obtain ⟨result, returns⟩ := h.unlock_defined hmem sound
      simp only [returns]
      exact ⟨_, rfl⟩
  | getStandardMetadata buffer type outDataSize =>
      obtain ⟨entry, hmem, rfl⟩ := entryOf admissible
      obtain ⟨result, returns⟩ := h.getStandardMetadata_defined hmem type outDataSize
      simp only [returns]
      exact ⟨_, rfl⟩
  | setStandardMetadata buffer type metadata =>
      obtain ⟨entry, hmem, rfl⟩ := entryOf admissible
      obtain ⟨m', returns, -⟩ := h.setStandardMetadata hmem type metadata
      simp only [returns]
      exact ⟨_, rfl⟩

end Ledger

/-! ## Runs -/

/-- The process of a session is the initial one and what its ledger adds. -/
theorem mapperSystem_ledger {first last : Session} {labels : List MapperEvent}
    (initial : mapperSystem.initial first) (run : Run mapperSystem first labels last) :
    ∃ imports, Ledger first.mapper.process imports last.mapper ∧
      last.outstanding = imports.map Import.handle := by
  obtain ⟨none, env, s, unused, constructed⟩ := initial
  refine run.invariant
    (fun session => ∃ imports, Ledger first.mapper.process imports session.mapper ∧
      session.outstanding = imports.map Import.handle) ⟨[], ?_, none⟩ ?_
  · rw [constructed]
    exact .initial unused
  · rintro state event next ⟨imports, ledger, held⟩ hstep
    obtain ⟨imports', -, ledger', held'⟩ := ledger.step held hstep
    exact ⟨imports', ledger', held'⟩

/-- The registry, the live BOs, the open descriptors and the metadata of every
state a session reaches. -/
theorem mapperSystem_resources {first last : Session} {labels : List MapperEvent}
    (initial : mapperSystem.initial first) (run : Run mapperSystem first labels last) :
    last.Owned ∧ last.FailedImportUndone ∧ last.CallsReturn ∧
      (last.outstanding = [] → Session.GivenBack first.mapper.process last.mapper.process) := by
  obtain ⟨imports, ledger, held⟩ := mapperSystem_ledger initial run
  refine ⟨ledger.owned held, ledger.failedImportUndone, ledger.callsReturn held, ?_⟩
  intro none
  rw [held, List.map_eq_nil_iff] at none
  subst none
  obtain ⟨-, env, s, unused, constructed⟩ := initial
  have buffers := grallocGbmDeviceInit_buffers env s
  rw [constructed] at ledger ⊢
  exact ledger.givenBack (buffers.2.trans unused.bos) (buffers.1.trans unused.registry)

/-! ## A session -/

/-- A process that holds the descriptor of one dma-buf. -/
def clientProcess : Process where
  gbmDevFd := -1
  gbmDev := 0
  gbmBoHandleMap _ := none
  devices _ := none
  bos _ := none
  handles _ := none
  fds fd := if fd = 7#32 then some 9 else none
  calls := []

def clientHandle : NativeHandle := GrallocHandle.native
  { primeFd := 7#32
    magic := grallocHandleMagic
    version := grallocHandleVersion
    width := 64#32
    height := 64#32
    format := halPixelFormatRgba8888
    usage := grallocUsageSwReadOften ||| grallocUsageSwWriteOften ||| grallocUsageHwTexture
    stride := 256#32
    dataOwner := 0
    modifier := 0
    data := 0 }

def startedSession : Session :=
  { mapper := construct { fd := 3#32, file := 1, created := 1 } clientProcess
    outstanding := [] }

def clientImport : MapperCall :=
  .importBuffer clientHandle
    { clone := some (16, [8#32])
      gbm := { createdDevice := 0, newBo := some ⟨32, 256#32, 0⟩ } }

def importedSession : Session := startedSession.next clientImport

theorem startedSession_initial : mapperSystem.initial startedSession :=
  ⟨rfl, { fd := 3#32, file := 1, created := 1 }, clientProcess, ⟨rfl, rfl, rfl, rfl⟩, rfl⟩

theorem importedSession_step : mapperSystem.step startedSession
    ⟨clientImport, .imported .none (some 16)⟩ importedSession := by
  refine Session.next_step ⟨by decide, ?_, ?_, ?_⟩ (by decide +kernel)
  · rintro p fds ⟨⟩
    exact ⟨by decide, rfl⟩
  · rintro p fds ⟨⟩
    refine ⟨List.nodup_singleton _, ?_⟩
    intro fd hmem
    rw [List.mem_singleton.mp hmem]
    exact ⟨by decide, rfl⟩
  · rintro new ⟨⟩
    rfl

theorem mapperSystem_resources_importFree :
    importedSession.outstanding = [16] ∧
      (importedSession.next (.freeBuffer 16 0)).outstanding = [] ∧
      Session.GivenBack startedSession.mapper.process
        (importedSession.next (.freeBuffer 16 0)).mapper.process := by
  have hfree : mapperSystem.step importedSession ⟨.freeBuffer 16 0, .freed .none⟩
      (importedSession.next (.freeBuffer 16 0)) :=
    Session.next_step (show 16 ∈ importedSession.outstanding by decide +kernel) (by decide +kernel)
  have run := (Run.single importedSession_step).tail hfree
  have none : (importedSession.next (.freeBuffer 16 0)).outstanding = [] := by decide +kernel
  exact ⟨by decide +kernel, none,
    (mapperSystem_resources startedSession_initial run).2.2.2 none⟩

end GrallocGbmMesa.Mapper
