import GrallocGbmMesa.Lib.Run
import GrallocGbmMesa.Allocator.Loops

/-!
# An allocation is all or nothing

A service is a run of requests on an initialised allocator.  Whatever the
platform answers, a request leaves the registry, the BOs and the handles as they
were, and opens the descriptors it hands out or none.
-/

namespace GrallocGbmMesa.Allocator

open ByteStream Checked PartialMap TransitionSystem
open GrallocGbmMesa.Platform GrallocGbmMesa.Core GbmMesaAllocator

/-- What the platform answers to a request is not in use when it is handed out; besides, no
export and no duplication fails, and `gbm_bo_create` sets a positive error number if it does. -/
structure RequestFresh (env : DoAllocateEnv) (allocator : GbmMesaAllocator) (s : Process)
    (desc : GrallocBufferDesc) (count : Nat) : Prop where
  attempts : AttemptsFresh env desc 0 count s
  dups : ∀ stride handles stride' s',
    allocateHandles env allocator desc count [] stride s = .ok (.ok, handles, stride', s') →
      DupsFresh env 0 handles s'

theorem RequestFresh.new {env : DoAllocateEnv} {allocator : GbmMesaAllocator} {s : Process}
    {desc : GrallocBufferDesc} {count : Nat} (h : RequestFresh env allocator s desc count) :
    AttemptsNew env desc 0 count s := h.attempts.mono AttemptFresh.toAttemptNew count

section Request

variable {env : DoAllocateEnv} {allocator : GbmMesaAllocator} {s : Process}
  {desc : GrallocBufferDesc} {count : Word} {outResult : AllocationResult}

/-- A request exports every buffer, or fails at an attempt and holds nothing. -/
theorem doAllocate_returns (can : CanAllocate s) (initialized : allocator.isInitialized = true)
    (nonneg : 0 ≤ count.toInt) (fresh : RequestFresh env allocator s desc count.toNat)
    (empty : outResult.buffers = []) :
    (∃ stride s', doAllocate env allocator s desc count outResult =
          .ok (toBinderStatus .noResources, { outResult with stride }, s') ∧
        (∃ k < count.toNat, AttemptFails (env.attempts k).toAllocEnv) ∧ Holdings s [] [] s') ∨
      ∃ (exports : List (Fd × Held)) (s' : Process), (∀ entry ∈ exports, 0 ≤ entry.1.toInt) ∧
        doAllocate env allocator s desc count outResult =
          .ok (.ok,
            { stride := batchStride desc outResult.stride (exports.map Prod.snd)
              buffers := exports.map aidlHandle }, s') ∧
        Attempted env desc 0 (exports.map Prod.snd) ∧ exports.length = count.toNat ∧
        Holdings s [] (exports.map exportEntry) s' := by
  unfold doAllocate
  rw [if_neg (not_not_intro initialized), if_neg (Int.not_lt.mpr nonneg)]
  rcases (Holdings.refl s).allocateHandles AttemptFresh.reports can initialized count.toNat
    outResult.stride fresh.attempts with
    ⟨handles, stride, s', returns, ⟨k, inside, failed, -⟩, nothing⟩ |
    ⟨held, s₁, returns, attempted, length, each, holds⟩
  · refine .inl ⟨stride, s', ?_, ⟨k, inside, ?_⟩, nothing⟩
    · rw [List.map_nil] at returns
      rw [returns]
      rfl
    · rw [List.length_nil, Nat.zero_add] at failed
      exact failed.attemptFails
  · rw [List.map_nil, List.nil_append] at returns
    rw [List.nil_append] at holds
    have present : ∀ buffer ∈ held, ¬ buffer.Unexported := by
      intro buffer hbuffer
      obtain ⟨k, hk⟩ := List.mem_iff_getElem?.mp hbuffer
      obtain ⟨new, -, created, rfl⟩ := attempted.get hk
      obtain ⟨s₂, attempt⟩ := each k (length ▸ (List.getElem?_eq_some_iff.mp hk).1)
      exact Int.not_lt.mpr (attempt.exported new created)
    obtain ⟨exports, s', all, valid, exported, nothing⟩ := Holdings.exportHandles held [] rfl holds
      present (fresh.dups _ _ _ _ returns)
    refine .inr ⟨exports, s', valid, ?_, all ▸ attempted, ?_, nothing⟩
    · rw [returns, ok_bind]
      simp only [ne_eq, not_true, if_false, empty, resizeBuffers, List.take_nil, List.nil_append,
        List.drop_nil, List.foldl_nil, List.length_nil, Nat.sub_zero]
      rw [← length]
      simp only [List.nil_append, List.length_nil] at exported
      rw [exported, all]
      rfl
    · rw [← length, ← all, List.length_map]

end Request

/-! ## The service -/

structure Service where
  allocator : GbmMesaAllocator
  process : Process
  /-- the descriptors handed out and not yet closed by their owners, oldest first -/
  received : List Fd

inductive AllocatorCall where
  | allocate (encodedDescriptor : List Byte) (count : Word) (env : DoAllocateEnv)
  | allocate2 (descriptor : BufferDescriptorInfo) (count : Word) (env : DoAllocateEnv)
  /-- the owner of a result closes one of its descriptors -/
  | close (fd : Fd)

section Requests

variable (decode : List Byte → Except Int BufferDescriptorInfoV4)

/-- The request behind a call: what it converts its descriptor to. -/
def AllocatorCall.request : AllocatorCall → Option (GrallocBufferDesc × Word × DoAllocateEnv)
  | allocate encodedDescriptor count env =>
      match decode encodedDescriptor with
      | .error _ => none
      | .ok descriptor =>
          if Convertible descriptor.info then some (gbmDesc descriptor.info, count, env) else none
  | allocate2 descriptor count env =>
      if Convertible descriptor then some (gbmDesc descriptor, count, env) else none
  | close _ => none

/-- Every call passes a new result. -/
def AllocatorCall.perform (service : Service) :
    AllocatorCall → Except Fault (ScopedAStatus × AllocationResult × Process)
  | allocate encodedDescriptor count env =>
      GbmMesaAllocator.allocate decode env service.allocator service.process encodedDescriptor
        count {}
  | allocate2 descriptor count env =>
      GbmMesaAllocator.allocate2 env service.allocator service.process descriptor count {}
  | close fd => .ok (.ok, {}, service.process.close fd)

/-- Counts are not negative, and the platform hands out what is not in use. -/
def AllocatorCall.Admissible (service : Service) (call : AllocatorCall) : Prop :=
  (∀ fd, call = .close fd → fd ∈ service.received) ∧
    ∀ desc count env, call.request decode = some (desc, count, env) →
      0 ≤ count.toInt ∧ RequestFresh env service.allocator service.process desc count.toNat

structure AllocatorEvent where
  call : AllocatorCall
  status : ScopedAStatus
  result : AllocationResult

/-- The descriptors handed out after a call. -/
def AllocatorEvent.received (event : AllocatorEvent) (fds : List Fd) : List Fd :=
  match event.call with
  | .close fd => fds.filter (· ≠ fd)
  | _ => fds ++ event.result.buffers.flatMap NativeHandle.fds

/-- Runs of requests on an allocator that has been initialised in an unused process. -/
def allocatorSystem : System Service AllocatorEvent where
  initial service := service.received = [] ∧ ∃ env s, Unused s ∧
    init env s = (true, service.allocator, service.process)
  step service event next :=
    event.call.Admissible decode service ∧
      event.call.perform decode service = .ok (event.status, event.result, next.process) ∧
      next.allocator = service.allocator ∧ next.received = event.received service.received

end Requests

/-- What a run keeps of the process it started in. -/
structure Settled (base : Process) (service : Service) : Prop where
  initialized : service.allocator.isInitialized = true
  can : CanAllocate service.process
  registry : service.process.gbmBoHandleMap = base.gbmBoHandleMap
  bos : service.process.bos = base.bos
  handles : service.process.handles = base.handles
  fds : ∃ opened, keys opened = service.received ∧ Overlaid opened base.fds service.process.fds

namespace Settled

variable {decode : List Byte → Except Int BufferDescriptorInfoV4} {base : Process}
  {service next : Service}

/-- A service that is initialised in an unused process has a device and no buffers. -/
theorem initial (h : (allocatorSystem decode).initial service) :
    Settled service.process service := by
  obtain ⟨none, env, s, unused, initialized⟩ := h
  have success : decide ((grallocGbmDeviceInit env s).1 > 0) = true :=
    congrArg (fun created => created.1) initialized
  have hallocator : (grallocGbmDeviceInit env s).1 = service.allocator.gbmDevFd :=
    congrArg (fun created => created.2.1.gbmDevFd) initialized
  have hprocess : (grallocGbmDeviceInit env s).2 = service.process :=
    congrArg (fun created => created.2.2) initialized
  have registry := (grallocGbmDeviceInit_buffers env s).1.trans unused.registry
  have ready := grallocGbmDeviceInit_ready (fun dev => absurd unused.gbmDev dev)
    (of_decide_eq_true success)
  rw [hprocess] at registry ready
  refine ⟨?_, ⟨ready, fun p _ => by rw [registry]⟩, rfl, rfl, rfl, [], none.symm, .refl _⟩
  unfold GbmMesaAllocator.isInitialized
  rwa [← hallocator]

/-- A call is a request, or fails and changes nothing, or closes a descriptor. -/
theorem perform_cases (decode : List Byte → Except Int BufferDescriptorInfoV4)
    (initialized : service.allocator.isInitialized = true)
    (call : AllocatorCall) :
    (∃ fd, call = .close fd) ∨
      (∃ error, call.perform decode service = .ok (toBinderStatus error, {}, service.process)) ∨
        ∃ desc count env, call.request decode = some (desc, count, env) ∧
          call.perform decode service =
            doAllocate env service.allocator service.process desc count {} := by
  cases call with
  | close fd => exact .inl ⟨fd, rfl⟩
  | allocate encodedDescriptor count env =>
      refine .inr ?_
      cases decoded : decode encodedDescriptor with
      | error ret => exact .inl ⟨_, allocate_undecoded initialized decoded⟩
      | ok descriptor =>
          by_cases accepted : Convertible descriptor.info
          · refine .inr ⟨gbmDesc descriptor.info, count, env, ?_,
              allocate_convertible initialized decoded accepted⟩
            simp only [AllocatorCall.request, decoded, if_pos accepted]
          · exact .inl ⟨_, allocate_refused initialized decoded accepted⟩
  | allocate2 descriptor count env =>
      refine .inr ?_
      by_cases accepted : Convertible descriptor
      · exact .inr ⟨gbmDesc descriptor, count, env, if_pos accepted,
          allocate2_convertible initialized accepted⟩
      · refine .inl ?_
        by_cases empty : descriptor.width = 0 ∨ descriptor.height = 0
        · exact ⟨.badDescriptor, (allocate2_refused initialized accepted).trans
            (by rw [if_pos empty])⟩
        · exact ⟨.unsupported, (allocate2_refused initialized accepted).trans
            (by rw [if_neg empty])⟩

/-- What is left of a request is what it exports. -/
theorem of_holdings (h : Settled base service) {opened : List (Fd × FileId)} {s' : Process}
    (holds : Holdings service.process [] opened s') :
    Settled base
      { service with process := s', received := service.received ++ keys opened } := by
  obtain ⟨registry, handles, bos, fds⟩ := holds.released
  obtain ⟨before, received, overlaid⟩ := h.fds
  refine ⟨h.initialized, ⟨holds.ready h.can, ?_⟩, registry.trans h.registry, bos.trans h.bos,
    handles.trans h.handles, before ++ opened, by rw [keys_append, received], overlaid.trans fds⟩
  intro p free
  rw [handles] at free
  rw [registry]
  exact h.can.registry p free

/-- A descriptor that its owner closes is one that was received. -/
theorem close (h : Settled base service) {fd : Fd} (owned : fd ∈ service.received) :
    Settled base
      { service with
        process := service.process.close fd
        received := service.received.filter (· ≠ fd) } := by
  obtain ⟨opened, received, overlaid⟩ := h.fds
  refine ⟨h.initialized, ⟨h.can.ready, h.can.registry⟩, h.registry, h.bos, h.handles,
    opened.filter fun entry => entry.1 ≠ fd, ?_, overlaid.erase (received ▸ owned)⟩
  change (opened.filter _).map Prod.fst = service.received.filter _
  rw [← received, keys, List.filter_map]
  rfl

theorem step {event : AllocatorEvent} (h : Settled base service)
    (hstep : (allocatorSystem decode).step service event next) : Settled base next := by
  obtain ⟨⟨owned, admissible⟩, performed, sameAllocator, received⟩ := hstep
  obtain ⟨allocator, s', fds⟩ := next
  obtain ⟨call, status, result⟩ := event
  dsimp only at performed sameAllocator received owned admissible
  subst sameAllocator received
  rcases perform_cases decode h.initialized call with
    ⟨fd, rfl⟩ | ⟨error, refused⟩ | ⟨desc, count, env, request, made⟩
  · cases performed
    exact h.close (owned fd rfl)
  · rw [refused] at performed
    cases performed
    have kept := h.of_holdings (.refl service.process)
    rw [keys, List.map_nil, List.append_nil] at kept
    cases call with
    | close fd => cases refused
    | allocate encodedDescriptor count env => simpa [AllocatorEvent.received] using kept
    | allocate2 descriptor count env => simpa [AllocatorEvent.received] using kept
  · obtain ⟨nonneg, fresh⟩ := admissible desc count env request
    have isRequest : AllocatorEvent.received ⟨call, status, result⟩ service.received =
        service.received ++ result.buffers.flatMap NativeHandle.fds := by
      cases call with
      | close fd => cases request
      | allocate encodedDescriptor count env => rfl
      | allocate2 descriptor count env => rfl
    rw [isRequest]
    rw [made] at performed
    have empty : ({} : AllocationResult).buffers = [] := rfl
    rcases doAllocate_returns h.can h.initialized nonneg fresh empty with
      ⟨stride, s₁, returns, -, nothing⟩ | ⟨exports, s₁, -, returns, -, -, holds⟩
    · cases returns.symm.trans performed
      exact h.of_holdings nothing
    · cases returns.symm.trans performed
      have handed : (exports.map aidlHandle).flatMap NativeHandle.fds =
          keys (exports.map exportEntry) := by
        rw [List.flatMap_map, keys, List.map_map, List.map_eq_flatMap]
        rfl
      rw [handed]
      exact h.of_holdings holds

end Settled

/-- A process that has used neither the library nor its heap. -/
def idleProcess : Process where
  gbmDevFd := -1
  gbmDev := 0
  gbmBoHandleMap _ := none
  devices _ := none
  bos _ := none
  handles _ := none
  fds _ := none
  calls := []

def startedService : Service where
  allocator := (init { fd := 3#32, file := 1, created := 1 } idleProcess).2.1
  process := (init { fd := 3#32, file := 1, created := 1 } idleProcess).2.2
  received := []

theorem startedService_initial (decode : List Byte → Except Int BufferDescriptorInfoV4) :
    (allocatorSystem decode).initial startedService :=
  ⟨rfl, { fd := 3#32, file := 1, created := 1 }, idleProcess, ⟨rfl, rfl, rfl, rfl⟩, rfl⟩

def singleEnv : DoAllocateEnv where
  attempts _ :=
    { devLocal := 0
      createdDevice := 0
      newHandle := 16
      memory := ⟨0, 0, 0, 0, 0, 0, 0, 0, 0, 0, 0⟩
      newBo := some ⟨32, 256#32, 0⟩
      errno := 0
      file := 9
      exportedFd := 8#32
      handleLocal := 0 }
  dups _ := [7#32]
  errno := 0

theorem singleEnv_attemptFresh : AttemptFresh (singleEnv.attempts 0).toAllocEnv
    startedService.process := by
  refine ⟨⟨fun _ => rfl, ?_, ?_⟩, ?_, nofun⟩
  · rintro new ⟨⟩
    rfl
  · rintro new ⟨⟩
    rfl
  · rintro new ⟨⟩
    decide

theorem singleEnv_fresh (desc : GrallocBufferDesc) :
    RequestFresh singleEnv startedService.allocator startedService.process desc
      (1#32 : Word).toNat := by
  have settled := Settled.initial (startedService_initial fun _ => .error 1)
  have attempts : AttemptsFresh singleEnv desc 0 1 startedService.process :=
    ⟨singleEnv_attemptFresh, fun _ _ _ => trivial⟩
  refine ⟨attempts, ?_⟩
  intro stride handles stride' s' returns
  rcases (Holdings.refl _).allocateHandles AttemptFresh.reports settled.can settled.initialized 1
    stride attempts with
    ⟨handles', stride₁, s₁, failed, -, -⟩ | ⟨held, s₁, succeeded, attempted, length, -, holds⟩
  · cases failed.symm.trans returns
  · cases succeeded.symm.trans returns
    obtain ⟨buffer, rfl⟩ := List.length_eq_one_iff.mp length
    obtain ⟨new, -, created, rfl⟩ := attempted.get (k := 0) rfl
    refine ⟨⟨7#32, rfl, by decide, ?_⟩, fun _ _ _ => trivial⟩
    rw [holds.fds.eq]
    rfl

def singleInfo (usage : BitVec 64) : BufferDescriptorInfo where
  width := 64#32
  height := 64#32
  layerCount := 1
  format := halPixelFormatRgba8888
  usage := usage
  reservedSize := 0

end GrallocGbmMesa.Allocator
