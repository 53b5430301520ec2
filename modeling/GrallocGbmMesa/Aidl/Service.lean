import GrallocGbmMesa.Aidl.RemoteCalls
import GrallocGbmMesa.Allocator.AllOrNothing

/-!
# The service behind the interface

`GbmMesaAllocator` as the implementation that transactions reach.  Its process keeps nothing
for the clients that call it.
-/

namespace GrallocGbmMesa.Aidl

open Checked PartialMap TransitionSystem
open GrallocGbmMesa.Platform
open GrallocGbmMesa.Allocator hiding BufferDescriptorInfo AllocationResult
open GbmMesaAllocator (dropHandle DoAllocateEnv doAllocate)

variable {Cell Name AStatus : Type}

/-- The service process, and what the platform answers to each of its requests. -/
structure ServiceState where
  allocator : GbmMesaAllocator
  process : Process
  answers : ℕ → DoAllocateEnv
  requests : ℕ

def StatusApi.ofScoped (api : StatusApi Cell AStatus) : ScopedAStatus → AStatus
  | .ok => api.newOk
  | .serviceSpecificError error => api.fromServiceSpecificError error

theorem StatusApi.isOk_ofScoped {api : StatusApi Cell AStatus} {status : ScopedAStatus} :
    api.isOk (api.ofScoped status) = true ↔ status = .ok := by
  cases status with
  | ok => exact iff_of_true api.isOk_newOk rfl
  | serviceSpecificError error =>
      exact iff_of_false (Bool.not_eq_true _ ▸ api.isOk_fromServiceSpecificError error) nofun

/-- A handle in a parcel: its descriptors are the files they refer to. -/
def parceled (s : Process) (handle : Platform.NativeHandle) : NativeHandle where
  fds := handle.fds.map fun fd => if fd = -1 then none else s.fds fd
  ints := handle.ints

def parceledResult (s : Process) (result : Allocator.AllocationResult) : AllocationResult where
  stride := result.stride
  buffers := result.buffers.map (parceled s)

/-- A request with a new result, which the stub writes to its reply and then drops. -/
def ServiceState.serve (api : StatusApi Cell AStatus) (s : ServiceState)
    (request : DoAllocateEnv → Allocator.AllocationResult →
      Except Fault (ScopedAStatus × Allocator.AllocationResult × Process)) :
    Except Fault (AStatus × AllocationResult × ServiceState) := do
  let (status, result, process) ← request (s.answers s.requests) {}
  return (api.ofScoped status, parceledResult process result,
    { s with
      process := result.buffers.foldl dropHandle process
      requests := s.requests + 1 })

/-- The methods of `GbmMesaAllocator`. -/
def gbmMesaService (api : StatusApi Cell AStatus)
    (decode : List ByteStream.Byte → Except Int BufferDescriptorInfoV4) :
    ServiceMethods Name AStatus ServiceState where
  allocate args _ s := s.serve api fun env result =>
    GbmMesaAllocator.allocate decode env s.allocator s.process args.descriptor args.count result
  allocate2 args _ s := s.serve api fun env result =>
    GbmMesaAllocator.allocate2 env s.allocator s.process
      args.descriptor.toBufferDescriptorInfo args.count result
  isSupported descriptor target s :=
    let (status, value) :=
      GbmMesaAllocator.isSupported s.allocator descriptor.toBufferDescriptorInfo target
    .ok (api.ofScoped status, value, s)
  getIMapperLibrarySuffix _ _ s := .ok (api.newOk, "gm", s)

/-- The platform hands out what is not in use, whatever is requested next. -/
def PlatformFresh (s : ServiceState) : Prop :=
  ∀ (desc : Core.GrallocBufferDesc) (count : Word), 0 ≤ count.toInt →
    RequestFresh (s.answers s.requests) s.allocator s.process desc count.toNat

/-- The service between two calls: no client holds anything in its process. -/
def ServiceState.idle (s : ServiceState) : Service where
  allocator := s.allocator
  process := s.process
  received := []

/-! ## Calls as runs of the allocator -/

section Calls

variable {decode : List ByteStream.Byte → Except Int BufferDescriptorInfoV4}
  {allocator : GbmMesaAllocator} {process : Process}

/-- The owner of descriptors closes one after the other. -/
theorem close_run {fds : List Fd} (distinct : fds.Nodup) :
    ∃ labels, Run (allocatorSystem decode) ⟨allocator, process, fds⟩ labels
      ⟨allocator, fds.foldl Process.close process, []⟩ := by
  induction fds generalizing process with
  | nil => exact ⟨[], .refl⟩
  | cons fd rest ih =>
      obtain ⟨new, distinct⟩ := List.nodup_cons.mp distinct
      obtain ⟨labels, run⟩ := @ih (process.close fd) distinct
      have others : (fd :: rest).filter (· ≠ fd) = rest := by
        rw [List.filter_cons_of_neg (by simp), List.filter_eq_self]
        intro other hother
        exact decide_eq_true fun same => new (same ▸ hother)
      have closed : (allocatorSystem decode).step ⟨allocator, process, fd :: rest⟩
          ⟨.close fd, .ok, {}⟩ ⟨allocator, process.close fd, rest⟩ := by
        refine ⟨⟨?_, nofun⟩, rfl, rfl, others.symm⟩
        rintro _ ⟨⟩
        exact List.mem_cons_self
      exact ⟨_, (Run.single closed).trans run⟩

/-- The descriptors of a result that is dropped are closed. -/
theorem drop_run {base : Process} {buffers : List Platform.NativeHandle}
    (settled : Settled base ⟨allocator, process, buffers.flatMap (·.fds)⟩)
    (valid : ∀ buffer ∈ buffers, ∀ fd ∈ buffer.fds, fd ≠ -1) :
    ∃ labels, Run (allocatorSystem decode) ⟨allocator, process, buffers.flatMap (·.fds)⟩ labels
      ⟨allocator, buffers.foldl dropHandle process, []⟩ := by
  obtain ⟨opened, received, overlaid⟩ := settled.fds
  have closes : buffers.foldl dropHandle process =
      (buffers.flatMap (·.fds)).foldl Process.close process := by
    rw [List.foldl_flatMap]
    refine List.foldl_ext _ _ _ fun s buffer hbuffer => ?_
    exact List.foldl_ext _ _ _ fun s fd hfd => if_neg (valid buffer hbuffer fd hfd)
  have distinct := overlaid.nodup
  rw [received] at distinct
  rw [closes]
  exact close_run distinct

/-- A request that returns something returns valid descriptors. -/
theorem doAllocate_valid {env : DoAllocateEnv} {desc : Core.GrallocBufferDesc} {count : Word}
    {status : ScopedAStatus} {result : Allocator.AllocationResult} {process' : Process}
    (can : CanAllocate process) (initialized : allocator.isInitialized = true)
    (nonneg : 0 ≤ count.toInt) (fresh : RequestFresh env allocator process desc count.toNat)
    (returns : doAllocate env allocator process desc count {} = .ok (status, result, process')) :
    ∀ buffer ∈ result.buffers, ∀ fd ∈ buffer.fds, fd ≠ -1 := by
  have empty : ({} : Allocator.AllocationResult).buffers = [] := rfl
  rcases doAllocate_returns can initialized nonneg fresh empty with
    ⟨stride, s₁, failed, -⟩ | ⟨exports, s₁, valid, succeeded, -⟩
  · cases failed.symm.trans returns
    exact List.forall_mem_nil _
  · cases succeeded.symm.trans returns
    intro buffer hbuffer fd hfd
    obtain ⟨entry, hentry, rfl⟩ := List.mem_map.mp hbuffer
    obtain rfl := List.mem_singleton.mp hfd
    have positive := valid entry hentry
    intro closed
    rw [closed] at positive
    exact absurd positive (by decide)

/-- A request to the service, with the answers of the platform that it gets. -/
inductive RequestOf (env : DoAllocateEnv) : AllocatorCall → Prop where
  | allocate (encodedDescriptor : List ByteStream.Byte) (count : Word) :
      RequestOf env (.allocate encodedDescriptor count env)
  | allocate2 (descriptor : Allocator.BufferDescriptorInfo) (count : Word) :
      RequestOf env (.allocate2 descriptor count env)

theorem RequestOf.env_eq {env env' : DoAllocateEnv} {call : AllocatorCall}
    {desc : Core.GrallocBufferDesc} {count : Word} (h : RequestOf env call)
    (request : call.request decode = some (desc, count, env')) : env' = env := by
  cases h with
  | allocate encodedDescriptor count =>
      unfold AllocatorCall.request at request
      dsimp only at request
      split at request
      · cases request
      · split at request <;> cases request
        rfl
  | allocate2 descriptor count =>
      unfold AllocatorCall.request at request
      dsimp only at request
      split at request <;> cases request
      rfl

/-- A request that is dropped leaves a service that has handed out nothing. -/
theorem request_run {base : Process} {s : ServiceState} {call : AllocatorCall}
    {status : ScopedAStatus} {result : Allocator.AllocationResult} {process' : Process}
    (settled : Settled base s.idle) (fresh : PlatformFresh s)
    (isRequest : RequestOf (s.answers s.requests) call)
    (performed : call.perform decode s.idle = .ok (status, result, process')) :
    ∃ labels, Run (allocatorSystem decode) s.idle labels
      ⟨s.allocator, result.buffers.foldl dropHandle process', []⟩ := by
  have received : AllocatorEvent.received ⟨call, status, result⟩ [] =
      result.buffers.flatMap (·.fds) := by
    cases isRequest <;> rfl
  have opens : ∀ fd, call = .close fd → fd ∈ s.idle.received := by
    rintro fd rfl
    cases isRequest
  rcases Settled.perform_cases decode settled.initialized call with
    ⟨fd, rfl⟩ | ⟨error, refused⟩ | ⟨desc, count, env, request, made⟩
  · cases isRequest
  · cases refused.symm.trans performed
    exact ⟨[], .refl⟩
  · rw [made] at performed
    have nonneg : 0 ≤ count.toInt := by
      by_contra negative
      unfold doAllocate at performed
      rw [if_neg (not_not_intro settled.initialized), if_pos (Int.not_le.mp negative)] at performed
      cases performed
    have answered := isRequest.env_eq request
    subst answered
    have free := fresh desc count nonneg
    have requested : (allocatorSystem decode).step s.idle ⟨call, status, result⟩
        ⟨s.allocator, process', result.buffers.flatMap (·.fds)⟩ := by
      refine ⟨⟨opens, fun desc' count' env' request' => ?_⟩, made.trans performed, rfl,
        received.symm⟩
      cases request.symm.trans request'
      exact ⟨nonneg, free⟩
    obtain ⟨labels, run⟩ : ∃ labels, Run (allocatorSystem decode) _ labels _ :=
      drop_run (settled.step requested)
        (doAllocate_valid settled.can settled.initialized nonneg free performed)
    exact ⟨_, (Run.single requested).trans run⟩

end Calls

section Runs

variable {api : StatusApi Cell AStatus} {ndk : Ndk Cell Name} {driver : Driver Cell}
  {decode : List ByteStream.Byte → Except Int BufferDescriptorInfoV4} {version : Word}
  {hash : String}

/-- The service that clients reach. -/
def gbmMesaAllocator (api : StatusApi Cell AStatus)
    (decode : List ByteStream.Byte → Except Int BufferDescriptorInfoV4) (version : Word)
    (hash : String) : IAllocator Name AStatus ServiceState :=
  bnAllocator api version hash (gbmMesaService api decode)

/-- What a call of `serve` did. -/
theorem serve_eq_ok {s s' : ServiceState} {status : AStatus} {value : AllocationResult}
    {request : DoAllocateEnv → Allocator.AllocationResult →
      Except Fault (ScopedAStatus × Allocator.AllocationResult × Process)}
    (h : s.serve api request = .ok (status, value, s')) :
    ∃ status' result process, request (s.answers s.requests) {} = .ok (status', result, process) ∧
      status = api.ofScoped status' ∧ value = parceledResult process result ∧
      s' = { s with
        process := result.buffers.foldl dropHandle process
        requests := s.requests + 1 } := by
  obtain ⟨⟨status', result, process⟩, performed, h⟩ := bind_eq_ok.mp h
  cases h
  exact ⟨status', result, process, performed, rfl, rfl, rfl⟩

/-- A call is a request that is dropped, or it leaves the service alone. -/
theorem local_cases {s s' : ServiceState} {event : LocalEvent Name AStatus}
    (hstep : (localSystem (gbmMesaAllocator api decode version hash)).step s event s') :
    s' = s ∨ ∃ call status result process, RequestOf (s.answers s.requests) call ∧
      call.perform decode s.idle = .ok (status, result, process) ∧
      s' = { s with
        process := result.buffers.foldl dropHandle process
        requests := s.requests + 1 } := by
  obtain ⟨method, args, target, status, value⟩ := event
  cases method with
  | allocate =>
      have served : s.serve api (fun env result => GbmMesaAllocator.allocate decode env s.allocator
        s.process args.descriptor args.count result) = .ok (status, value, s') := hstep
      obtain ⟨status', result, process, performed, -, -, rfl⟩ := serve_eq_ok served
      exact .inr ⟨_, status', result, process, .allocate args.descriptor args.count, performed,
        rfl⟩
  | allocate2 =>
      have served : s.serve api (fun env result => GbmMesaAllocator.allocate2 env s.allocator
        s.process args.descriptor.toBufferDescriptorInfo args.count result) =
          .ok (status, value, s') := hstep
      obtain ⟨status', result, process, performed, -, -, rfl⟩ := serve_eq_ok served
      exact .inr ⟨_, status', result, process,
        .allocate2 args.descriptor.toBufferDescriptorInfo args.count, performed, rfl⟩
  | isSupported =>
      exact .inl (congrArg (fun returned => returned.2.2) (Except.ok.inj hstep)).symm
  | getIMapperLibrarySuffix =>
      cases hstep
      exact .inl rfl
  | getInterfaceVersion =>
      cases hstep
      exact .inl rfl
  | getInterfaceHash =>
      cases hstep
      exact .inl rfl

/-- The calls of a service that begins idle are a run of the allocator. -/
theorem local_run {first last : ServiceState} {served : List (LocalEvent Name AStatus)}
    (initial : (allocatorSystem decode).initial first.idle)
    (run : Run ((localSystem (gbmMesaAllocator api decode version hash)).guarded
      fun s _ => PlatformFresh s) first served last) :
    ∃ labels, Run (allocatorSystem decode) first.idle labels last.idle := by
  induction run with
  | refl => exact ⟨[], .refl⟩
  | tail hprefix hstep ih =>
      obtain ⟨before, allocated⟩ := ih
      have settled := allocated.invariant (Settled first.process) (Settled.initial initial)
        Settled.step
      rcases local_cases hstep.2 with
        rfl | ⟨call, status, result, process, isRequest, performed, rfl⟩
      · exact ⟨before, allocated⟩
      · obtain ⟨after, more⟩ := request_run settled hstep.1 isRequest performed
        exact ⟨before ++ after, allocated.trans more⟩

/-- Whatever clients call and whatever becomes of their transactions, the service process has
between two calls what it had before the first one. -/
theorem remote_keepsNothing {first : ServiceState} {events : List (RemoteEvent Name AStatus)}
    {last : BpAllocator × ServiceState} (initial : (allocatorSystem decode).initial first.idle)
    (run : Run ((proxySystem api ndk driver none
        (gbmMesaAllocator api decode version hash)).guarded fun state _ => PlatformFresh state.2)
      ({}, first) events last) :
    last.2.process.gbmBoHandleMap = first.process.gbmBoHandleMap ∧
      last.2.process.bos = first.process.bos ∧ last.2.process.handles = first.process.handles ∧
      last.2.process.fds = first.process.fds ∧ last.2.allocator = first.allocator := by
  obtain ⟨served, explained⟩ := explained_run run
  obtain ⟨labels, allocated⟩ := local_run initial explained.run
  have settled := allocated.invariant (Settled first.process) (Settled.initial initial)
    Settled.step
  obtain ⟨opened, none, overlaid⟩ := settled.fds
  rw [List.map_eq_nil_iff.mp none] at overlaid
  refine ⟨settled.registry, settled.bos, settled.handles, overlaid.eq_base, ?_⟩
  exact allocated.invariant (fun service => service.allocator = first.allocator) rfl
    fun same hstep => hstep.2.2.1.trans same

end Runs

/-! ## A service with one buffer -/

/-- A platform that has one handle. -/
def oneBufferEnv : DoAllocateEnv where
  attempts
    | 0 => singleEnv.attempts 0
    | _ + 1 => { singleEnv.attempts 0 with newHandle := 0, newBo := none, errno := 12 }
  dups _ := [7#32]
  errno := 0

def oneBufferState : ServiceState where
  allocator := startedService.allocator
  process := startedService.process
  answers _ := oneBufferEnv
  requests := 0

theorem oneBufferState_initial (decode : List ByteStream.Byte → Except Int BufferDescriptorInfoV4) :
    (allocatorSystem decode).initial oneBufferState.idle := startedService_initial decode

/-- After the first attempt nothing is handed out. -/
theorem oneBufferEnv_attempts (desc : Core.GrallocBufferDesc) (remaining : ℕ) :
    ∀ (i : ℕ) (s : Process), AttemptsFresh oneBufferEnv desc (i + 1) remaining s := by
  induction remaining with
  | zero => exact fun _ _ => trivial
  | succ remaining ih =>
      intro i s
      refine ⟨⟨⟨fun some => absurd rfl some, nofun, nofun⟩, nofun, fun _ => ?_⟩,
        fun _ s' _ => ih (i + 1) s'⟩
      exact (by decide : (0 : Int) < 12)

theorem oneBufferState_fresh : PlatformFresh oneBufferState := by
  intro desc count nonneg
  have settled := Settled.initial (oneBufferState_initial fun _ => .error 1)
  have initialized : oneBufferState.allocator.isInitialized = true := settled.initialized
  have can : CanAllocate oneBufferState.process := settled.can
  have attempts : AttemptsFresh oneBufferEnv desc 0 count.toNat oneBufferState.process := by
    cases count.toNat with
    | zero => trivial
    | succ remaining =>
        exact ⟨singleEnv_attemptFresh, fun _ s' _ => oneBufferEnv_attempts _ _ 0 s'⟩
  refine ⟨attempts, ?_⟩
  intro stride handles stride' s' returns
  rcases (Holdings.refl oneBufferState.process).allocateHandles AttemptFresh.reports can
    initialized count.toNat stride attempts with
    ⟨handles', stride₁, s₁, failed, -, -⟩ | ⟨held, s₁, succeeded, attempted, length, -, holds⟩
  · cases failed.symm.trans returns
  · cases succeeded.symm.trans returns
    rw [List.nil_append] at holds ⊢
    cases attempted with
    | nil => trivial
    | cons nonNull created later =>
        cases later with
        | nil =>
            refine ⟨⟨7#32, rfl, by decide, ?_⟩, fun _ _ _ => trivial⟩
            rw [holds.fds.eq]
            rfl
        | cons nonNull => exact absurd rfl nonNull

def oneBufferDescriptor : BufferDescriptorInfo (BitVec 64) where
  width := 64
  height := 64
  layerCount := 1
  format := halPixelFormatRgba8888
  usage := grallocUsageHwTexture.setWidth 64
  reservedSize := 0
  name := 7

def oneBufferService : IAllocator (BitVec 64) Word ServiceState :=
  gbmMesaAllocator wordApi (fun _ => .error 1) 2 "-"

/-- The buffer that a client gets. -/
def oneBufferHandle : NativeHandle where
  fds := [some 9]
  ints := (Core.allocatedHandle (oneBufferEnv.attempts 0).toAllocEnv ⟨32, 256#32, 0⟩
    (gbmDesc oneBufferDescriptor.toBufferDescriptorInfo)).native.ints

def oneBufferEvent : RemoteEvent (BitVec 64) Word where
  method := .allocate2
  args := (⟨oneBufferDescriptor, 1⟩ : Allocate2Args (BitVec 64))
  target := ({} : AllocationResult)
  status := 0
  value := (⟨64, [oneBufferHandle]⟩ : AllocationResult)
  torn := ({} : AllocationResult)
  fate := .delivered
  locals := bareLocals

def oneBufferCall : Except Fault (Word × AllocationResult × BpAllocator × ServiceState) :=
  BpAllocator.call wordApi byteNdk
    (byteDriver.binder wordApi byteNdk oneBufferService .delivered bareLocals) none {} .allocate2
    ({} : AllocationResult) ({} : AllocationResult)
    (⟨oneBufferDescriptor, 1⟩ : Allocate2Args (BitVec 64)) oneBufferState

theorem oneBufferCall_answer :
    (oneBufferCall.toOption.map fun returned => (returned.1, returned.2.1, returned.2.2.1)) =
      some (0, (⟨64, [oneBufferHandle]⟩ : AllocationResult), {}) := by decide +kernel

theorem oneBuffer_run : ∃ last, Run ((proxySystem wordApi byteNdk byteDriver none
    oneBufferService).guarded fun state _ => PlatformFresh state.2) ({}, oneBufferState)
      [oneBufferEvent] last := by
  have answer := oneBufferCall_answer
  cases returned : oneBufferCall with
  | error fault =>
      rw [returned] at answer
      cases answer
  | ok result =>
      obtain ⟨status, value, proxy, s⟩ := result
      rw [returned] at answer
      cases answer
      exact ⟨({}, s), Run.single ⟨oneBufferState_fresh, returned⟩⟩

theorem remote_keepsNothing_one : ∃ last, Run ((proxySystem wordApi byteNdk byteDriver none
    oneBufferService).guarded fun state _ => PlatformFresh state.2) ({}, oneBufferState)
      [oneBufferEvent] last ∧ last.2.process.fds = startedService.process.fds := by
  obtain ⟨last, run⟩ := oneBuffer_run
  exact ⟨last, run, (remote_keepsNothing (oneBufferState_initial _) run).2.2.2.1⟩

end GrallocGbmMesa.Aidl
