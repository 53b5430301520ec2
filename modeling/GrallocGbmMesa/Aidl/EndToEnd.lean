import GrallocGbmMesa.Aidl.Service
import GrallocGbmMesa.Allocator.Fidelity

/-!
# From a client to a client

A descriptor that one process hands to its proxy goes to the service in a parcel, comes back as
the words of a handle, and is what the mapper of another process reports.
-/

namespace GrallocGbmMesa.Aidl

open Checked PartialMap TransitionSystem
open GrallocGbmMesa.Platform
open GrallocGbmMesa.Core (NewBo grallocGmAndroidCaculatePixelStride)
open GrallocGbmMesa.Mapper
open GrallocGbmMesa.Allocator hiding BufferDescriptorInfo AllocationResult
open GbmMesaAllocator (dropHandle DoAllocateEnv doAllocate)

variable {Cell Name AStatus : Type} {api : StatusApi Cell AStatus} {ndk : Ndk Cell Name}
  {driver : Driver Cell} {decode : List ByteStream.Byte → Except Int BufferDescriptorInfoV4}
  {version : Word} {hash : String}

/-! ## In the service -/

section Service

variable {first s : ServiceState} {labels : List AllocatorEvent}
  {info : Allocator.BufferDescriptorInfo} {count : Word} {result : Allocator.AllocationResult}
  {process : Process}

/-- A request that succeeds asks for a number of buffers. -/
theorem allocate2_nonneg {allocator : GbmMesaAllocator} {env : DoAllocateEnv}
    (initialized : allocator.isInitialized = true)
    (succeeds : GbmMesaAllocator.allocate2 env allocator s.process info count {} =
      .ok (.ok, result, process)) : Convertible info ∧ 0 ≤ count.toInt := by
  by_cases accepted : Convertible info
  · refine ⟨accepted, ?_⟩
    by_contra negative
    rw [GbmMesaAllocator.allocate2_convertible initialized accepted, doAllocate,
      if_neg (not_not_intro initialized), if_pos (Int.not_le.mp negative)] at succeeds
    cases succeeds
  · rw [GbmMesaAllocator.allocate2_refused initialized accepted] at succeeds
    have status := congrArg Prod.fst (Except.ok.inj succeeds)
    dsimp only at status
    split at status <;> cases status

/-- The handles of a reply are those of the buffers, with the files of their dma-bufs. -/
theorem allocate2_parceled (initial : (allocatorSystem decode).initial first.idle)
    (run : Run (allocatorSystem decode) first.idle labels s.idle) (fresh : PlatformFresh s)
    (strides : StridesAgree (s.answers s.requests) (gbmDesc info))
    (succeeds : GbmMesaAllocator.allocate2 (s.answers s.requests) s.allocator s.process info count
      {} = .ok (.ok, result, process)) {i : ℕ} {handle : NativeHandle}
    (hhandle : (parceledResult process result).buffers[i]? = some handle) :
    ∃ new, ((s.answers s.requests).attempts i).newBo = some new ∧
      handle.fds = [some ((s.answers s.requests).attempts i).file] ∧
      handle.ints = (Core.allocatedHandle ((s.answers s.requests).attempts i).toAllocEnv new
        (gbmDesc info)).native.ints ∧
      result.stride = grallocGmAndroidCaculatePixelStride info.format new.stride := by
  have settled : Settled first.process s.idle :=
    run.invariant (Settled first.process) (Settled.initial initial) Settled.step
  have initialized : s.allocator.isInitialized = true := settled.initialized
  have can : CanAllocate s.process := settled.can
  obtain ⟨accepted, nonneg⟩ := allocate2_nonneg initialized succeeds
  have free := fresh (gbmDesc info) count nonneg
  have made := succeeds
  rw [GbmMesaAllocator.allocate2_convertible initialized accepted] at made
  have empty : ({} : Allocator.AllocationResult).buffers = [] := rfl
  rcases doAllocate_returns can initialized nonneg free empty with
    ⟨stride, s₁, returns, -⟩ | ⟨exports, s₁, valid, returns, attempted, length, holds⟩
  · cases returns.symm.trans made
  cases returns.symm.trans made
  have buffers : (parceledResult process ⟨batchStride (gbmDesc info) 0 (exports.map Prod.snd),
      exports.map aidlHandle⟩).buffers = exports.map fun entry =>
        parceled process (aidlHandle entry) := List.map_map
  rw [buffers, List.getElem?_map] at hhandle
  obtain ⟨entry, hentry, rfl⟩ := Option.map_eq_some_iff.mp hhandle
  have hmem := List.mem_of_getElem? hentry
  have hbuffer : (exports.map Prod.snd)[i]? = some entry.2 := by
    rw [List.getElem?_map, hentry]
    rfl
  obtain ⟨new, -, created, same⟩ := attempted.get hbuffer
  rw [Nat.zero_add] at created same
  have inside : i < (exports.map Prod.snd).length := by
    rw [List.length_map]
    exact (List.getElem?_eq_some_iff.mp hentry).1
  refine ⟨new, created, ?_, ?_, attempted.stride strides inside created⟩
  · have exported : process.fds entry.1 = some entry.2.file :=
      holds.fds.of_mem (List.mem_map_of_mem hmem)
    have present : entry.1 ≠ -1 := by
      have positive := valid entry hmem
      intro closed
      rw [closed] at positive
      exact absurd positive (by decide)
    change [if entry.1 = -1 then none else process.fds entry.1] = _
    rw [if_neg present, exported, same]
    rfl
  · change entry.2.native.native.ints = _
    rw [same]
    rfl

end Service

/-! ## Across the processes -/

/-- The platform answers a call with what it would have answered before. -/
theorem local_answers {first last : ServiceState} {served : List (LocalEvent Name AStatus)}
    (run : Run (localSystem (gbmMesaAllocator api decode version hash)) first served last) :
    last.answers = first.answers := by
  refine run.invariant (fun s => s.answers = first.answers) rfl fun {s event s'} same hstep => ?_
  rcases local_cases hstep with rfl | ⟨call, status, result, process, -, -, rfl⟩
  · exact same
  · exact same

/-- What a proxy answers to `allocate2` the service answered to the same arguments. -/
theorem answered_allocate2 {served : List (LocalEvent Name AStatus)}
    {event : LocalEvent Name AStatus}
    (h : TransportFails api event ∨
      ∃ call ∈ served, call.request = event.request ∧ SameAnswer api call event)
    (ok : api.isOk event.status = true) {args : Allocate2Args Name} {result : AllocationResult}
    (called : event.request = ⟨.allocate2, args⟩) (answer : event.answer = ⟨.allocate2, result⟩) :
    ∃ target status, api.isOk status = true ∧
      ⟨.allocate2, args, target, status, result⟩ ∈ served := by
  rcases h with ⟨error, failed⟩ | ⟨call, hmem, request, same⟩
  · rw [failed, api.isOk_fromError] at ok
    cases ok
  · rw [SameAnswer, if_pos ok] at same
    rw [called] at request
    rw [answer] at same
    obtain ⟨made, given, target, status, value⟩ := call
    cases request
    cases same.2
    exact ⟨target, status, same.1, hmem⟩

/-- Whatever else happens to the service and to the transactions, a buffer that a proxy is given
for a descriptor is one buffer of the platform, and a client that imports it reads what the
descriptor says. -/
theorem remote_fidelity {first : ServiceState} {events : List (RemoteEvent Name AStatus)}
    {last : BpAllocator × ServiceState} (initial : (allocatorSystem decode).initial first.idle)
    (run : Run ((proxySystem api ndk driver none
        (gbmMesaAllocator api decode version hash)).guarded fun state _ => PlatformFresh state.2)
      ({}, first) events last)
    {event : RemoteEvent Name AStatus} (hmem : event ∈ events)
    (ok : api.isOk event.status = true) {descriptor : BufferDescriptorInfo Name} {count : Word}
    {result : AllocationResult}
    (called : event.request = ⟨.allocate2, ⟨descriptor, count⟩⟩)
    (answer : event.answer = ⟨.allocate2, result⟩)
    (strides : ∀ n, StridesAgree (first.answers n) (gbmDesc descriptor.toBufferDescriptorInfo))
    (width : 1 ≤ descriptor.width.toInt) (height : 1 ≤ descriptor.height.toInt)
    (layers : descriptor.layerCount.toInt = 1) {i : ℕ} {handle : NativeHandle}
    (hhandle : result.buffers[i]? = some handle) :
    ∃ n new, ((first.answers n).attempts i).newBo = some new ∧
      handle.fds = [some ((first.answers n).attempts i).file] ∧
      ∀ {start final : Session} {calls : List MapperEvent} {p : Ptr} {raw : Platform.NativeHandle},
        mapperSystem.initial start → Run mapperSystem start calls final →
        p ∈ final.outstanding → origin p calls = some raw → raw.ints = handle.ints →
        ReportsDescriptor final.mapper p descriptor.toBufferDescriptorInfo new.modifier
          result.stride := by
  obtain ⟨served, explained⟩ := explained_run run
  obtain ⟨target, status, ok, hcall⟩ :=
    answered_allocate2 (explained.matched.answered event hmem) ok called answer
  obtain ⟨before, s, next, reached, fresh, hstep⟩ := explained.run.step_of_mem hcall
  obtain ⟨labels, allocated⟩ := local_run initial reached
  have same := local_answers reached.of_guarded
  have request : s.serve api (fun env result => GbmMesaAllocator.allocate2 env s.allocator
    s.process descriptor.toBufferDescriptorInfo count result) = .ok (status, result, next) := hstep
  obtain ⟨status', result', process, performed, rfl, rfl, rfl⟩ := serve_eq_ok request
  obtain rfl := StatusApi.isOk_ofScoped.mp ok
  obtain ⟨new, created, files, ints, stride⟩ := allocate2_parceled initial allocated fresh
    (same ▸ strides s.requests) performed hhandle
  rw [same] at created files ints
  refine ⟨s.requests, new, created, files, ?_⟩
  intro start final calls p raw started client held imported hints
  exact reportsDescriptor (mapperSystem_reportsHandle started client held imported
    (hints.trans ints)) width height layers stride

theorem remote_fidelity_one :
    ReportsDescriptor receivedSession.mapper 16 oneBufferDescriptor.toBufferDescriptorInfo 0
      64 := by
  obtain ⟨last, run⟩ := oneBuffer_run
  have strides (n : ℕ) : StridesAgree (oneBufferState.answers n)
      (gbmDesc oneBufferDescriptor.toBufferDescriptorInfo) := by
    refine ⟨fun _ => 256#32, ?_⟩
    rintro (_ | i) new ⟨⟩
    rfl
  have answered : (⟨64, [oneBufferHandle]⟩ : AllocationResult).buffers[0]? =
      some oneBufferHandle := rfl
  obtain ⟨n, new, created, -, reports⟩ := remote_fidelity (oneBufferState_initial _) run
    (List.mem_singleton_self _) rfl rfl rfl strides (by decide) (by decide) (by decide) answered
  cases created
  exact reports startedSession_initial receivedSession_run receivedSession_held rfl rfl

end GrallocGbmMesa.Aidl
