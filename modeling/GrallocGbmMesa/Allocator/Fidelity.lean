import GrallocGbmMesa.Allocator.StaleWords
import GrallocGbmMesa.Allocator.Support
import GrallocGbmMesa.Mapper.Reports

/-!
# From the descriptor to the client

The values of a descriptor pass through the allocator into the words of a
handle, and with a copy of the handle into the process of a client, where the
mapper reports them.
-/

namespace GrallocGbmMesa.Allocator

open Bits Checked TransitionSystem
open GrallocGbmMesa.Platform GrallocGbmMesa.Core GrallocGbmMesa.Mapper GbmMesaAllocator

/-- `gbm_bo_get_stride` depends on nothing but the arguments of `gbm_bo_create`. -/
def StridesAgree (env : DoAllocateEnv) (desc : GrallocBufferDesc) : Prop :=
  ∃ strideOf : CreateArgs → Word, ∀ i new, (env.attempts i).newBo = some new →
    new.stride = strideOf (createArgs (grallocHandleCreate (env.attempts i).memory desc.width
      desc.height desc.androidFormat desc.androidUsage))

/-- What a client reads is what the descriptor says, with the modifier of the BO
and the stride of the allocation. -/
structure ReportsDescriptor (m : MapperState) (p : Ptr) (info : BufferDescriptorInfo)
    (modifier : BitVec 64) (stride : Word) : Prop where
  width : Reports m p .width (BitVec.ofNat 64 info.width.toInt.toNat)
  height : Reports m p .height (BitVec.ofNat 64 info.height.toInt.toNat)
  layerCount : Reports m p .layerCount (BitVec.ofNat 64 info.layerCount.toInt.toNat)
  format : Reports m p .pixelFormatRequested info.format
  crop : Reports m p .crop [{ left := 0, top := 0, right := info.width, bottom := info.height }]
  modifier : Reports m p .pixelFormatModifier modifier
  stride : Reports m p .stride stride

/-- The stride of a batch is that of its buffers if they have the same. -/
theorem batchStride_eq (desc : GrallocBufferDesc) {held : List Held} {stride : Word}
    (same : ∀ buffer ∈ held, buffer.native.stride = stride) (some : held ≠ []) (before : Word) :
    batchStride desc before held =
      grallocGmAndroidCaculatePixelStride desc.androidFormat stride := by
  induction held generalizing before with
  | nil => exact absurd rfl some
  | cons buffer rest ih =>
      have first := same buffer List.mem_cons_self
      unfold batchStride at ih ⊢
      rw [List.foldl_cons, first]
      cases rest with
      | nil => rfl
      | cons next rest =>
          exact ih (fun other hother => same other (List.mem_cons_of_mem _ hother)) nofun _

section Delivery

variable {decode : List ByteStream.Byte → Except Int BufferDescriptorInfoV4}
  {base : Process} {service : Service} {env : DoAllocateEnv}
  {info : BufferDescriptorInfo} {count : Word} {result : AllocationResult} {s' : Process}

/-- A request that succeeds passes the conversion. -/
theorem allocate2_accepts (settled : Settled base service)
    (succeeds : allocate2 env service.allocator service.process info count {} =
      .ok (.ok, result, s')) : Convertible info := by
  by_contra refused
  obtain ⟨error, returns, -⟩ := allocate2_unconvertible settled refused
  cases returns.symm.trans succeeds

/-- A request that succeeds, none of whose attempts fails without a report, delivers the words
of one handle for each attempt. -/
theorem allocate2_delivers (settled : Settled base service)
    (fresh : EachAttempt AttemptReports (answersOf env) (gbmDesc info) 0 count.toNat
      service.process)
    (succeeds : allocate2 env service.allocator service.process info count {} =
      .ok (.ok, result, s')) :
    ∃ held, Attempted env (gbmDesc info) 0 held ∧ held.length = count.toNat ∧
      result.stride = batchStride (gbmDesc info) 0 held ∧
      result.words = held.map fun buffer => buffer.native.native.ints := by
  have accepted := allocate2_accepts settled succeeds
  rw [allocate2_convertible settled.initialized accepted] at succeeds
  obtain ⟨handles, stride, s₁, allocates, exported⟩ := doAllocate_loop settled.initialized succeeds
  obtain ⟨buffers, exports, rfl⟩ := exported rfl
  rcases (Holdings.refl service.process).allocateHandles id settled.can settled.initialized
    count.toNat 0 fresh with
    ⟨_, _, _, returns, -⟩ | ⟨held, s₂, returns, attempted, length, -, holds⟩
  · rw [List.map_nil] at returns
    cases returns.symm.trans allocates
  · rw [List.map_nil] at returns
    cases returns.symm.trans allocates
    rw [List.nil_append] at holds exports
    rw [← length] at exports
    exact ⟨held, attempted, length, rfl,
      exportHandles_words held [] rfl holds.handles holds.nonNull exports⟩

section Entries

variable {held : List Held}

/-- An entry of the result carries the words of its attempt. -/
theorem Attempted.entry (attempted : Attempted env (gbmDesc info) 0 held)
    (words : result.words = held.map fun buffer => buffer.native.native.ints) {i : Nat}
    (inside : i < held.length) :
    ∃ new buffer, (env.attempts i).newBo = some new ∧ result.buffers[i]? = some buffer ∧
      buffer.ints =
        (allocatedHandle (env.attempts i).toAllocEnv new (gbmDesc info)).native.ints := by
  obtain ⟨new, -, created, same⟩ := attempted.get (List.getElem?_eq_getElem inside)
  rw [Nat.zero_add] at created same
  have word := congrArg (fun words => words[i]?) words
  simp only [AllocationResult.words, List.getElem?_map, List.getElem?_eq_getElem inside,
    Option.map_some] at word
  obtain ⟨buffer, hbuffer, ints⟩ := Option.map_eq_some_iff.mp word
  exact ⟨new, buffer, created, hbuffer, by rw [ints, same]; rfl⟩

/-- The stride of the result is that of every buffer. -/
theorem Attempted.stride (attempted : Attempted env (gbmDesc info) 0 held)
    (strides : StridesAgree env (gbmDesc info)) {i : Nat} (inside : i < held.length) {new : NewBo}
    (created : (env.attempts i).newBo = some new) :
    batchStride (gbmDesc info) 0 held =
      grallocGmAndroidCaculatePixelStride info.format new.stride := by
  obtain ⟨strideOf, agree⟩ := strides
  refine batchStride_eq (gbmDesc info) ?_ (List.ne_nil_of_length_pos (by omega)) 0
  intro buffer hbuffer
  obtain ⟨k, hk⟩ := List.mem_iff_getElem?.mp hbuffer
  obtain ⟨other, -, createdOther, rfl⟩ := attempted.get hk
  have sameArgs := (agree _ other createdOther).trans (agree i new created).symm
  exact sameArgs

end Entries

end Delivery

/-- A positive `int32_t` widens to the number it is. -/
theorem ofInt_positive {value : Word} (positive : 1 ≤ value.toInt) :
    BitVec.ofInt 64 value.toInt = BitVec.ofNat 64 value.toInt.toNat := by
  have nonneg : ((value.toInt.toNat : Nat) : Int) = value.toInt :=
    Int.toNat_of_nonneg (by omega)
  rw [← BitVec.ofInt_natCast, nonneg]

/-- What a descriptor with one layer becomes in the reports of a mapper. -/
theorem reportsDescriptor {m : MapperState} {p : Ptr} {env : AllocEnv} {new : NewBo}
    {info : BufferDescriptorInfo} {stride : Word}
    (reports : ReportsHandle m p (allocatedHandle env new (gbmDesc info)))
    (width : 1 ≤ info.width.toInt) (height : 1 ≤ info.height.toInt)
    (layers : info.layerCount.toInt = 1)
    (hstride : stride = grallocGmAndroidCaculatePixelStride info.format new.stride) :
    ReportsDescriptor m p info new.modifier stride where
  width := ofInt_positive width ▸ reports.width
  height := ofInt_positive height ▸ reports.height
  layerCount := by
    rw [layers]
    exact reports.layerCount
  format := reports.format
  crop := reports.crop
  modifier := reports.modifier
  stride := hstride ▸ reports.stride

/-- Whatever the locals of the attempts hold, a client that has imported a buffer of a request
that succeeds reads back what the descriptor asked for. -/
def DescriptorReaches (env : DoAllocateEnv) (service : Service) (info : BufferDescriptorInfo)
    (count : Word) : Prop :=
  ∀ locals result s', allocate2 (withLocals env locals) service.allocator service.process info
      count {} = .ok (.ok, result, s') →
    ∀ i < count.toNat, ∃ new buffer, (env.attempts i).newBo = some new ∧
      result.buffers[i]? = some buffer ∧
      ∀ {start last : Session} {calls : List MapperEvent} {p : Ptr} {raw : NativeHandle},
        mapperSystem.initial start → Run mapperSystem start calls last →
        p ∈ last.outstanding → origin p calls = some raw → raw.ints = buffer.ints →
        ReportsDescriptor last.mapper p info new.modifier result.stride

/-- A failure is reported, or none happens without a report. -/
def DescriptorReachesWhen (env : DoAllocateEnv) (count : Word) : Prop :=
  (∃ k < count.toNat, Reported (answersOf env k)) ∨
    ∀ k < count.toNat, ¬ Unreported (answersOf env k)

section Fidelity

variable {base : Process} {service : Service} {env : DoAllocateEnv}
  {info : BufferDescriptorInfo} {count : Word}

theorem DescriptorReaches.of_when (settled : Settled base service)
    (width : 1 ≤ info.width.toInt) (height : 1 ≤ info.height.toInt)
    (layers : info.layerCount.toInt = 1)
    (fresh : AttemptsNew env (gbmDesc info) 0 count.toNat service.process)
    (strides : StridesAgree env (gbmDesc info)) (h : DescriptorReachesWhen env count) :
    DescriptorReaches env service info count := by
  intro locals result s' succeeds i inside
  have told : ∀ k < count.toNat, ¬ Unreported (answersOf env k) := by
    refine h.resolve_left ?_
    rintro ⟨k, before, reported⟩
    have made := succeeds
    rw [allocate2_convertible settled.initialized (allocate2_accepts settled succeeds)] at made
    obtain ⟨handles, stride, s₁, allocates, -⟩ := doAllocate_loop settled.initialized made
    have quiet := allocateHandles_told count.toNat allocates k before
    rw [List.length_nil, Nat.zero_add] at quiet
    exact quiet reported
  have reports : EachAttempt AttemptReports (answersOf (withLocals env locals)) (gbmDesc info) 0
      count.toNat service.process := fresh.reports_of_told told
  obtain ⟨held, attempted, length, stride, words⟩ := allocate2_delivers settled reports succeeds
  have inHeld := inside
  rw [← length] at inHeld
  obtain ⟨new, buffer, created, hbuffer, ints⟩ := attempted.entry words inHeld
  refine ⟨new, buffer, created, hbuffer, ?_⟩
  intro start last calls p raw started client held imported same
  exact reportsDescriptor (mapperSystem_reportsHandle started client held imported
    (same.trans ints)) width height layers (stride.trans (attempted.stride strides inHeld created))

theorem DescriptorReaches.when (settled : Settled base service) (accepted : Convertible info)
    (nonneg : 0 ≤ count.toInt)
    (fresh : AttemptsNew env (gbmDesc info) 0 count.toNat service.process)
    (h : DescriptorReaches env service info count) : DescriptorReachesWhen env count := by
  by_cases told : ∀ k < count.toNat, ¬ Reported (answersOf env k)
  · refine .inr fun k inside silent => ?_
    -- with `NULL` in the locals the request succeeds
    obtain ⟨result, s', returns⟩ := @doAllocate_null (withLocals env fun _ => 0)
      service.allocator (gbmDesc info) service.process count settled.can settled.initialized nonneg
      (fun _ => rfl) fresh told
    rw [← allocate2_convertible settled.initialized accepted] at returns
    obtain ⟨new, buffer, created, -⟩ := h _ result s' returns k inside
    cases silent.2.1.symm.trans created
  · push Not at told
    exact .inl told

end Fidelity

/-- In every state a service reaches, what a request delivers reaches its clients as the
descriptor says exactly if no attempt fails without a report, or the request fails. -/
theorem allocate2_fidelity_iff {decode : List ByteStream.Byte → Except Int BufferDescriptorInfoV4}
    {first service : Service} {requests : List AllocatorEvent}
    (initial : (allocatorSystem decode).initial first)
    (run : Run (allocatorSystem decode) first requests service) {info : BufferDescriptorInfo}
    (width : 1 ≤ info.width.toInt) (height : 1 ≤ info.height.toInt)
    (layers : info.layerCount.toInt = 1) {count : Word} (positive : 1 ≤ count.toInt)
    {env : DoAllocateEnv}
    (fresh : AttemptsNew env (gbmDesc info) 0 count.toNat service.process)
    (strides : StridesAgree env (gbmDesc info)) :
    DescriptorReaches env service info count ↔ DescriptorReachesWhen env count := by
  have settled : Settled first.process service :=
    run.invariant (Settled first.process) (Settled.initial initial) Settled.step
  have accepted : Convertible info := by
    refine ⟨?_, by omega⟩
    rintro (zero | zero)
    · rw [zero] at width
      exact absurd width (by decide)
    · rw [zero] at height
      exact absurd height (by decide)
  constructor
  · exact DescriptorReaches.when settled accepted (by omega) fresh
  · exact DescriptorReaches.of_when settled width height layers fresh strides

/-! ## Usage -/

/-- A client reads the usage that was requested, all 64 bits of it, and could
have read it for no other usage. -/
structure ReportsUsage (m : MapperState) (p : Ptr) (usage : BitVec 64) : Prop where
  exactly : Reports m p .usage usage
  protectedContent : Reports m p .protectedContent
    (if Meets usage (grallocUsageProtected.setWidth 64) then 1#64 else 0#64)
  determined : ∀ other, Reports m p .usage other → other = usage

/-- A handle carries 32 bits of usage. -/
theorem reportsUsage_iff {m : MapperState} {p : Ptr} {handle : GrallocHandle} {usage : BitVec 64}
    (reports : ReportsHandle m p handle) (narrowed : handle.usage = usage.setWidth 32) :
    ReportsUsage m p usage ↔ usage.toNat < 2 ^ 32 := by
  have reported := reports.usage
  rw [narrowed] at reported
  rw [← setWidth_setWidth_eq_iff (show 32 ≤ 64 by decide)]
  constructor
  · intro h
    exact h.determined _ reported
  · intro same
    rw [same] at reported
    refine ⟨reported, ?_, fun other h => h.int64_unique reported rfl rfl⟩
    have protect := reports.protectedContent
    rw [narrowed] at protect
    simp only [meets_setWidth (show 32 ≤ 64 by decide)] at protect
    exact protect

/-- The usage of a request that succeeded reaches the client exactly when it fits 32 bits. -/
theorem allocate2_usage_iff {decode : List ByteStream.Byte → Except Int BufferDescriptorInfoV4}
    {first service : Service} {requests : List AllocatorEvent}
    (initial : (allocatorSystem decode).initial first)
    (run : Run (allocatorSystem decode) first requests service) {info : BufferDescriptorInfo}
    {count : Word} {env : DoAllocateEnv}
    (fresh : AttemptsNew env (gbmDesc info) 0 count.toNat service.process)
    (told : ∀ k < count.toNat, ¬ Unreported (answersOf env k))
    {result : AllocationResult} {s' : Process}
    (succeeds : allocate2 env service.allocator service.process info count {} =
      .ok (.ok, result, s')) {i : Nat} (inside : i < count.toNat) :
    ∃ buffer, result.buffers[i]? = some buffer ∧
      ∀ {start last : Session} {calls : List MapperEvent} {p : Ptr} {raw : NativeHandle},
        mapperSystem.initial start → Run mapperSystem start calls last →
        p ∈ last.outstanding → origin p calls = some raw → raw.ints = buffer.ints →
        (ReportsUsage last.mapper p info.usage ↔ info.usage.toNat < 2 ^ 32) := by
  have settled : Settled first.process service :=
    run.invariant (Settled first.process) (Settled.initial initial) Settled.step
  obtain ⟨held, attempted, length, -, words⟩ :=
    allocate2_delivers settled (fresh.reports_of_told told) succeeds
  obtain ⟨new, buffer, created, hbuffer, ints⟩ := attempted.entry words (length.symm ▸ inside)
  refine ⟨buffer, hbuffer, ?_⟩
  intro start last calls p raw started client held imported same
  exact reportsUsage_iff (mapperSystem_reportsHandle started client held imported
    (same.trans ints)) rfl

/-! ## A request and its client -/

/-- What a client receives of the buffer that is allocated. -/
def receivedHandle : NativeHandle where
  fds := [7#32]
  ints := (allocatedHandle (singleEnv.attempts 0).toAllocEnv ⟨32, 256#32, 0⟩
    (gbmDesc (singleInfo (grallocUsageHwTexture.setWidth 64)))).native.ints

def receivedImport : MapperCall :=
  .importBuffer receivedHandle
    { clone := some (16, [8#32])
      gbm := { createdDevice := 0, newBo := some ⟨32, 256#32, 0⟩ } }

def receivedSession : Session := startedSession.next receivedImport

theorem receivedSession_run : Run mapperSystem startedSession
    [⟨receivedImport, .imported .none (some 16)⟩] receivedSession := by
  refine Run.single (Session.next_step ⟨by decide, ?_, ?_, ?_⟩ (by decide +kernel))
  · rintro p fds ⟨⟩
    exact ⟨by decide, rfl⟩
  · rintro p fds ⟨⟩
    refine ⟨List.nodup_singleton _, ?_⟩
    intro fd hmem
    rw [List.mem_singleton.mp hmem]
    exact ⟨by decide, rfl⟩
  · rintro new ⟨⟩
    rfl

theorem receivedSession_held : 16 ∈ receivedSession.outstanding := by decide +kernel

theorem singleEnv_told : ∀ k < (1#32 : Word).toNat, ¬ Unreported (answersOf singleEnv k) := by
  rintro k - ⟨-, none, -⟩
  cases none

theorem singleEnv_strides (desc : GrallocBufferDesc) : StridesAgree singleEnv desc := by
  refine ⟨fun _ => 256#32, ?_⟩
  rintro i new ⟨⟩
  rfl

theorem allocate2_fidelity_iff_single :
    ReportsDescriptor receivedSession.mapper 16
      (singleInfo (grallocUsageHwTexture.setWidth 64)) 0 64#32 := by
  have fresh := (singleEnv_fresh (gbmDesc (singleInfo (grallocUsageHwTexture.setWidth 64)))).new
  have reaches := (allocate2_fidelity_iff (startedService_initial fun _ => .error 1) .refl
    (by decide) (by decide) (by decide) (by decide) fresh (singleEnv_strides _)).mpr
      (.inr singleEnv_told)
  obtain ⟨new, buffer, created, hbuffer, reports⟩ :=
    reaches (fun _ => 0) _ _ rfl 0 (by decide)
  cases created
  cases hbuffer
  exact reports startedSession_initial receivedSession_run receivedSession_held rfl rfl

/-- gbm has a BO for the first attempt, and for the second none and no error number. -/
def silentEnv : DoAllocateEnv where
  attempts
    | 0 => singleEnv.attempts 0
    | _ + 1 => { singleEnv.attempts 0 with newHandle := 24, newBo := none, errno := 0 }
  dups _ := [7#32]
  errno := 0

/-- A request for two buffers succeeds with one, whose stride is not that of the result. -/
theorem allocate2_misdelivers :
    ∃ s' : Process, allocate2 silentEnv startedService.allocator startedService.process
        (singleInfo (grallocUsageHwTexture.setWidth 64)) 2 {} =
          .ok (.ok, { stride := 0, buffers := [receivedHandle, emptyHandle] }, s') ∧
      Reports receivedSession.mapper 16 .stride 64#32 ∧
      ¬ DescriptorReaches silentEnv startedService
        (singleInfo (grallocUsageHwTexture.setWidth 64)) 2 := by
  have reports := mapperSystem_reportsHandle startedSession_initial receivedSession_run
    receivedSession_held rfl rfl
  refine ⟨_, rfl, reports.stride, fun reaches => ?_⟩
  obtain ⟨new, buffer, created, -⟩ := reaches (fun _ => 0) _ _ rfl 1 (by decide)
  cases created

theorem allocate2_usage_iff_single :
    ReportsUsage receivedSession.mapper 16 (grallocUsageHwTexture.setWidth 64) := by
  obtain ⟨buffer, hbuffer, reports⟩ :=
    allocate2_usage_iff (startedService_initial fun _ => .error 1) .refl (singleEnv_fresh _).new
      singleEnv_told
      (show allocate2 singleEnv startedService.allocator startedService.process
        (singleInfo (grallocUsageHwTexture.setWidth 64)) 1 {} = _ from rfl)
      (show 0 < (1#32 : Word).toNat by decide)
  cases hbuffer
  exact (reports startedSession_initial receivedSession_run receivedSession_held rfl rfl).mpr
    (by decide)

/-- A usage with a flag above bit 31. -/
def vendorUsage : BitVec 64 := 0x100000100#64

/-- The usage is accepted, and its client reads what it reads for the low half. -/
theorem allocate2_usage_truncated :
    ∃ s' : Process, allocate2 singleEnv startedService.allocator startedService.process
        (singleInfo vendorUsage) 1 {} =
          .ok (.ok, { stride := 64, buffers := [receivedHandle] }, s') ∧
      origin 16 [⟨receivedImport, .imported .none (some 16)⟩] = some receivedHandle ∧
      16 ∈ receivedSession.outstanding ∧
      ¬ ReportsUsage receivedSession.mapper 16 vendorUsage := by
  refine ⟨_, rfl, rfl, receivedSession_held, ?_⟩
  have reports := mapperSystem_reportsHandle startedSession_initial receivedSession_run
    receivedSession_held rfl rfl
  have narrowed : ReportsUsage receivedSession.mapper 16 vendorUsage ↔
      vendorUsage.toNat < 2 ^ 32 := reportsUsage_iff reports rfl
  rw [narrowed]
  decide

end GrallocGbmMesa.Allocator
