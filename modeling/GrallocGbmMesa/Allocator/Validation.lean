import GrallocGbmMesa.Allocator.AllOrNothing
import GrallocGbmMesa.Allocator.Calls

/-!
# What is checked before gbm is asked

Both entry points check a descriptor with the same conversion, on signed fields:
sizes for zero only and layers for more than one only.  The count is not checked.
-/

namespace GrallocGbmMesa.Allocator

open ByteStream Checked TransitionSystem
open GrallocGbmMesa.Platform GrallocGbmMesa.Core GbmMesaAllocator

/-- A request for buffers that exist: sizes and count are positive, and there is
at most one layer. -/
def Permitted (info : BufferDescriptorInfo) (count : Word) : Prop :=
  1 ≤ info.width.toInt ∧ 1 ≤ info.height.toInt ∧ 0 ≤ info.layerCount.toInt ∧
    info.layerCount.toInt ≤ 1 ∧ 1 ≤ count.toInt

instance (info : BufferDescriptorInfo) (count : Word) : Decidable (Permitted info count) :=
  inferInstanceAs (Decidable (_ ∧ _))

/-- Both entry points give the same answer, gbm is asked for permitted requests
only, and the others return with nothing allocated. -/
structure Validated (decode : List Byte → Except Int BufferDescriptorInfoV4) (env : DoAllocateEnv)
    (service : Service) (encodedDescriptor : List Byte) (info : BufferDescriptorInfo)
    (count : Word) : Prop where
  agree : allocate decode env service.allocator service.process encodedDescriptor count {} =
    allocate2 env service.allocator service.process info count {}
  guarded : ∀ status result s', allocate2 env service.allocator service.process info count {} =
    .ok (status, result, s') → ReachesCreate service.process s' → Permitted info count
  refused : ¬ Permitted info count → ∃ status result s',
    allocate2 env service.allocator service.process info count {} = .ok (status, result, s') ∧
      result.buffers = [] ∧ SameResources service.process s' ∧ (count ≠ 0 → status ≠ .ok)

/-- The sizes are not zero, and either there are too many layers, or nothing is
requested, or the request is permitted, or its first handle cannot be had. -/
def ValidatedWhen (env : DoAllocateEnv) (info : BufferDescriptorInfo) (count : Word) : Prop :=
  info.width ≠ 0 ∧ info.height ≠ 0 ∧
    (info.layerCount.toInt > 1 ∨ count = 0 ∨
      1 ≤ count.toInt ∧ (Permitted info count ∨ (env.attempts 0).newHandle = 0))

instance (env : DoAllocateEnv) (info : BufferDescriptorInfo) (count : Word) :
    Decidable (ValidatedWhen env info count) :=
  inferInstanceAs (Decidable (_ ∧ _))

section Count

variable {env : DoAllocateEnv} {allocator : GbmMesaAllocator} {s : Process}
  {desc : GrallocBufferDesc} {count : Word}

theorem doAllocate_negative (initialized : allocator.isInitialized = true)
    (negative : count.toInt < 0) (outResult : AllocationResult) :
    doAllocate env allocator s desc count outResult = .error .lengthError := by
  unfold doAllocate
  rw [if_neg (not_not_intro initialized), if_pos negative]

theorem doAllocate_none (initialized : allocator.isInitialized = true) :
    doAllocate env allocator s desc 0 {} = .ok (.ok, {}, s) := by
  unfold doAllocate
  rw [if_neg (not_not_intro initialized)]
  rfl

/-- A request whose first handle cannot be had changes nothing. -/
theorem doAllocate_noHandle (initialized : allocator.isInitialized = true) (ready : DeviceReady s)
    (positive : 1 ≤ count.toInt) (null : (env.attempts 0).newHandle = 0) :
    doAllocate env allocator s desc count {} = .ok (toBinderStatus .noResources, {}, s) := by
  have attempt : gbmAllocateBuffer (env.attempts 0) allocator s desc =
      .ok (toBinderStatus .noResources, none, s) := by
    unfold gbmAllocateBuffer grallocAllocate
    rw [if_neg (not_not_intro initialized), if_neg (by simp [grallocIsDescSupport_eq_true]),
      if_neg (by simp [grallocIsDescSupport_eq_true]), grallocGbmDeviceCreate_ready ready]
    simp only [Option.getD_some, if_neg ready.2.1, if_pos null]
    rfl
  obtain ⟨remaining, hcount⟩ := Nat.exists_eq_succ_of_ne_zero (count_ne_zero positive)
  have loop : allocateHandles env allocator desc count.toNat [] 0 s =
      .ok (toBinderStatus .noResources, [], 0, s) := by
    rw [hcount]
    unfold allocateHandles
    rw [List.length_nil, attempt]
    rfl
  unfold doAllocate
  rw [if_neg (not_not_intro initialized), if_neg (by omega), loop]
  rfl

end Count

/-- A request with a new result. -/
theorem allocate2_request (service : Service) (env : DoAllocateEnv) (count : Word)
    (initialized : service.allocator.isInitialized = true) {info : BufferDescriptorInfo}
    (accepted : Convertible info) :
    allocate2 env service.allocator service.process info count {} =
      doAllocate env service.allocator service.process (gbmDesc info) count {} :=
  allocate2_convertible initialized accepted

section Requests

variable {decode : List Byte → Except Int BufferDescriptorInfoV4} {service : Service}
  {encodedDescriptor : List Byte} {descriptor : BufferDescriptorInfoV4} {env : DoAllocateEnv}
  {count : Word}

/-- Descriptors that pass the conversion are requested alike. -/
theorem validated_convertible (env : DoAllocateEnv) (count : Word)
    (initialized : service.allocator.isInitialized = true)
    (decoded : decode encodedDescriptor = .ok descriptor)
    (accepted : Convertible descriptor.info) :
    allocate decode env service.allocator service.process encodedDescriptor count {} =
      allocate2 env service.allocator service.process descriptor.info count {} := by
  rw [allocate_convertible initialized decoded accepted,
    allocate2_convertible initialized accepted]

theorem Validated.of_when (initialized : service.allocator.isInitialized = true)
    (ready : DeviceReady service.process) (decoded : decode encodedDescriptor = .ok descriptor)
    (h : ValidatedWhen env descriptor.info count) :
    Validated decode env service encodedDescriptor descriptor.info count := by
  obtain ⟨width, height, checked⟩ := h
  have sized : ¬ (descriptor.info.width = 0 ∨ descriptor.info.height = 0) := by
    rintro (zero | zero)
    · exact width zero
    · exact height zero
  -- a request that returns at once, in the state it was made in
  have settled {status : ScopedAStatus} {result : AllocationResult}
      (agree : allocate decode env service.allocator service.process encodedDescriptor count {} =
        allocate2 env service.allocator service.process descriptor.info count {})
      (returns : allocate2 env service.allocator service.process descriptor.info count {} =
        .ok (status, result, service.process)) (empty : result.buffers = [])
      (fails : count ≠ 0 → status ≠ .ok) :
      Validated decode env service encodedDescriptor descriptor.info count := by
    refine ⟨agree, ?_, fun _ => ⟨status, result, _, returns, empty, .refl _, fails⟩⟩
    intro status' result' s' returns' reached
    cases returns.symm.trans returns'
    exact absurd reached (not_reachesCreate_self _)
  by_cases accepted : Convertible descriptor.info
  · have agree := validated_convertible env count initialized decoded accepted
    have made := allocate2_request service env count initialized accepted
    rcases checked with layers | rfl | ⟨positive, permitted | null⟩
    · exact absurd layers accepted.2
    · exact settled agree (made.trans (doAllocate_none initialized)) rfl
        fun some => absurd rfl some
    · exact ⟨agree, fun _ _ _ _ _ => permitted, fun refused => absurd permitted refused⟩
    · exact settled agree (made.trans (doAllocate_noHandle initialized ready positive null)) rfl
        fun _ => nofun
  · have returns : allocate2 env service.allocator service.process descriptor.info count {} =
        .ok (toBinderStatus .unsupported, {}, service.process) := by
      rw [allocate2_refused initialized accepted, if_neg sized]
    exact settled ((allocate_refused initialized decoded accepted).trans returns.symm) returns rfl
      fun _ => nofun

theorem Validated.when (initialized : service.allocator.isInitialized = true)
    (ready : DeviceReady service.process) (decoded : decode encodedDescriptor = .ok descriptor)
    (h : Validated decode env service encodedDescriptor descriptor.info count) :
    ValidatedWhen env descriptor.info count := by
  have sized : ¬ (descriptor.info.width = 0 ∨ descriptor.info.height = 0) := by
    intro zero
    have refused : ¬ Convertible descriptor.info := fun accepted => accepted.1 zero
    have agree := h.agree
    rw [allocate_refused initialized decoded refused, allocate2_refused initialized refused,
      if_pos zero] at agree
    cases agree
  rw [not_or] at sized
  refine ⟨sized.1, sized.2, ?_⟩
  by_cases layers : descriptor.info.layerCount.toInt > 1
  · exact .inl layers
  have accepted : Convertible descriptor.info := ⟨not_or.mpr sized, layers⟩
  have made := allocate2_request service env count initialized accepted
  by_cases permitted : Permitted descriptor.info count
  · exact .inr (.inr ⟨permitted.2.2.2.2, .inl permitted⟩)
  obtain ⟨status, result, s', returns, -⟩ := h.refused permitted
  by_cases none : count = 0
  · exact .inr (.inl none)
  have positive : 1 ≤ count.toInt := by
    by_contra few
    have negative : count.toInt < 0 := by
      have nonzero : count.toInt ≠ 0 := fun zero => none (BitVec.eq_of_toInt_eq zero)
      omega
    rw [made, doAllocate_negative initialized negative] at returns
    cases returns
  refine .inr (.inr ⟨positive, .inr ?_⟩)
  by_contra nonNull
  have reached := doAllocate_creates initialized ready positive nonNull (made.symm.trans returns)
  exact permitted (h.guarded status result s' returns reached)

end Requests

/-- In every state a service reaches, a request is validated exactly under its condition. -/
theorem requests_validated_iff {decode : List Byte → Except Int BufferDescriptorInfoV4}
    {first service : Service} {requests : List AllocatorEvent}
    (initial : (allocatorSystem decode).initial first)
    (run : Run (allocatorSystem decode) first requests service) {encodedDescriptor : List Byte}
    {descriptor : BufferDescriptorInfoV4} (decoded : decode encodedDescriptor = .ok descriptor)
    (env : DoAllocateEnv) (count : Word) :
    Validated decode env service encodedDescriptor descriptor.info count ↔
      ValidatedWhen env descriptor.info count := by
  have settled : Settled first.process service :=
    run.invariant (Settled first.process) (Settled.initial initial) Settled.step
  constructor
  · exact Validated.when settled.initialized settled.can.ready decoded
  · exact Validated.of_when settled.initialized settled.can.ready decoded

/-- A descriptor of one layer. -/
def encodedInfo (width : Word) : BufferDescriptorInfoV4 where
  width := width
  height := 64#32
  layerCount := 1
  format := halPixelFormatRgba8888
  usage := grallocUsageHwTexture.setWidth 64
  reservedSize := 0

theorem requests_validated_iff_single :
    Validated (fun _ => .ok (encodedInfo 64)) singleEnv startedService [] (encodedInfo 64).info
      1 :=
  (requests_validated_iff (startedService_initial _) .refl rfl singleEnv 1).mpr (by decide)

/-- A zero width gets two answers, a negative width reaches gbm, and a negative
count does not return. -/
theorem requests_unvalidated :
    ¬ Validated (fun _ => .ok (encodedInfo 0)) singleEnv startedService [] (encodedInfo 0).info
        1 ∧
      ¬ Validated (fun _ => .ok (encodedInfo (-1))) singleEnv startedService []
        (encodedInfo (-1)).info 1 ∧
      ¬ Validated (fun _ => .ok (encodedInfo 64)) singleEnv startedService []
        (encodedInfo 64).info (-1) := by
  have settled := Settled.initial (startedService_initial fun _ => .error 1)
  refine ⟨fun h => ?_, fun h => ?_, fun h => ?_⟩
  · have holds := h.when settled.initialized settled.can.ready rfl
    exact absurd holds (by decide)
  · have holds := h.when settled.initialized settled.can.ready rfl
    exact absurd holds (by decide)
  · have holds := h.when settled.initialized settled.can.ready rfl
    exact absurd holds (by decide)

end GrallocGbmMesa.Allocator
