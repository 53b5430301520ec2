import GrallocGbmMesa.Allocator.AllOrNothing
import GrallocGbmMesa.Allocator.SilentFailures

/-!
# Asking before allocating

`isSupported` looks at the options of a descriptor and at nothing else, an
allocation at everything but the options.
-/

namespace GrallocGbmMesa.Allocator

open ByteStream Checked TransitionSystem
open GrallocGbmMesa.Platform GrallocGbmMesa.Core GbmMesaAllocator

/-- Every option asks for a dataspace. -/
def OnlyDataspace (info : BufferDescriptorInfo) : Prop :=
  ∀ option ∈ info.additionalOptions, option.name = standardMetadataDataspace

instance (info : BufferDescriptorInfo) : Decidable (OnlyDataspace info) :=
  inferInstanceAs (Decidable (∀ _ ∈ _, _))

theorem isSupported_eq {allocator : GbmMesaAllocator} (initialized : allocator.isInitialized = true)
    (info : BufferDescriptorInfo) (outResult : Bool) :
    isSupported allocator info outResult = (.ok, decide (OnlyDataspace info)) := by
  unfold isSupported
  rw [if_neg (not_not_intro initialized)]
  by_cases only : OnlyDataspace info
  · rw [if_neg, decide_eq_true only]
    rw [List.any_eq_true]
    rintro ⟨option, hmem, other⟩
    rw [only option hmem] at other
    simp at other
  · rw [if_pos, decide_eq_false only]
    unfold OnlyDataspace at only
    push Not at only
    obtain ⟨option, hmem, other⟩ := only
    exact List.any_eq_true.mpr ⟨option, hmem, by simpa using other⟩

/-- What is supported is not refused, and what is not supported is not allocated, whatever the
locals of the attempts hold. -/
structure SupportAgrees (env : DoAllocateEnv) (service : Service) (info : BufferDescriptorInfo)
    (count : Word) : Prop where
  supported : ∀ locals outResult, isSupported service.allocator info outResult = (.ok, true) →
    ∀ status result s',
      allocate2 (withLocals env locals) service.allocator service.process info count {} =
        .ok (status, result, s') →
      status ≠ toBinderStatus .badDescriptor ∧ status ≠ toBinderStatus .unsupported
  unsupported : ∀ locals outResult, isSupported service.allocator info outResult = (.ok, false) →
    1 ≤ count.toInt → ∃ status result s',
      allocate2 (withLocals env locals) service.allocator service.process info count {} =
        .ok (status, result, s') ∧
      status ≠ .ok ∧ result.buffers = [] ∧ SameResources service.process s'

/-- Descriptors with dataspace options only are convertible, and a descriptor with
another option is not, or one of its buffers cannot be had, which is reported, and none
before it without a report. -/
def SupportAgreesWhen (env : DoAllocateEnv) (info : BufferDescriptorInfo) (count : Word) : Prop :=
  (OnlyDataspace info → Convertible info) ∧
    (¬ OnlyDataspace info → 1 ≤ count.toInt →
      ¬ Convertible info ∨ ∃ k < count.toNat, Reported (answersOf env k) ∧
        ∀ j < k, ¬ Unreported (answersOf env j))

/-! ## What a request answers -/

theorem gbmAllocateBuffer_status {env : AttemptEnv} {allocator : GbmMesaAllocator} {s s' : Process}
    {desc : GrallocBufferDesc} {status : ScopedAStatus} {stored : Option (Word × Ptr)}
    (h : gbmAllocateBuffer env allocator s desc = .ok (status, stored, s')) :
    status = .ok ∨ status = toBinderStatus .noResources := by
  unfold gbmAllocateBuffer at h
  rw [if_neg (show ¬ ¬ grallocIsDescSupport desc = true by
    simp [grallocIsDescSupport_eq_true])] at h
  split at h
  · cases h
    exact .inr rfl
  obtain ⟨⟨ret, made, s₁⟩, -, h⟩ := bind_eq_ok.mp h
  dsimp only at h
  split at h
  · cases h
    exact .inr rfl
  · cases h
    exact .inl rfl

theorem allocateHandles_status {env : DoAllocateEnv} {allocator : GbmMesaAllocator}
    {desc : GrallocBufferDesc} {status : ScopedAStatus} (remaining : Nat) :
    ∀ {handles handles' : List Ptr} {s s' : Process} {stride stride' : Word},
      allocateHandles env allocator desc remaining handles stride s =
        .ok (status, handles', stride', s') →
      status = .ok ∨ status = toBinderStatus .noResources := by
  induction remaining with
  | zero =>
      intro handles handles' s s' stride stride' returns
      cases returns
      exact .inl rfl
  | succ remaining ih =>
      intro handles handles' s s' stride stride' returns
      unfold allocateHandles at returns
      obtain ⟨⟨attempted, stored, s₁⟩, attempt, returns⟩ := bind_eq_ok.mp returns
      dsimp only at returns
      split at returns
      · obtain ⟨s₂, -, returns⟩ := bind_eq_ok.mp returns
        cases returns
        exact gbmAllocateBuffer_status attempt
      · exact ih returns

/-- A request that passes the conversion lacks resources, if anything. -/
theorem doAllocate_status {env : DoAllocateEnv} {allocator : GbmMesaAllocator}
    {desc : GrallocBufferDesc} {s s' : Process} {count : Word} {status : ScopedAStatus}
    {outResult result : AllocationResult}
    (h : doAllocate env allocator s desc count outResult = .ok (status, result, s')) :
    status = .ok ∨ status = toBinderStatus .noResources := by
  unfold doAllocate at h
  split at h
  · cases h
    exact .inr rfl
  split at h
  · cases h
  obtain ⟨⟨allocated, handles, stride, s₁⟩, allocates, h⟩ := bind_eq_ok.mp h
  dsimp only at h
  split at h
  · cases h
    exact allocateHandles_status _ allocates
  · obtain ⟨⟨buffers, s₂⟩, -, h⟩ := bind_eq_ok.mp h
    cases h
    exact .inl rfl

/-- The result of a request whose first loop has ended. -/
theorem doAllocate_loop {env : DoAllocateEnv} {allocator : GbmMesaAllocator}
    {desc : GrallocBufferDesc} {s s' : Process} {count : Word} {status : ScopedAStatus}
    {result : AllocationResult} (initialized : allocator.isInitialized = true)
    (h : doAllocate env allocator s desc count {} = .ok (status, result, s')) :
    ∃ handles stride s₁, allocateHandles env allocator desc count.toNat [] 0 s =
        .ok (status, handles, stride, s₁) ∧
      (status = .ok → ∃ buffers, exportHandles env 0 handles
        (List.replicate count.toNat emptyHandle) s₁ = .ok (buffers, s') ∧
          result = { stride, buffers }) := by
  unfold doAllocate at h
  rw [if_neg (not_not_intro initialized)] at h
  split at h
  · cases h
  obtain ⟨⟨allocated, handles, stride, s₁⟩, allocates, h⟩ := bind_eq_ok.mp h
  dsimp only at h
  split at h
  · rename_i failed
    cases h
    exact ⟨handles, stride, _, allocates, fun ok => absurd ok failed⟩
  · rename_i succeeded
    obtain rfl := not_not.mp succeeded
    obtain ⟨⟨buffers, s₂⟩, exports, h⟩ := bind_eq_ok.mp h
    cases h
    refine ⟨handles, stride, s₁, allocates, fun _ => ⟨buffers, ?_, rfl⟩⟩
    simpa [resizeBuffers] using exports

section Request

variable {base : Process} {service : Service} {env : DoAllocateEnv} {info : BufferDescriptorInfo}
  {desc : GrallocBufferDesc} {count : Word}

/-- A conversion that fails is the answer of the request. -/
theorem allocate2_unconvertible (settled : Settled base service) (refused : ¬ Convertible info) :
    ∃ error, allocate2 env service.allocator service.process info count {} =
      .ok (toBinderStatus error, {}, service.process) ∧
        (error = .badDescriptor ∨ error = .unsupported) := by
  rw [allocate2_refused settled.initialized refused]
  split
  · exact ⟨.badDescriptor, rfl, .inl rfl⟩
  · exact ⟨.unsupported, rfl, .inr rfl⟩

/-- A failure that is reported before any that is not ends the request. -/
theorem doAllocate_reported (settled : Settled base service) (nonneg : 0 ≤ count.toInt)
    (fresh : AttemptsNew env desc 0 count.toNat service.process) {k : Nat}
    (inside : k < count.toNat) (reported : Reported (answersOf env k))
    (before : ∀ j < k, ¬ Unreported (answersOf env j)) :
    ∃ result s', doAllocate env service.allocator service.process desc count {} =
        .ok (toBinderStatus .noResources, result, s') ∧ result.buffers = [] ∧
      SameResources service.process s' := by
  have told : ∀ j < count.toNat, Unreported (answersOf env (0 + j)) →
      ∃ k < j, Reported (answersOf env (0 + k)) := by
    intro j _ silent
    rw [Nat.zero_add] at silent
    refine ⟨k, ?_, by rwa [Nat.zero_add]⟩
    by_contra late
    rcases Nat.lt_or_eq_of_le (Nat.not_lt.mp late) with earlier | rfl
    · exact before j earlier silent
    · exact reported.not_unreported silent
  unfold doAllocate
  rw [if_neg (not_not_intro settled.initialized), if_neg (Int.not_lt.mpr nonneg)]
  rcases (Holdings.refl service.process).allocateHandles id settled.can settled.initialized
    count.toNat 0 (fresh.reports count.toNat told) with
    ⟨handles, stride, s', returns, -, nothing⟩ | ⟨held, s', -, attempted, length, -, -⟩
  · rw [List.map_nil] at returns
    exact ⟨{ stride }, s', by rw [returns]; rfl, rfl, nothing.sameResources⟩
  · have succeeds := attempted.succeeds (length.symm ▸ inside)
    rw [List.length_nil, Nat.zero_add] at succeeds
    exact absurd reported.attemptFails succeeds

/-- A request fails, whatever the locals hold, only after a failure that is reported before any
that is not. -/
theorem doAllocate_fails (settled : Settled base service)
    (fresh : AttemptsNew env desc 0 count.toNat service.process)
    (fails : ∀ locals, ∃ status result s',
      doAllocate (withLocals env locals) service.allocator service.process desc count {} =
        .ok (status, result, s') ∧ status ≠ .ok) :
    ∃ k < count.toNat, Reported (answersOf env k) ∧ ∀ j < k, ¬ Unreported (answersOf env j) := by
  by_cases told : ∀ j < count.toNat, Unreported (answersOf env (0 + j)) →
      ∃ k < j, Reported (answersOf env (0 + k))
  · obtain ⟨status, result, s', returns, failed⟩ := fails fun _ => 0
    obtain ⟨handles, stride, s₁, allocates, -⟩ := doAllocate_loop settled.initialized returns
    have reports : EachAttempt AttemptReports (answersOf (withLocals env fun _ => 0)) desc 0
        count.toNat service.process := fresh.reports count.toNat told
    rcases (Holdings.refl service.process).allocateHandles id settled.can settled.initialized
      count.toNat 0 reports with
      ⟨-, -, -, -, ⟨k, inside, reported, before⟩, -⟩ | ⟨held, s', succeeds, -⟩
    · simp only [List.length_nil, Nat.zero_add] at reported before
      exact ⟨k, inside, reported, before⟩
    · rw [List.map_nil] at succeeds
      cases succeeds.symm.trans allocates
      exact absurd rfl failed
  · push Not at told
    obtain ⟨j, inside, silent, quiet⟩ := told
    obtain ⟨status, result, s', returns, failed⟩ :=
      fails fun i => (env.attempts i).newHandle
    obtain ⟨handles, stride, s₁, allocates, -⟩ := doAllocate_loop settled.initialized returns
    have stale : status = .ok ∧ Dangling handles s₁ :=
      allocateHandles_unreported settled.initialized (fun _ => rfl) count.toNat settled.can.ready
        fresh inside silent quiet allocates
    exact absurd stale.1 failed

theorem SupportAgrees.of_when (settled : Settled base service)
    (fresh : Convertible info → 0 ≤ count.toInt →
      AttemptsNew env (gbmDesc info) 0 count.toNat service.process)
    (h : SupportAgreesWhen env info count) : SupportAgrees env service info count where
  supported := by
    intro locals outResult answered status result s' returns
    rw [isSupported_eq settled.initialized] at answered
    have accepted := h.1 (of_decide_eq_true (congrArg Prod.snd answered))
    rw [allocate2_convertible settled.initialized accepted] at returns
    rcases doAllocate_status returns with rfl | rfl
    · exact ⟨nofun, nofun⟩
    · exact ⟨nofun, nofun⟩
  unsupported := by
    intro locals outResult answered positive
    rw [isSupported_eq settled.initialized] at answered
    have other := of_decide_eq_false (congrArg Prod.snd answered)
    by_cases accepted : Convertible info
    · obtain ⟨k, inside, reported, before⟩ :=
        (h.2 other positive).resolve_left (not_not_intro accepted)
      have nonneg : 0 ≤ count.toInt := by omega
      have handed : AttemptsNew (withLocals env locals) (gbmDesc info) 0 count.toNat
          service.process := fresh accepted nonneg
      obtain ⟨result, s', returns, empty, same⟩ :=
        doAllocate_reported settled nonneg handed inside reported before
      rw [allocate2_convertible settled.initialized accepted]
      exact ⟨_, result, s', returns, nofun, empty, same⟩
    · obtain ⟨error, returns, -⟩ := allocate2_unconvertible settled accepted
      exact ⟨_, _, _, returns, nofun, rfl, .refl _⟩

theorem SupportAgrees.when (settled : Settled base service)
    (fresh : Convertible info → 0 ≤ count.toInt →
      AttemptsNew env (gbmDesc info) 0 count.toNat service.process)
    (h : SupportAgrees env service info count) : SupportAgreesWhen env info count := by
  constructor
  · intro only
    by_contra refused
    obtain ⟨error, returns, kind⟩ := allocate2_unconvertible settled refused
    obtain ⟨notBad, notUnsupported⟩ := h.supported (fun _ => 0) false
      (by rw [isSupported_eq settled.initialized, decide_eq_true only]) _ _ _ returns
    rcases kind with rfl | rfl
    · exact notBad rfl
    · exact notUnsupported rfl
  · intro other positive
    by_cases accepted : Convertible info
    · refine .inr (doAllocate_fails settled (fresh accepted (by omega)) fun locals => ?_)
      obtain ⟨status, result, s', returns, failed, -⟩ := h.unsupported locals false
        (by rw [isSupported_eq settled.initialized, decide_eq_false other]) positive
      rw [allocate2_convertible settled.initialized accepted] at returns
      exact ⟨status, result, s', returns, failed⟩
    · exact .inl accepted

end Request

/-- In every state a service reaches, support agrees with allocation exactly under its condition. -/
theorem support_agrees_iff {decode : List Byte → Except Int BufferDescriptorInfoV4}
    {first service : Service} {requests : List AllocatorEvent}
    (initial : (allocatorSystem decode).initial first)
    (run : Run (allocatorSystem decode) first requests service) {env : DoAllocateEnv}
    {info : BufferDescriptorInfo} {count : Word}
    (fresh : Convertible info → 0 ≤ count.toInt →
      AttemptsNew env (gbmDesc info) 0 count.toNat service.process) :
    SupportAgrees env service info count ↔ SupportAgreesWhen env info count := by
  have settled : Settled first.process service :=
    run.invariant (Settled first.process) (Settled.initial initial) Settled.step
  constructor
  · exact SupportAgrees.when settled fresh
  · exact SupportAgrees.of_when settled fresh

/-- A descriptor with options. -/
def optionalInfo (width : Word) (names : List String) : BufferDescriptorInfo where
  width := width
  height := 64#32
  layerCount := 1
  format := halPixelFormatRgba8888
  usage := grallocUsageHwTexture.setWidth 64
  reservedSize := 0
  additionalOptions := names.map fun name => ⟨name, 0⟩

/-- gbm has no BO, and says why in `errno`. -/
def refusingEnv : DoAllocateEnv where
  attempts _ := { singleEnv.attempts 0 with newBo := none, errno := 12 }
  dups _ := []
  errno := 0

theorem support_agrees_iff_refused :
    SupportAgrees refusingEnv startedService (optionalInfo 64 ["unknown"]) 1 := by
  have fresh : AttemptsNew refusingEnv (gbmDesc (optionalInfo 64 ["unknown"])) 0
      (1#32 : Word).toNat startedService.process :=
    ⟨⟨fun _ => rfl, nofun, nofun⟩, fun _ _ _ => trivial⟩
  refine (support_agrees_iff (startedService_initial fun _ => .error 1) .refl
    fun _ _ => fresh).mpr ⟨fun only => absurd only (by decide), fun _ _ => .inr ?_⟩
  exact ⟨0, by decide, .inr ⟨rfl, by decide⟩, nofun⟩

/-- A descriptor without options is supported and refused, one with an unknown
option is not supported and allocated. -/
theorem support_disagrees :
    ¬ SupportAgrees singleEnv startedService (optionalInfo 0 []) 1 ∧
      ¬ SupportAgrees singleEnv startedService (optionalInfo 64 ["unknown"]) 1 := by
  constructor
  · intro h
    exact (h.supported (fun _ => 0) false rfl _ _ _ rfl).1 rfl
  · intro h
    obtain ⟨status, result, s', returns, fails, -⟩ :=
      h.unsupported (fun _ => 0) true rfl (by decide)
    cases returns
    exact fails rfl

end GrallocGbmMesa.Allocator
