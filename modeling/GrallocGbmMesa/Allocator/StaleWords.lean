import GrallocGbmMesa.Allocator.AllOrNothing
import GrallocGbmMesa.Allocator.SilentFailures

/-!
# Words that nobody writes

`native_handle_create` does not clear the memory of a handle, and an allocation
writes all of its words but the owner and the data pointer.  Two runs with the
same answers and different memory show in those words what the memory held.
-/

namespace GrallocGbmMesa.Allocator

open ByteStream Checked PartialMap TransitionSystem
open GrallocGbmMesa.Platform GrallocGbmMesa.Core GbmMesaAllocator

/-- The answers of two runs differ in what the memory of the handles held before. -/
structure SameAnswers (env env' : DoAllocateEnv) : Prop where
  attempts : ∀ i, ∃ memory, env'.attempts i = { env.attempts i with memory }
  dups : env'.dups = env.dups
  errno : env'.errno = env.errno

/-- The ints of every handle of a result. -/
def AllocationResult.words (result : AllocationResult) : List (List Word) :=
  result.buffers.map NativeHandle.ints

/-- The handle is created where there is none, and gbm sets an error number when it fails. -/
def HandleFresh (env : AllocEnv) (s : Process) : Prop :=
  (env.newHandle ≠ 0 → s.handles env.newHandle = none) ∧ (env.newBo = none → env.errno ≠ 0)

/-- So it is in every attempt from `i` on. -/
def HandlesFresh (env : DoAllocateEnv) : GrallocBufferDesc → Nat → Nat → Process → Prop :=
  EachAttempt HandleFresh (answersOf env)

/-! ## The words of a handle -/

/-- The memory of two handles held the same where an allocation writes nothing. -/
def SameUnwritten (memory memory' : GrallocHandle) : Prop :=
  memory.dataOwner = memory'.dataOwner ∧ memory.data = memory'.data

instance (memory memory' : GrallocHandle) : Decidable (SameUnwritten memory memory') :=
  inferInstanceAs (Decidable (_ ∧ _))

/-- A word of 64 bits is its two halves. -/
theorem eq_of_halves {x y : BitVec 64} (low : x.setWidth 32 = y.setWidth 32)
    (high : (x >>> 32).setWidth 32 = (y >>> 32).setWidth 32) : x = y := by
  apply BitVec.eq_of_toNat_eq
  have low := congrArg BitVec.toNat low
  have high := congrArg BitVec.toNat high
  simp only [BitVec.toNat_setWidth, BitVec.toNat_ushiftRight, Nat.shiftRight_eq_div_pow] at low high
  omega

/-- Two allocations with the same answers make the same ints of the same unwritten words. -/
theorem allocatedHandle_ints_iff {env : AllocEnv} {memory : GrallocHandle} (new : NewBo)
    (desc : GrallocBufferDesc) :
    (allocatedHandle env new desc).native.ints =
        (allocatedHandle { env with memory } new desc).native.ints ↔
      SameUnwritten env.memory memory := by
  unfold SameUnwritten
  constructor
  · intro same
    simp only [GrallocHandle.native, allocatedHandle, Core.exportHandle, grallocHandleCreate,
      List.cons.injEq, true_and, and_true] at same
    exact ⟨same.1, eq_of_halves same.2.1 same.2.2⟩
  · rintro ⟨owner, data⟩
    simp only [GrallocHandle.native, allocatedHandle, Core.exportHandle, grallocHandleCreate, owner,
      data]

/-! ## Handles across the loops -/

/-- The handles that are held are what is new among the handles. -/
def HandlesHeld (base : Process) (held : List Held) (s : Process) : Prop :=
  Overlaid (held.map Held.handleEntry) base.handles s.handles

section Loops

variable {base : Process} {env : DoAllocateEnv} {allocator : GbmMesaAllocator}
  {desc : GrallocBufferDesc}

/-- The first loop fails at one of its attempts, or holds the handle of each. -/
theorem allocateHandles_held (initialized : allocator.isInitialized = true) (remaining : Nat) :
    ∀ {held : List Held} {s s' : Process} {stride stride' : Word} {status : ScopedAStatus}
      {handles : List Ptr}, HandlesHeld base held s → DeviceReady s →
      HandlesFresh env desc held.length remaining s →
      allocateHandles env allocator desc remaining (held.map Held.handle) stride s =
        .ok (status, handles, stride', s') →
      (status ≠ .ok ∧ ∃ k < remaining, AttemptFails (env.attempts (held.length + k)).toAllocEnv) ∨
        (status = .ok ∧ ∃ more, handles = (held ++ more).map Held.handle ∧
          Attempted env desc held.length more ∧ more.length = remaining ∧
          HandlesHeld base (held ++ more) s') := by
  induction remaining with
  | zero =>
      intro held s s' stride stride' status handles h ready fresh returns
      cases returns
      exact .inr ⟨rfl, [], by rw [List.append_nil], .nil _, rfl, by rwa [List.append_nil]⟩
  | succ remaining ih =>
      intro held s s' stride stride' status handles h ready fresh returns
      obtain ⟨⟨freshHandle, errno⟩, later⟩ := fresh
      unfold allocateHandles at returns
      rw [List.length_map] at returns
      rcases gbmAllocateBuffer_handles initialized ready freshHandle desc with
        ⟨s₁, attempt, failed, -⟩ | ⟨-, -, -, ⟨-, none, silent⟩, -⟩ |
        ⟨new, s₁, allocates, attempt, nonNull, made, ready₁, handles₁⟩
      · rw [attempt, ok_bind] at returns
        obtain ⟨s₂, -, returns⟩ := bind_eq_ok.mp returns
        cases returns
        refine .inl ⟨?_, 0, Nat.succ_pos _, failed.attemptFails⟩
        intro ok
        cases ok
      · exact absurd silent (errno none)
      rw [attempt, ok_bind] at returns
      have stored : HandlesHeld base
          (held ++ [allocated (env.attempts held.length).toAllocEnv new desc]) s₁ := by
        unfold HandlesHeld at h ⊢
        rw [handles₁, List.map_append]
        exact h.store (freshHandle nonNull) _
      have fresh₁ : HandlesFresh env desc (held.length + 1) remaining s₁ := later _ _ allocates
      have rest : allocateHandles env allocator desc remaining
          ((held ++ [allocated (env.attempts held.length).toAllocEnv new desc]).map Held.handle)
          (grallocGmAndroidCaculatePixelStride desc.androidFormat new.stride) s₁ =
            .ok (status, handles, stride', s') := by
        rw [List.map_append]
        exact returns
      rcases ih stored ready₁ (by rwa [List.length_append]) rest with
        ⟨failed, k, inside, reason⟩ | ⟨succeeded, more, all, attempted, length, kept⟩
      · refine .inl ⟨failed, k + 1, Nat.succ_lt_succ inside, ?_⟩
        rw [List.length_append, List.length_singleton] at reason
        rwa [Nat.add_comm k 1, ← Nat.add_assoc]
      · rw [List.length_append, List.length_singleton] at attempted
        rw [List.append_assoc] at all kept
        refine .inr ⟨succeeded, allocated (env.attempts held.length).toAllocEnv new desc :: more,
          all, .cons nonNull made attempted, ?_, kept⟩
        rw [List.length_cons, length]

/-- The second loop delivers the ints of every handle that is held. -/
theorem exportHandles_words (held : List Held) :
    ∀ {i : Nat} {s s' : Process} (before : List NativeHandle) {buffers : List NativeHandle},
      before.length = i → HandlesHeld base held s → (∀ buffer ∈ held, buffer.handle ≠ 0) →
      exportHandles env i (held.map Held.handle)
        (before ++ List.replicate held.length emptyHandle) s = .ok (buffers, s') →
      buffers.map NativeHandle.ints =
        before.map NativeHandle.ints ++ held.map fun buffer => buffer.native.native.ints := by
  induction held with
  | nil =>
      intro i s s' before buffers length h nonNull returns
      cases returns
      simp
  | cons buffer rest ih =>
      intro i s s' before buffers length h nonNull returns
      rw [List.map_cons] at returns
      unfold exportHandles at returns
      obtain ⟨⟨dup, s₁⟩, exported, returns⟩ := bind_eq_ok.mp returns
      have hnative : s.handles buffer.handle = some buffer.native.native :=
        h.of_mem List.mem_cons_self
      obtain ⟨-, native, found, ints, handles⟩ := (exportHandle_handles exported).resolve_left
        fun nothing => nonNull buffer List.mem_cons_self nothing.1
      cases hnative.symm.trans found
      have kept : HandlesHeld base rest s₁ := by
        unfold HandlesHeld at h ⊢
        rw [handles]
        exact h.erase_head
      dsimp only at returns
      rw [List.length_cons, set_next length] at returns
      have length' : (before ++ [dup]).length = i + 1 := by
        rw [List.length_append, length, List.length_singleton]
      rw [ih _ length' kept (fun other hother => nonNull other (List.mem_cons_of_mem _ hother))
        returns, List.map_append, List.map_cons, List.map_nil, ints, List.append_assoc]
      rfl

end Loops

/-! ## Two requests -/

/-- The words of a request are those of its handles, or none when an attempt fails. -/
theorem doAllocate_words {env : DoAllocateEnv} {allocator : GbmMesaAllocator} {s s' : Process}
    {desc : GrallocBufferDesc} {count : Word} {status : ScopedAStatus} {result : AllocationResult}
    (initialized : allocator.isInitialized = true) (ready : DeviceReady s)
    (fresh : HandlesFresh env desc 0 count.toNat s)
    (returns : doAllocate env allocator s desc count {} = .ok (status, result, s')) :
    (result.words = [] ∧ ∃ k < count.toNat, AttemptFails (env.attempts k).toAllocEnv) ∨
      ∃ held, Attempted env desc 0 held ∧ held.length = count.toNat ∧
        result.words = held.map fun buffer => buffer.native.native.ints := by
  unfold doAllocate at returns
  rw [if_neg (not_not_intro initialized)] at returns
  split at returns
  · cases returns
  obtain ⟨⟨status₁, handles, stride, s₁⟩, allocates, returns⟩ := bind_eq_ok.mp returns
  have nothing : HandlesHeld s [] s := .refl _
  rcases allocateHandles_held initialized count.toNat nothing ready fresh allocates with
    ⟨failed, k, inside, reason⟩ | ⟨succeeded, held, rfl, attempted, length, kept⟩
  · simp only [if_pos failed] at returns
    cases returns
    rw [List.length_nil, Nat.zero_add] at reason
    exact .inl ⟨rfl, k, inside, reason⟩
  · simp only [if_neg (not_not_intro succeeded)] at returns
    obtain ⟨⟨buffers, s₂⟩, exported, returns⟩ := bind_eq_ok.mp returns
    cases returns
    refine .inr ⟨held, attempted, length, ?_⟩
    have nonNull : ∀ buffer ∈ held, buffer.handle ≠ 0 := by
      intro buffer hbuffer
      obtain ⟨k, hk⟩ := List.mem_iff_getElem?.mp hbuffer
      obtain ⟨new, nonNull, -, rfl⟩ := attempted.get hk
      exact nonNull
    rw [← length] at exported
    simp only [resizeBuffers, List.take_nil, List.drop_nil, List.foldl_nil, List.length_nil,
      Nat.sub_zero] at exported
    exact exportHandles_words held [] rfl kept nonNull exported

section TwoRuns

variable {env env' : DoAllocateEnv} {desc : GrallocBufferDesc} {held held' : List Held}

theorem SameAnswers.attemptFails_iff (same : SameAnswers env env') (k : Nat) :
    AttemptFails (env'.attempts k).toAllocEnv ↔ AttemptFails (env.attempts k).toAllocEnv := by
  obtain ⟨memory, answers⟩ := same.attempts k
  rw [answers]
  rfl

/-- Of two requests with the same answers, the attempts give the same ints exactly where the
memory agrees. -/
theorem SameAnswers.ints_iff (same : SameAnswers env env') (h : Attempted env desc 0 held)
    (h' : Attempted env' desc 0 held') {k : Nat} (inside : k < held.length)
    (inside' : k < held'.length) :
    held[k].native.native.ints = held'[k].native.native.ints ↔
      SameUnwritten (env.attempts k).memory (env'.attempts k).memory := by
  obtain ⟨new, -, made, buffer⟩ := h.get (List.getElem?_eq_getElem inside)
  obtain ⟨new', -, made', buffer'⟩ := h'.get (List.getElem?_eq_getElem inside')
  obtain ⟨memory, answers⟩ := same.attempts k
  rw [Nat.zero_add] at made made' buffer buffer'
  rw [answers] at made' buffer'
  cases made.symm.trans made'
  rw [buffer, buffer', answers]
  exact allocatedHandle_ints_iff new desc

theorem SameAnswers.words_iff (same : SameAnswers env env') (h : Attempted env desc 0 held)
    (h' : Attempted env' desc 0 held') {count : Nat} (length : held.length = count)
    (length' : held'.length = count) :
    (held.map fun buffer => buffer.native.native.ints) =
        (held'.map fun buffer => buffer.native.native.ints) ↔
      ∀ k < count, SameUnwritten (env.attempts k).memory (env'.attempts k).memory := by
  constructor
  · intro words k inside
    refine (same.ints_iff h h' (length ▸ inside) (length' ▸ inside)).mp ?_
    have word := congrArg (fun words => words[k]?) words
    simpa [length, length', inside] using word
  · intro agree
    refine List.ext_getElem (by simp [length, length']) ?_
    intro k inside inside'
    rw [List.length_map] at inside inside'
    rw [List.getElem_map, List.getElem_map]
    exact (same.ints_iff h h' inside inside').mpr (agree k (length ▸ inside))

end TwoRuns

/-- Two requests of a service with the same answers deliver the same words exactly if they
deliver none, or if the memory of their handles agrees in the words that nobody writes. -/
theorem allocate2_words_iff {decode : List Byte → Except Int BufferDescriptorInfoV4}
    {first service : Service} {requests : List AllocatorEvent}
    (initial : (allocatorSystem decode).initial first)
    (run : Run (allocatorSystem decode) first requests service) {info : BufferDescriptorInfo}
    {count : Word} {env env' : DoAllocateEnv} (same : SameAnswers env env')
    (fresh : HandlesFresh env (gbmDesc info) 0 count.toNat service.process)
    (fresh' : HandlesFresh env' (gbmDesc info) 0 count.toNat service.process)
    {status status' : ScopedAStatus} {result result' : AllocationResult} {s s' : Process}
    (returns : allocate2 env service.allocator service.process info count {} =
      .ok (status, result, s))
    (returns' : allocate2 env' service.allocator service.process info count {} =
      .ok (status', result', s')) :
    result.words = result'.words ↔
      ¬ Convertible info ∨ (∃ k < count.toNat, AttemptFails (env.attempts k).toAllocEnv) ∨
        ∀ k < count.toNat, SameUnwritten (env.attempts k).memory (env'.attempts k).memory := by
  have settled : Settled first.process service :=
    run.invariant (Settled first.process) (Settled.initial initial) Settled.step
  by_cases accepted : Convertible info
  · rw [allocate2_convertible settled.initialized accepted] at returns returns'
    rw [or_iff_right (not_not_intro accepted)]
    rcases doAllocate_words settled.initialized settled.can.ready fresh returns with
      ⟨none, k, inside, failed⟩ | ⟨held, attempted, length, words⟩
    · rcases doAllocate_words settled.initialized settled.can.ready fresh' returns' with
        ⟨none', -⟩ | ⟨held', attempted', length', -⟩
      · exact iff_of_true (none.trans none'.symm) (.inl ⟨k, inside, failed⟩)
      · have succeeds := attempted'.succeeds (length' ▸ inside)
        rw [Nat.zero_add, same.attemptFails_iff] at succeeds
        exact absurd failed succeeds
    · have succeeds : ¬ ∃ k < count.toNat, AttemptFails (env.attempts k).toAllocEnv := by
        rintro ⟨k, inside, failed⟩
        refine attempted.succeeds (length ▸ inside) ?_
        rwa [Nat.zero_add]
      rcases doAllocate_words settled.initialized settled.can.ready fresh' returns' with
        ⟨-, k, inside, failed⟩ | ⟨held', attempted', length', words'⟩
      · exact absurd ⟨k, inside, (same.attemptFails_iff k).mp failed⟩ succeeds
      · rw [or_iff_right succeeds, words, words']
        exact same.words_iff attempted attempted' length length'
  · rw [allocate2_refused settled.initialized accepted] at returns returns'
    cases returns
    cases returns'
    exact iff_of_true rfl (.inl accepted)

/-- The answers of `singleEnv`, with what the memory of the handle held. -/
def memoryEnv (memory : GrallocHandle) : DoAllocateEnv :=
  { singleEnv with attempts := fun i => { singleEnv.attempts i with memory } }

theorem memoryEnv_fresh (memory : GrallocHandle) (desc : GrallocBufferDesc) :
    HandlesFresh (memoryEnv memory) desc 0 (1#32 : Word).toNat startedService.process :=
  ⟨⟨fun _ => rfl, nofun⟩, fun _ _ _ => trivial⟩

def plainInfo : BufferDescriptorInfo where
  width := 64#32
  height := 64#32
  layerCount := 1
  format := halPixelFormatRgba8888
  usage := grallocUsageHwTexture.setWidth 64
  reservedSize := 0

/-- A request for one buffer. -/
def plainResult (memory : GrallocHandle) :
    Except Fault (ScopedAStatus × AllocationResult × Process) :=
  allocate2 (memoryEnv memory) startedService.allocator startedService.process plainInfo 1 {}

def clearMemory : GrallocHandle := ⟨0, 0, 0, 0, 0, 0, 0, 0, 0, 0, 0⟩

/-- The words that differ are overwritten. -/
theorem allocate2_words_iff_overwritten :
    ∃ status result s status' result' s', plainResult clearMemory = .ok (status, result, s) ∧
      plainResult { clearMemory with width := 5, stride := 9 } = .ok (status', result', s') ∧
      result.words = result'.words := by
  refine ⟨_, _, _, _, _, _, rfl, rfl, ?_⟩
  have same : SameAnswers (memoryEnv clearMemory)
      (memoryEnv { clearMemory with width := 5, stride := 9 }) := ⟨fun _ => ⟨_, rfl⟩, rfl, rfl⟩
  exact (allocate2_words_iff (startedService_initial fun _ => .error 1) .refl same
    (memoryEnv_fresh _ (gbmDesc plainInfo)) (memoryEnv_fresh _ _)
    (show plainResult clearMemory = _ from rfl)
    (show plainResult { clearMemory with width := 5, stride := 9 } = _ from rfl)).mpr
      (.inr (.inr fun _ _ => ⟨rfl, rfl⟩))

/-- Clients of two allocations read different owners. -/
theorem allocate2_words_differ :
    ∃ status result s status' result' s', plainResult clearMemory = .ok (status, result, s) ∧
      plainResult { clearMemory with dataOwner := 7 } = .ok (status', result', s') ∧
      SameAnswers (memoryEnv clearMemory) (memoryEnv { clearMemory with dataOwner := 7 }) ∧
      result.words ≠ result'.words := by
  refine ⟨_, _, _, _, _, _, rfl, rfl, ⟨fun _ => ⟨_, rfl⟩, rfl, rfl⟩, ?_⟩
  decide +kernel

end GrallocGbmMesa.Allocator
