import GrallocGbmMesa.Core.LockLocal
import GrallocGbmMesa.Mapper.Mapper

/-!
# Metadata records

What the metadata calls do to the record a buffer has under its prime
descriptor, and how a lock and an unlock of the mapper are those of the core
library.
-/

namespace GrallocGbmMesa.Mapper

open Bits Checked
open GrallocGbmMesa.Platform GrallocGbmMesa.Core

namespace MapperState

/-- The record of a descriptor, created or not. -/
def record (m : MapperState) (fd : Fd) : GrallocMetadata :=
  (m.metadataMap fd).getD (initialMetadata fd)

/-- Store a record under a descriptor. -/
def setRecord (m : MapperState) (fd : Fd) (metadata : GrallocMetadata) : MapperState :=
  { m with metadataMap := Function.update m.metadataMap fd (some metadata) }

variable (m : MapperState) (fd : Fd) (metadata : GrallocMetadata)

@[simp] theorem setRecord_process : (m.setRecord fd metadata).process = m.process := rfl

@[simp] theorem record_setRecord_self : (m.setRecord fd metadata).record fd = metadata := by
  simp [record, setRecord]

theorem record_setRecord_of_ne {other : Fd} (h : other ≠ fd) :
    (m.setRecord fd metadata).record other = m.record other := by
  simp [record, setRecord, h]

/-- Creating a record shows in no record. -/
theorem record_setRecord_record (other : Fd) :
    (m.setRecord fd (m.record fd)).record other = m.record other := by
  by_cases same : other = fd
  · subst same
    exact record_setRecord_self ..
  · exact record_setRecord_of_ne _ _ _ same

end MapperState

theorem createMetadata_eq (m : MapperState) (fd : Fd) :
    createMetadata m fd = (m.record fd, m.setRecord fd (m.record fd)) := by
  unfold createMetadata MapperState.setRecord MapperState.record
  cases stored : m.metadataMap fd with
  | none => rfl
  | some metadata =>
      have same : Function.update m.metadataMap fd (some metadata) = m.metadataMap := by
        rw [← stored, Function.update_eq_self]
      simp only [Option.getD_some, same]

/-- A type id of the header on an initialised mapper. -/
theorem getStandardMetadata_dispatch {m : MapperState} {buffer : Ptr} {type : StandardMetadataType}
    (initialized : m.mInitialized = true) (nonNull : buffer ≠ 0) (valid : type ≠ .invalid)
    (outDataSize : Nat) :
    getStandardMetadata m buffer type.value outDataSize = (do
      let hnd ← m.process.handle buffer
      let primeFd ← hnd.primeFd
      let (metadata, m) := createMetadata m primeFd
      match ← provideValue m.process buffer hnd metadata type with
      | none => return (AIMapperError.unsupported.code, [], m)
      | some value =>
          let (size, bytes) := encode type value outDataSize
          return (size, bytes, m)) := by
  unfold getStandardMetadata
  rw [if_neg (not_not_intro initialized), if_neg nonNull, StandardMetadataType.ofValue_value]
  cases type with
  | invalid => exact absurd rfl valid
  | _ => rfl

/-- An initialised mapper and a handle whose descriptor it can read. -/
structure Readable (m : MapperState) (buffer : Ptr) (native : NativeHandle) (fd : Fd) : Prop where
  initialized : m.mInitialized = true
  nonNull : buffer ≠ 0
  placed : m.process.handles buffer = some native
  prime : native.primeFd = .ok fd

namespace Readable

variable {m : MapperState} {buffer : Ptr} {native : NativeHandle} {fd : Fd}

theorem setStandardMetadata_eq (h : Readable m buffer native fd) (type : BitVec 64)
    (metadata : List ByteStream.Byte) :
    setStandardMetadata m buffer type metadata =
      .ok ((applyMetadata (StandardMetadataType.ofValue type) metadata (m.record fd)).1,
        m.setRecord fd
          (applyMetadata (StandardMetadataType.ofValue type) metadata (m.record fd)).2) := by
  unfold setStandardMetadata
  rw [if_neg (not_not_intro h.initialized), if_neg h.nonNull,
    Process.handle_eq_ok.mpr h.placed, ok_bind, h.prime, ok_bind, createMetadata_eq]
  simp [MapperState.setRecord, pure, Except.pure]

/-- A type id that the dispatch header refuses. -/
theorem getStandardMetadata_unknown (h : Readable m buffer native fd) {type : BitVec 64}
    (unknown : StandardMetadataType.ofValue type = none ∨
      StandardMetadataType.ofValue type = some .invalid) (outDataSize : Nat) :
    getStandardMetadata m buffer type outDataSize =
      .ok (-AIMapperError.unsupported.code, [], m) := by
  unfold getStandardMetadata
  rw [if_neg (not_not_intro h.initialized), if_neg h.nonNull]
  rcases unknown with none | invalid
  · rw [none]
  · rw [invalid]

/-- A type id that reaches the provider of its type. -/
theorem getStandardMetadata_eq (h : Readable m buffer native fd) {type : StandardMetadataType}
    (valid : type ≠ .invalid) (outDataSize : Nat) :
    getStandardMetadata m buffer type.value outDataSize =
      (provideValue m.process buffer native (m.record fd) type).map fun value =>
        match value with
        | none => (AIMapperError.unsupported.code, [], m.setRecord fd (m.record fd))
        | some value =>
            ((encode type value outDataSize).1, (encode type value outDataSize).2,
              m.setRecord fd (m.record fd)) := by
  rw [getStandardMetadata_dispatch h.initialized h.nonNull valid,
    Process.handle_eq_ok.mpr h.placed, ok_bind, h.prime, ok_bind, createMetadata_eq]
  simp only [MapperState.setRecord_process]
  cases provideValue m.process buffer native (m.record fd) type with
  | error fault => rfl
  | ok value => cases value <;> rfl

/-- A read leaves the state as it was, or creates the record of its buffer. -/
theorem getStandardMetadata_state (h : Readable m buffer native fd) {type : BitVec 64}
    {outDataSize : Nat} {size : Int} {bytes : List ByteStream.Byte} {m' : MapperState}
    (returns : getStandardMetadata m buffer type outDataSize = .ok (size, bytes, m')) :
    m' = m ∨ m' = m.setRecord fd (m.record fd) := by
  by_cases unknown : StandardMetadataType.ofValue type = none ∨
      StandardMetadataType.ofValue type = some .invalid
  · rw [h.getStandardMetadata_unknown unknown] at returns
    cases returns
    exact .inl rfl
  rw [not_or] at unknown
  obtain ⟨known, hknown⟩ := Option.ne_none_iff_exists'.mp unknown.1
  rw [StandardMetadataType.ofValue_eq_some.mp hknown] at returns
  rw [h.getStandardMetadata_eq (by rintro rfl; exact unknown.2 hknown)] at returns
  right
  cases hvalue : provideValue m.process buffer native (m.record fd) known with
  | error fault =>
      rw [hvalue] at returns
      cases returns
  | ok value =>
      rw [hvalue] at returns
      cases value with
      | none =>
          cases returns
          rfl
      | some value =>
          cases returns
          rfl

end Readable

/-! ## Locks -/

/-- A lock through the mapper that passes its own checks. -/
theorem lockBody_checked {answer : GbmMapResult} {m : MapperState} {buffer : Ptr}
    {cpuUsage : BitVec 64} {region : ARect} (initialized : m.mInitialized = true)
    (nonNull : buffer ≠ 0) (used : cpuUsage ≠ 0) :
    lockBody answer m buffer cpuUsage region = (do
      let _ ← int32Sub region.right region.left
      let _ ← int32Sub region.bottom region.top
      let (ret, addr, s) ← grallocGbmBoLock answer m.process buffer (cpuUsage.setWidth 32)
      if ret ≠ 0 then return (.badValue, addr, s) else return (.none, addr, s)) := by
  unfold lockBody
  rw [if_neg (not_not_intro initialized), if_neg nonNull, if_neg used]

/-- A lock through the mapper returns unless it overflows or the core's lock faults. -/
theorem lockBody_defined {answer : GbmMapResult} {m : MapperState} {buffer p : Ptr}
    {native : NativeHandle} {handleUsage : Word} {bo : GbmBo} {cpuUsage : BitVec 64}
    {region : ARect} (registered : m.process.gbmBoHandleMap buffer = some p)
    (hnative : m.process.handles buffer = some native) (husage : native.usage = .ok handleUsage)
    (hbo : m.process.bos p = some bo) (fits : answer.Fits bo)
    (room : (boData bo).lockCount ≠ intMax)
    (width : ¬ BitVec.ssubOverflow region.right region.left)
    (height : ¬ BitVec.ssubOverflow region.bottom region.top) :
    Defined (lockBody answer m buffer cpuUsage region) := by
  by_cases uninitialized : ¬ m.mInitialized
  · exact ⟨_, if_pos uninitialized⟩
  by_cases null : buffer = 0
  · unfold lockBody
    rw [if_neg uninitialized, if_pos null]
    exact ⟨_, rfl⟩
  by_cases unused : cpuUsage = 0
  · unfold lockBody
    rw [if_neg uninitialized, if_neg null, if_pos unused]
    exact ⟨_, rfl⟩
  obtain ⟨ret, addr, bo', calls, hlock⟩ :=
    lockBo_defined p handleUsage (cpuUsage.setWidth 32) fits room
  rw [lockBody_checked (not_not.mp uninitialized) null unused,
    grallocGbmBoLock_eq registered hnative husage hbo, hlock]
  simp only [int32Sub, width, height, Except.map, ok_bind]
  by_cases failed : ret ≠ 0
  · rw [if_pos failed]
    exact ⟨_, rfl⟩
  · rw [if_neg failed]
    exact ⟨_, rfl⟩

/-- A lock through the mapper refuses, or is a lock of the BO. -/
theorem lockBody_returns {answer : GbmMapResult} {m : MapperState} {buffer p : Ptr}
    {cpuUsage : BitVec 64} {region : ARect} {error : AIMapperError} {addr : Option Ptr}
    {s : Process} (registered : m.process.gbmBoHandleMap buffer = some p)
    (live : m.process.bos p ≠ none)
    (h : lockBody answer m buffer cpuUsage region = .ok (error, addr, s)) :
    (error ≠ .none ∧ s = m.process) ∨
      ∃ bo native handleUsage ret bo' calls, m.process.bos p = some bo ∧
        m.process.handles buffer = some native ∧ native.usage = .ok handleUsage ∧
        LockReturns answer p handleUsage (cpuUsage.setWidth 32) bo ret addr bo' calls ∧
        s = putBo m.process p bo' calls ∧ (error = .none ↔ ret = 0) := by
  by_cases uninitialized : ¬ m.mInitialized
  · unfold lockBody at h
    rw [if_pos uninitialized] at h
    cases h
    exact .inl ⟨by decide, rfl⟩
  by_cases null : buffer = 0
  · unfold lockBody at h
    rw [if_neg uninitialized, if_pos null] at h
    cases h
    exact .inl ⟨by decide, rfl⟩
  by_cases unused : cpuUsage = 0
  · unfold lockBody at h
    rw [if_neg uninitialized, if_neg null, if_pos unused] at h
    cases h
    exact .inl ⟨by decide, rfl⟩
  rw [lockBody_checked (not_not.mp uninitialized) null unused] at h
  obtain ⟨width, -, h⟩ := bind_eq_ok.mp h
  obtain ⟨height, -, h⟩ := bind_eq_ok.mp h
  obtain ⟨⟨ret, addr', s'⟩, hlock, h⟩ := bind_eq_ok.mp h
  have hlive : ∀ q, m.process.gbmBoHandleMap buffer = some q → m.process.bos q ≠ none := by
    intro q hq
    cases registered.symm.trans hq
    exact live
  rcases grallocGbmBoLock_returns hlive hlock with
    ⟨-, unregistered, -⟩ | ⟨q, bo, native, handleUsage, bo', calls, hq, hbo, hnative, husage,
      returns, rfl⟩
  · cases registered.symm.trans unregistered
  cases registered.symm.trans hq
  right
  by_cases failed : ret ≠ 0
  · simp only [if_pos failed] at h
    cases h
    exact ⟨bo, native, handleUsage, ret, bo', calls, hbo, hnative, husage, returns, rfl,
      iff_of_false (by decide) failed⟩
  · simp only [if_neg failed] at h
    cases h
    exact ⟨bo, native, handleUsage, ret, bo', calls, hbo, hnative, husage, returns, rfl,
      iff_of_true rfl (not_not.mp failed)⟩

/-- An unlock through the mapper refuses, or is an unlock of the BO. -/
theorem unlock_returns {m m' : MapperState} {buffer p : Ptr} {error : AIMapperError}
    {fence : Option Fd} (registered : m.process.gbmBoHandleMap buffer = some p)
    (live : m.process.bos p ≠ none) (h : unlock m buffer = .ok (error, fence, m')) :
    (error ≠ .none ∧ m' = m) ∨
      ∃ bo bo' calls, m.process.bos p = some bo ∧ UnlockReturns p bo bo' calls ∧
        error = .none ∧ m' = { m with process := putBo m.process p bo' calls } := by
  unfold unlock at h
  by_cases uninitialized : ¬ m.mInitialized
  · rw [if_pos uninitialized] at h
    cases h
    exact .inl ⟨by decide, rfl⟩
  by_cases null : buffer = 0
  · rw [if_neg uninitialized, if_pos null] at h
    cases h
    exact .inl ⟨by decide, rfl⟩
  rw [if_neg uninitialized, if_neg null] at h
  obtain ⟨⟨ret, s'⟩, hunlock, h⟩ := bind_eq_ok.mp h
  have hlive : ∀ q, m.process.gbmBoHandleMap buffer = some q → m.process.bos q ≠ none := by
    intro q hq
    cases registered.symm.trans hq
    exact live
  rcases grallocGbmBoUnlock_returns hlive hunlock with
    ⟨-, unregistered, -⟩ | ⟨q, bo, bo', calls, hq, hbo, returns, rfl, rfl⟩
  · cases registered.symm.trans unregistered
  cases registered.symm.trans hq
  cases h
  exact .inr ⟨bo, bo', calls, hbo, returns, rfl, rfl⟩

end GrallocGbmMesa.Mapper
