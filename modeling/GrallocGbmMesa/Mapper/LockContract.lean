import GrallocGbmMesa.Mapper.Resources

/-!
# The contract of a mapper lock

A lock that succeeds should hand out a mapping of the whole buffer, for a usage
and a region that the interface allows.  The mapper checks neither; what saves a
call is that the core library refuses it, or that its arguments are right.
-/

namespace GrallocGbmMesa.Mapper

open Bits Checked TransitionSystem
open GrallocGbmMesa.Platform GrallocGbmMesa.Core

/-- `BufferUsage::CPU_READ_MASK | BufferUsage::CPU_WRITE_MASK` -/
def cpuUsageMask : BitVec 64 := (grallocUsageSwWriteMask ||| grallocUsageSwReadMask).setWidth 64

/-- The usage is nonzero and asks for nothing but CPU access. -/
def CpuOnly (cpuUsage : BitVec 64) : Prop := cpuUsage ≠ 0 ∧ Within cpuUsage cpuUsageMask

instance (cpuUsage : BitVec 64) : Decidable (CpuOnly cpuUsage) :=
  inferInstanceAs (Decidable (_ ∧ _))

/-- The region is all zero or lies within the buffer. -/
def ARect.Within (region : ARect) (width height : Word) : Prop :=
  region = ⟨0, 0, 0, 0⟩ ∨
    (0 ≤ region.left.toInt ∧ region.left.toInt ≤ region.right.toInt ∧
      region.right.toInt ≤ width.toNat ∧ 0 ≤ region.top.toInt ∧
      region.top.toInt ≤ region.bottom.toInt ∧ region.bottom.toInt ≤ height.toNat)

instance (region : ARect) (width height : Word) : Decidable (region.Within width height) :=
  inferInstanceAs (Decidable (_ ∨ _))

/-- An address is the start of a live mapping of the whole buffer. -/
def MapsWhole (s : Process) (handle addr : Ptr) (write : Prop) : Prop :=
  ∃ p bo mapping, Buffer s handle p bo ∧ mapping ∈ bo.mappings ∧ mapping.addr = addr ∧
    mapping.width = bo.width ∧ mapping.height = bo.height ∧
    (write → Meets mapping.flags gbmBoTransferWrite)

/-- The call returns without an overflow, and with success only for a usage and
a region that are allowed and with a mapping stored through `outData`. -/
def LockContract (answer : GbmMapResult) (m : MapperState) (handle : Ptr) (cpuUsage : BitVec 64)
    (region : ARect) (fence : Fd) (width height : Word) : Prop :=
  ∃ error addr m', lock answer m handle cpuUsage region fence = .ok (error, addr, m') ∧
    (error = .none → CpuOnly cpuUsage ∧ region.Within width height ∧
      ∃ given, addr = some given ∧ MapsWhole m'.process handle given
        (Meets cpuUsage (grallocUsageSwWriteMask.setWidth 64)))

/-- The core library refuses a lock for `usage`. -/
def CoreRefuses (answer : GbmMapResult) (handleUsage : Word) (data : BoData) (usage : Word) :
    Prop :=
  UsageRefused handleUsage usage ∨ ¬ Compatible data usage ∨
    (CpuUsage (usage ||| data.lockedFor) ∧ (data.mapData ≠ 0 ∨ answer = .null))

instance (answer : GbmMapResult) (handleUsage : Word) (data : BoData) (usage : Word) :
    Decidable (CoreRefuses answer handleUsage data usage) :=
  inferInstanceAs (Decidable (_ ∨ _))

/-- When a lock keeps its contract: it asks for nothing, or its region does not
overflow and either the core library refuses it or its arguments are right. -/
def KeepsContract (answer : GbmMapResult) (bo : GbmBo) (handleUsage width height : Word)
    (cpuUsage : BitVec 64) (region : ARect) : Prop :=
  cpuUsage = 0 ∨
    (¬ BitVec.ssubOverflow region.right region.left ∧
      ¬ BitVec.ssubOverflow region.bottom region.top ∧
      (CoreRefuses answer handleUsage (boData bo) (cpuUsage.setWidth 32) ∨
        (CpuOnly cpuUsage ∧ region.Within width height ∧ answer.Fits bo)))

instance (answer : GbmMapResult) (bo : GbmBo) (handleUsage width height : Word)
    (cpuUsage : BitVec 64) (region : ARect) :
    Decidable (KeepsContract answer bo handleUsage width height cpuUsage region) :=
  inferInstanceAs (Decidable (_ ∨ _))

/-- The buffer behind a handle, and the words of the handle a lock depends on. -/
structure LockTarget (s : Process) (handle p : Ptr) (bo : GbmBo)
    (handleUsage width height : Word) : Prop where
  buffer : Buffer s handle p bo
  words : ∃ native, s.handles handle = some native ∧ native.usage = .ok handleUsage ∧
    native.width = .ok width ∧ native.height = .ok height

theorem CpuOnly.cpuUsage {cpuUsage : BitVec 64} (h : CpuOnly cpuUsage) :
    CpuUsage (cpuUsage.setWidth 32) :=
  Meets.of_setWidth (h.2.meets_of_ne_zero h.1)

/-- A lock the core library refuses returns an error. -/
theorem CoreRefuses.lockBo {answer : GbmMapResult} {handleUsage usage : Word} {bo : GbmBo}
    (h : CoreRefuses answer handleUsage (boData bo) usage) (p : Ptr) :
    ∃ ret addr bo' calls, Core.lockBo answer p handleUsage usage bo = .ok (ret, addr, bo', calls) ∧
      ret ≠ 0 := by
  unfold Core.lockBo
  by_cases refused : UsageRefused handleUsage usage
  · exact ⟨_, _, _, _, if_pos refused, by decide⟩
  by_cases clash : (boData bo).lockCount ≠ 0 ∧ ¬ Within usage (boData bo).lockedFor
  · simp only [if_neg refused, if_pos clash]
    exact ⟨_, _, _, _, rfl, by decide⟩
  have compatible : Compatible (boData bo) usage := by
    rwa [not_and_or, not_not, not_not] at clash
  rcases h with refused' | clash' | ⟨cpu, blocked⟩
  · exact absurd refused' refused
  · exact absurd compatible clash'
  simp only [if_neg refused, if_neg clash, if_neg (not_not_intro cpu)]
  by_cases mapped : (boData bo).mapData ≠ 0
  · rw [if_pos mapped]
    exact ⟨_, _, _, _, rfl, by decide⟩
  · obtain rfl := blocked.resolve_left mapped
    rw [if_neg mapped]
    exact ⟨_, _, _, _, rfl, by decide⟩

/-- A lock that asks for CPU access and is not refused maps the whole buffer. -/
theorem lockBo_cpu {answer : GbmMapResult} {p : Ptr} {handleUsage usage : Word}
    {bo : GbmBo} {hold : Hold} (h : Represents bo hold) (fits : answer.Fits bo)
    (accepted : ¬ CoreRefuses answer handleUsage (boData bo) usage) (cpu : CpuUsage usage) :
    ∃ addr bo' calls mapping, lockBo answer p handleUsage usage bo =
        .ok (0, some addr, bo', calls) ∧
      mapping ∈ bo'.mappings ∧ mapping.addr = addr ∧ mapping.width = bo'.width ∧
      mapping.height = bo'.height ∧ (CpuWrite usage → Meets mapping.flags gbmBoTransferWrite) := by
  unfold CoreRefuses at accepted
  simp only [not_or, not_and, not_not] at accepted
  obtain ⟨admitted, compatible, free⟩ := accepted
  have wide : CpuUsage (usage ||| (boData bo).lockedFor) := meets_or.mpr (.inl cpu)
  obtain ⟨unmapped, answered⟩ := free wide
  obtain ⟨rfl, sameUsage⟩ := h.idle_of_unmapped compatible wide unmapped
  have room : (boData bo).lockCount ≠ intMax := by
    rw [h.lockCount]
    decide
  obtain ⟨ret, addr, bo', calls, returns⟩ := lockBo_defined p handleUsage usage fits room
  cases lockBo_returns returns with
  | refused hrefused => exact absurd hrefused admitted
  | incompatible accepted clash => exact absurd compatible clash
  | shared accepted compatible noCpu room => exact absurd wide noCpu
  | occupied accepted compatible cpu mapped => exact absurd unmapped mapped
  | mapFailed accepted compatible cpu unmapped failed => exact absurd failed answered
  | mapped accepted compatible cpu unmapped succeeded room =>
      refine ⟨_, _, _, _, returns, List.mem_append_right _ (List.mem_singleton_self _), rfl, rfl,
        rfl, ?_⟩
      intro write
      rw [sameUsage]
      exact (mapFlags_write _).mpr (decide_eq_true write)

/-- A lock that passes the mapper's checks is a lock of the BO. -/
theorem LockTarget.lockBody_eq (answer : GbmMapResult) {m : MapperState} {handle p : Ptr}
    {bo : GbmBo} {handleUsage width height : Word} {cpuUsage : BitVec 64} {region : ARect}
    (target : LockTarget m.process handle p bo handleUsage width height)
    (initialized : m.mInitialized = true) (nonNull : handle ≠ 0) (used : cpuUsage ≠ 0)
    (noWidthOverflow : ¬ BitVec.ssubOverflow region.right region.left)
    (noHeightOverflow : ¬ BitVec.ssubOverflow region.bottom region.top) :
    lockBody answer m handle cpuUsage region =
      (lockBo answer p handleUsage (cpuUsage.setWidth 32) bo).map fun (ret, addr, bo', calls) =>
        (if ret ≠ 0 then .badValue else .none, addr, putBo m.process p bo' calls) := by
  obtain ⟨native, hnative, husage, -⟩ := target.words
  rw [lockBody_checked initialized nonNull used,
    grallocGbmBoLock_eq target.buffer.1 hnative husage target.buffer.2]
  simp only [int32Sub, noWidthOverflow, noHeightOverflow]
  cases lockBo answer p handleUsage (cpuUsage.setWidth 32) bo with
  | error fault => rfl
  | ok returned =>
      obtain ⟨ret, addr, bo', calls⟩ := returned
      by_cases failed : ret ≠ 0
      · simp [Except.map, failed]
      · simp [Except.map, failed]

theorem closeUniqueFd_buffer {s : Process} {fd : Fd} {handle p : Ptr} {bo : GbmBo}
    (h : Buffer s handle p bo) : Buffer (closeUniqueFd s fd) handle p bo := by
  unfold closeUniqueFd
  split <;> exact h

section Contract

variable {answer : GbmMapResult} {m : MapperState} {handle p : Ptr} {bo : GbmBo}
  {handleUsage width height : Word} {cpuUsage : BitVec 64} {region : ARect} {hold : Hold}

theorem KeepsContract.contract
    (target : LockTarget m.process handle p bo handleUsage width height)
    (initialized : m.mInitialized = true) (nonNull : handle ≠ 0) (represents : Represents bo hold)
    (keeps : KeepsContract answer bo handleUsage width height cpuUsage region) (fence : Fd) :
    LockContract answer m handle cpuUsage region fence width height := by
  by_cases unused : cpuUsage = 0
  · refine ⟨.badValue, none, { m with process := closeUniqueFd m.process fence }, ?_, nofun⟩
    unfold lock lockBody
    rw [if_neg (not_not_intro initialized), if_neg nonNull, if_pos unused]
    rfl
  obtain ⟨noWidthOverflow, noHeightOverflow, keeps⟩ := keeps.resolve_left unused
  have body := target.lockBody_eq answer initialized nonNull unused noWidthOverflow
    noHeightOverflow
  by_cases refused : CoreRefuses answer handleUsage (boData bo) (cpuUsage.setWidth 32)
  · obtain ⟨ret, addr, bo', calls, returns, failed⟩ := refused.lockBo p
    rw [returns] at body
    refine ⟨.badValue, addr,
      { m with process := closeUniqueFd (putBo m.process p bo' calls) fence }, ?_, nofun⟩
    unfold lock
    rw [body]
    simp only [Except.map, if_pos failed]
    rfl
  · obtain ⟨allowed, inside, fits⟩ := keeps.resolve_left refused
    obtain ⟨addr, bo', calls, mapping, returns, hmem, start, wide, high, writable⟩ :=
      lockBo_cpu represents fits refused allowed.cpuUsage
    rw [returns] at body
    refine ⟨.none, some addr,
      { m with process := closeUniqueFd (putBo m.process p bo' calls) fence }, ?_,
      fun _ => ⟨allowed, inside, addr, rfl, ?_⟩⟩
    · unfold lock
      rw [body]
      rfl
    · exact ⟨p, bo', mapping, closeUniqueFd_buffer ⟨target.buffer.1, putBo_bos_self ..⟩, hmem,
        start, wide, high, fun write => writable (Meets.of_setWidth write)⟩

theorem LockContract.keeps
    (target : LockTarget m.process handle p bo handleUsage width height)
    (initialized : m.mInitialized = true) (nonNull : handle ≠ 0) {fence : Fd}
    (contract : LockContract answer m handle cpuUsage region fence width height) :
    KeepsContract answer bo handleUsage width height cpuUsage region := by
  obtain ⟨error, addr, m', returns, honest⟩ := contract
  obtain ⟨⟨error', addr', s⟩, hbody, returns⟩ := bind_eq_ok.mp returns
  cases returns
  by_cases unused : cpuUsage = 0
  · exact .inl unused
  have noOverflow : ¬ BitVec.ssubOverflow region.right region.left ∧
      ¬ BitVec.ssubOverflow region.bottom region.top := by
    rw [lockBody_checked initialized nonNull unused] at hbody
    obtain ⟨width, hwidth, hbody⟩ := bind_eq_ok.mp hbody
    obtain ⟨height, hheight, -⟩ := bind_eq_ok.mp hbody
    constructor
    · intro overflow
      rw [int32Sub, if_pos overflow] at hwidth
      cases hwidth
    · intro overflow
      rw [int32Sub, if_pos overflow] at hheight
      cases hheight
  refine .inr ⟨noOverflow.1, noOverflow.2, ?_⟩
  rw [target.lockBody_eq _ initialized nonNull unused noOverflow.1 noOverflow.2] at hbody
  cases hlock : lockBo answer p handleUsage (cpuUsage.setWidth 32) bo with
  | error fault =>
      rw [hlock] at hbody
      cases hbody
  | ok returned =>
      rw [hlock] at hbody
      obtain ⟨ret, addr', bo', calls⟩ := returned
      cases hbody
      cases lockBo_returns hlock with
      | refused hrefused => exact .inl (.inl hrefused)
      | incompatible accepted clash => exact .inl (.inr (.inl clash))
      | shared accepted compatible noCpu room =>
          obtain ⟨-, -, given, none, -⟩ := honest rfl
          cases none
      | occupied accepted compatible cpu mapped => exact .inl (.inr (.inr ⟨cpu, .inl mapped⟩))
      | mapFailed accepted compatible cpu unmapped failed =>
          exact .inl (.inr (.inr ⟨cpu, .inr failed⟩))
      | mapped accepted compatible cpu unmapped succeeded room =>
          obtain ⟨allowed, inside, -⟩ := honest rfl
          subst succeeded
          exact .inr ⟨allowed, inside, rfl⟩

end Contract

/-- In every reachable state, for every imported buffer: exactly which locks
keep their contract. -/
theorem lock_contract_iff {first last : Session} {labels : List MapperEvent}
    (initial : mapperSystem.initial first) (run : Run mapperSystem first labels last)
    {handle : Ptr} (held : handle ∈ last.outstanding) :
    ∃ p bo handleUsage width height,
      LockTarget last.mapper.process handle p bo handleUsage width height ∧
        ∀ answer cpuUsage region fence,
          LockContract answer last.mapper handle cpuUsage region fence width height ↔
            KeepsContract answer bo handleUsage width height cpuUsage region := by
  obtain ⟨imports, ledger, outstanding⟩ := mapperSystem_ledger initial run
  rw [outstanding] at held
  obtain ⟨entry, hmem, rfl⟩ := List.mem_map.mp held
  have valid := ledger.valid entry hmem
  obtain ⟨bo, hbo⟩ := Option.ne_none_iff_exists'.mp (ledger.live hmem)
  obtain ⟨hold, represents⟩ := ledger.locks _ _ hbo
  obtain ⟨width, hwidth⟩ := valid.wellFormed.covers.word (show 3 ≤ 10 by decide)
  obtain ⟨height, hheight⟩ := valid.wellFormed.covers.word (show 4 ≤ 10 by decide)
  obtain ⟨handleUsage, husage⟩ := valid.wellFormed.covers.word (show 6 ≤ 10 by decide)
  have target : LockTarget last.mapper.process entry.handle entry.bo bo handleUsage width
      height :=
    ⟨⟨ledger.registered hmem, hbo⟩, entry.native, ledger.native hmem, husage, hwidth, hheight⟩
  have initialized := ledger.initialized entry hmem
  refine ⟨entry.bo, bo, handleUsage, width, height, target, ?_⟩
  intro answer cpuUsage region fence
  constructor
  · exact fun contract => contract.keeps target initialized valid.nonNull
  · exact fun keeps => keeps.contract target initialized valid.nonNull represents fence

def clientBo : GbmBo where
  width := 64#32
  height := 64#32
  stride := 256#32
  modifier := 0
  file := 9
  userData := none
  mappings := []

theorem importedSession_target : LockTarget importedSession.mapper.process 16 32 clientBo
    (grallocUsageSwReadOften ||| grallocUsageSwWriteOften ||| grallocUsageHwTexture) 64#32
    64#32 where
  buffer := ⟨by decide +kernel, by decide +kernel⟩
  words := ⟨{ clientHandle with fds := [8#32] }, by decide +kernel, rfl, rfl, rfl⟩

theorem LockTarget.unique {s : Process} {handle p q : Ptr} {bo bo' : GbmBo}
    {usage usage' width width' height height' : Word}
    (first : LockTarget s handle p bo usage width height)
    (second : LockTarget s handle q bo' usage' width' height') :
    bo = bo' ∧ usage = usage' ∧ width = width' ∧ height = height' := by
  obtain ⟨buffer, native, hnative, husage, hwidth, hheight⟩ := first
  obtain ⟨buffer', native', hnative', husage', hwidth', hheight'⟩ := second
  obtain rfl := Option.some.inj (hnative.symm.trans hnative')
  exact ⟨(buffer.unique buffer').2, Except.ok.inj (husage.symm.trans husage'),
    Except.ok.inj (hwidth.symm.trans hwidth'), Except.ok.inj (hheight.symm.trans hheight')⟩

theorem lock_contract_iff_imported :
    LockContract (.mapped 4096 7 256#32) importedSession.mapper 16 3#64 ⟨0, 0, 64#32, 64#32⟩ (-1)
      64#32 64#32 := by
  have held : 16 ∈ importedSession.outstanding := by decide +kernel
  obtain ⟨p, bo, handleUsage, width, height, target, iff⟩ :=
    lock_contract_iff startedSession_initial (Run.single importedSession_step) held
  obtain ⟨rfl, rfl, rfl, rfl⟩ := importedSession_target.unique target
  exact (iff (.mapped 4096 7 256#32) 3#64 ⟨0, 0, 64#32, 64#32⟩ (-1)).mpr (by decide)

/-- A client that has just imported a buffer may lock a region twice its size. -/
theorem lock_contract_broken :
    Reachable mapperSystem importedSession ∧ 16 ∈ importedSession.outstanding ∧
      LockTarget importedSession.mapper.process 16 32 clientBo
        (grallocUsageSwReadOften ||| grallocUsageSwWriteOften ||| grallocUsageHwTexture) 64#32
        64#32 ∧
      ¬ LockContract (.mapped 4096 7 256#32) importedSession.mapper 16 3#64
        ⟨0, 0, 128#32, 128#32⟩ (-1) 64#32 64#32 := by
  refine ⟨⟨_, _, startedSession_initial, .single importedSession_step⟩, by decide +kernel,
    importedSession_target, ?_⟩
  intro contract
  exact absurd (contract.keeps importedSession_target (by decide +kernel) (by decide)) (by decide)

end GrallocGbmMesa.Mapper
