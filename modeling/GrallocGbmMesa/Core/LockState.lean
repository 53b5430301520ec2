import GrallocGbmMesa.Core.LockLocal

/-!
# The lock state of a buffer

What a buffer's locks amount to, apart from the words that record them: nobody
holds it, some locks without CPU access share it, or one lock with CPU access
has it mapped.  A BO represents such a state, and the two operations on a BO
act as the lock and unlock of the states.
-/

namespace GrallocGbmMesa.Core

open Bits Checked
open GrallocGbmMesa.Platform

/-- What a buffer's locks amount to. -/
inductive Hold where
  | idle
  /-- `more + 1` locks for `usage`, none of which reads or writes from the CPU -/
  | shared (more : Nat) (usage : Word) (noCpu : ¬ CpuUsage usage)
  /-- one lock for `usage`, which includes CPU access through `mapping` -/
  | mapped (usage : Word) (mapping : Mapping) (cpu : CpuUsage usage)
      (mapDataNonNull : mapping.mapData ≠ 0) (addrNonNull : mapping.addr ≠ 0)
      (flags : mapping.flags = mapFlags (decide (CpuWrite usage)))

namespace Hold

def count : Hold → Nat
  | idle => 0
  | shared more .. => more + 1
  | mapped .. => 1

def lockedFor : Hold → Word
  | idle => 0
  | shared _ usage .. => usage
  | mapped usage .. => usage

def mapping : Hold → Option Mapping
  | idle => none
  | shared .. => none
  | mapped _ mapping .. => some mapping

def mapData (hold : Hold) : Ptr := (hold.mapping.map Mapping.mapData).getD 0

/-- The words that record a state. -/
def data (hold : Hold) : BoData :=
  { mapData := hold.mapData, lockCount := hold.count, lockedFor := hold.lockedFor }

/-- A successful lock, and the address it gives out. -/
inductive Locks (bo : GbmBo) (usage : Word) : Hold → Option Ptr → Hold → Prop where
  | share (noCpu : ¬ CpuUsage usage) : Locks bo usage idle none (shared 0 usage noCpu)
  | join {more : Nat} {held : Word} {noCpu : ¬ CpuUsage held} (within : Within usage held) :
      Locks bo usage (shared more held noCpu) none (shared (more + 1) held noCpu)
  | map {addr mapData : Ptr} (cpu : CpuUsage usage) (mapDataNonNull : mapData ≠ 0)
      (addrNonNull : addr ≠ 0) :
      Locks bo usage idle (some addr)
        (mapped usage (newMapping bo addr mapData (decide (CpuWrite usage))) cpu mapDataNonNull
          addrNonNull rfl)

/-- Release one lock. -/
def unlock : Hold → Hold
  | idle => idle
  | shared 0 .. => idle
  | shared (more + 1) usage noCpu => shared more usage noCpu
  | mapped .. => idle

theorem Locks.unlock {bo : GbmBo} {usage : Word} {hold hold' : Hold} {addr : Option Ptr}
    (h : Locks bo usage hold addr hold') : hold'.unlock = hold := by
  cases h <;> rfl

/-- A lock of a held buffer keeps what it is locked for. -/
theorem Locks.lockedFor {bo : GbmBo} {usage : Word} {hold hold' : Hold} {addr : Option Ptr}
    (h : Locks bo usage hold addr hold') (held : hold.count ≠ 0) :
    hold'.lockedFor = hold.lockedFor := by
  cases h with
  | share noCpu => exact absurd rfl held
  | join within => rfl
  | map cpu mapDataNonNull addrNonNull => exact absurd rfl held

theorem Locks.count {bo : GbmBo} {usage : Word} {hold hold' : Hold} {addr : Option Ptr}
    (h : Locks bo usage hold addr hold') : hold'.count = hold.count + 1 := by
  cases h <;> rfl

theorem unlock_lockedFor {hold : Hold} (held : hold.unlock.count ≠ 0) :
    hold.unlock.lockedFor = hold.lockedFor := by
  cases hold with
  | idle => rfl
  | shared more usage noCpu =>
      cases more with
      | zero => exact absurd rfl held
      | succ more => rfl
  | mapped usage mapping cpu mapDataNonNull addrNonNull flags => exact absurd rfl held

theorem unlock_mapping {hold : Hold} (held : hold.unlock.count ≠ 0) :
    hold.unlock.mapping = hold.mapping := by
  cases hold with
  | idle => rfl
  | shared more usage noCpu => cases more <;> rfl
  | mapped usage mapping cpu mapDataNonNull addrNonNull flags => exact absurd rfl held

theorem unlock_count (hold : Hold) : hold.unlock.count = hold.count - 1 := by
  cases hold with
  | idle => rfl
  | shared more usage noCpu => cases more <;> rfl
  | mapped usage mapping cpu mapDataNonNull addrNonNull flags => rfl

end Hold

/-- The user data and the mappings of a BO are those of a state. -/
structure Represents (bo : GbmBo) (hold : Hold) : Prop where
  data : boData bo = hold.data
  mappings : bo.mappings = hold.mapping.toList
  whole : ∀ mapping ∈ hold.mapping, mapping.width = bo.width ∧ mapping.height = bo.height

theorem Represents.lockedFor {bo : GbmBo} {hold : Hold} (h : Represents bo hold) :
    (boData bo).lockedFor = hold.lockedFor := by rw [h.data]; rfl

theorem Represents.lockCount {bo : GbmBo} {hold : Hold} (h : Represents bo hold) :
    (boData bo).lockCount = hold.count := by rw [h.data]; rfl

theorem Represents.mapData {bo : GbmBo} {hold : Hold} (h : Represents bo hold) :
    (boData bo).mapData = hold.mapData := by rw [h.data]; rfl

/-! ## Calls that map and unmap -/

/-- The `map_data` of the mappings of a BO. -/
def live (bo : GbmBo) : List Ptr := bo.mappings.map Mapping.mapData

/-- The mapping of `p` a call made. -/
def mapOf (p : Ptr) : Call → Option Ptr
  | .gbmBoMap bo _ mapData => if bo = p ∧ mapData ≠ 0 then some mapData else none
  | _ => none

/-- The mapping of `p` a call was asked to release. -/
def unmapOf (p : Ptr) : Call → Option Ptr
  | .gbmBoUnmap bo mapData => if bo = p then some mapData else none
  | _ => none

/-- The mappings of `p` made in a log, oldest first. -/
def made (p : Ptr) (calls : List Call) : List Ptr := calls.reverse.filterMap (mapOf p)

/-- The mappings of `p` released in a log, oldest first. -/
def released (p : Ptr) (calls : List Call) : List Ptr := calls.reverse.filterMap (unmapOf p)

@[simp] theorem made_append (p : Ptr) (newer older : List Call) :
    made p (newer ++ older) = made p older ++ made p newer := by
  simp [made]

@[simp] theorem released_append (p : Ptr) (newer older : List Call) :
    released p (newer ++ older) = released p older ++ released p newer := by
  simp [released]

/-- The words of a BO follow its state through a lock. -/
theorem Hold.Locks.countLock {bo : GbmBo} {usage : Word} {hold hold' : Hold} {addr : Option Ptr}
    (h : hold.Locks bo usage addr hold') :
    countLock { hold.data with mapData := hold'.mapData } usage = hold'.data := by
  cases h with
  | share noCpu => simp [Core.countLock, Hold.data, Hold.count, Hold.lockedFor, BitVec.zero_or]
  | join within => simp [Core.countLock, Hold.data, Hold.count, Hold.lockedFor, within.or_eq']
  | map cpu mapDataNonNull addrNonNull =>
      simp [Core.countLock, Hold.data, Hold.count, Hold.lockedFor, BitVec.zero_or]

/-- A compatible lock without CPU access joins the locks there are. -/
theorem Represents.shares {bo : GbmBo} {hold : Hold} {usage : Word} (h : Represents bo hold)
    (compatible : Compatible (boData bo) usage)
    (noCpu : ¬ CpuUsage (usage ||| (boData bo).lockedFor)) :
    ∃ hold', Hold.Locks bo usage hold none hold' ∧ hold'.mapping = hold.mapping := by
  rw [h.data] at compatible noCpu
  rw [CpuUsage, meets_or, not_or] at noCpu
  cases hold with
  | idle => exact ⟨_, .share noCpu.1, rfl⟩
  | shared more held noCpu =>
      have within := compatible.resolve_left (show ((more + 1 : Nat) : Int) ≠ 0 by omega)
      exact ⟨_, .join within, rfl⟩
  | mapped held mapping cpu mapDataNonNull addrNonNull flags => exact absurd cpu noCpu.2

/-- A compatible lock with CPU access finds no mapping only on an idle buffer. -/
theorem Represents.idle_of_unmapped {bo : GbmBo} {hold : Hold} {usage : Word}
    (h : Represents bo hold) (compatible : Compatible (boData bo) usage)
    (cpu : CpuUsage (usage ||| (boData bo).lockedFor)) (unmapped : (boData bo).mapData = 0) :
    hold = .idle ∧ usage ||| (boData bo).lockedFor = usage := by
  rw [h.data] at compatible cpu unmapped ⊢
  cases hold with
  | idle => exact ⟨rfl, BitVec.or_zero⟩
  | shared more held noCpu =>
      have within := compatible.resolve_left (show ((more + 1 : Nat) : Int) ≠ 0 by omega)
      rw [within.or_eq'] at cpu
      exact absurd cpu noCpu
  | mapped held mapping cpu mapDataNonNull addrNonNull flags =>
      exact absurd unmapped mapDataNonNull

/-- A lock either fails and leaves the state, or takes the lock. -/
theorem Represents.lock {answer : GbmMapResult} {p : Ptr} {handleUsage usage : Word}
    {bo bo' : GbmBo} {ret : Int} {addr : Option Ptr} {calls : List Call} {hold : Hold}
    (valid : answer.Valid) (h : Represents bo hold)
    (returns : LockReturns answer p handleUsage usage bo ret addr bo' calls) :
    (ret ≠ 0 ∧ Represents bo' hold) ∨
      (ret = 0 ∧ ∃ hold', Hold.Locks bo usage hold addr hold' ∧ Represents bo' hold') := by
  cases returns with
  | refused hrefused => exact .inl ⟨by decide, h⟩
  | incompatible accepted clash => exact .inl ⟨by decide, h.data, h.mappings, h.whole⟩
  | shared accepted compatible noCpu room =>
      obtain ⟨hold', locks, sameMapping⟩ := h.shares compatible noCpu
      have sameMapData : hold'.mapData = hold.mapData := by simp [Hold.mapData, sameMapping]
      refine .inr ⟨rfl, hold', locks, ?_, sameMapping ▸ h.mappings, sameMapping ▸ h.whole⟩
      change countLock (boData bo) usage = hold'.data
      rw [← locks.countLock, h.data, sameMapData]
      rfl
  | occupied accepted compatible cpu mapped =>
      exact .inl ⟨by decide, h.data, h.mappings, h.whole⟩
  | mapFailed accepted compatible cpu unmapped failed =>
      exact .inl ⟨by decide, h.data, h.mappings, h.whole⟩
  | @mapped addr mapData accepted compatible cpu unmapped succeeded room =>
      subst succeeded
      obtain ⟨rfl, sameUsage⟩ := h.idle_of_unmapped compatible cpu unmapped
      rw [sameUsage] at cpu
      have locks := @Hold.Locks.map bo usage addr mapData cpu valid.2 valid.1
      rw [sameUsage]
      refine .inr ⟨rfl, _, locks, ?_, ?_, ?_⟩
      · change countLock { boData bo with mapData } usage = _
        rw [← locks.countLock, h.data]
        rfl
      · change bo.mappings ++ _ = _
        rw [h.mappings]
        rfl
      · rintro mapping ⟨⟩
        exact ⟨rfl, rfl⟩

/-- A lock releases nothing, and what it maps is live afterwards. -/
theorem LockReturns.calls {answer : GbmMapResult} {p : Ptr} {handleUsage usage : Word}
    {bo bo' : GbmBo} {ret : Int} {addr : Option Ptr} {calls : List Call} (valid : answer.Valid)
    (returns : LockReturns answer p handleUsage usage bo ret addr bo' calls) (q : Ptr) :
    released q calls = [] ∧ (q = p → live bo' = live bo ++ made q calls) ∧
      (q ≠ p → made q calls = []) := by
  cases returns with
  | refused | incompatible | shared | occupied => simp [released, made, live]
  | mapFailed => simp [released, made, live, mapOf, unmapOf]
  | mapped accepted compatible cpu unmapped succeeded room =>
      subst succeeded
      refine ⟨by simp [released, unmapOf], ?_, ?_⟩
      · rintro rfl
        simp [made, live, mapOf, valid.2, newMapping]
      · intro other
        simp [made, mapOf, Ne.symm other]

/-- An unlock maps nothing, and what it releases was live and is no longer. -/
theorem UnlockReturns.calls {p : Ptr} {bo bo' : GbmBo} {calls : List Call}
    (returns : UnlockReturns p bo bo' calls) (q : Ptr) :
    made q calls = [] ∧ (q ≠ p → released q calls = []) := by
  cases returns with
  | unlocked | shared => simp [made, released]
  | unmapped attached hcount cpu hlive =>
      exact ⟨by simp [made, mapOf], fun other => by simp [released, unmapOf, Ne.symm other]⟩

/-- The words of a BO follow its state through an unlock. -/
theorem Hold.uncountLock {hold : Hold} (held : hold.count ≠ 0) :
    uncountLock { hold.data with mapData := hold.unlock.mapData } = hold.unlock.data := by
  cases hold with
  | idle => exact absurd rfl held
  | shared more usage noCpu =>
      cases more with
      | zero => rfl
      | succ more =>
          have one : ((more + 1 + 1 : Nat) : Int) - 1 = (more + 1 : Nat) := by omega
          have still : ((more + 1 : Nat) : Int) ≠ 0 := by omega
          simp only [Core.uncountLock, Hold.data, Hold.count, Hold.unlock, Hold.lockedFor, one,
            if_neg still]
  | mapped usage mapping cpu mapDataNonNull addrNonNull flags => rfl

theorem Hold.eq_idle {hold : Hold} (free : hold.count = 0) : hold = .idle := by
  cases hold with
  | idle => rfl
  | shared more usage noCpu => exact absurd free (Nat.succ_ne_zero _)
  | mapped usage mapping cpu mapDataNonNull addrNonNull flags => exact absurd free Nat.one_ne_zero

/-- A buffer is mapped exactly while it is locked for CPU access. -/
theorem Hold.mapping_eq_none {hold : Hold} : hold.mapping = none ↔ ¬ CpuUsage hold.lockedFor := by
  cases hold with
  | idle => exact iff_of_true rfl (not_meets_zero _)
  | shared more usage noCpu => exact iff_of_true rfl noCpu
  | mapped usage mapping cpu mapDataNonNull addrNonNull flags =>
      exact iff_of_false (Option.some_ne_none _) (not_not_intro cpu)

/-- An unlock takes the state one lock back, and releases the mapping it had. -/
theorem Represents.unlock {p : Ptr} {bo bo' : GbmBo} {hold : Hold} {calls : List Call}
    (h : Represents bo hold) (returns : UnlockReturns p bo bo' calls) :
    Represents bo' hold.unlock ∧ live bo = released p calls ++ live bo' := by
  have hcount_iff : (boData bo).lockCount = 0 ↔ hold.count = 0 := by
    rw [h.lockCount]
    exact Int.natCast_eq_zero
  cases returns with
  | unlocked attached hcount =>
      obtain rfl := Hold.eq_idle (hcount_iff.mp hcount)
      exact ⟨h, rfl⟩
  | shared attached hcount noCpu =>
      have unmapped : hold.mapping = none := Hold.mapping_eq_none.mpr (h.lockedFor ▸ noCpu)
      have still : hold.unlock.mapping = none := by
        cases hold with
        | idle => rfl
        | shared more usage noCpu => cases more <;> rfl
        | mapped usage mapping cpu mapDataNonNull addrNonNull flags => cases unmapped
      have words := Hold.uncountLock (mt hcount_iff.mpr hcount)
      refine ⟨⟨?_, ?_, ?_⟩, rfl⟩
      · change uncountLock (boData bo) = hold.unlock.data
        rw [← words, h.data]
        simp [Hold.mapData, unmapped, still, Hold.data]
      · change bo.mappings = _
        rw [h.mappings, unmapped, still]
      · intro mapping hmem
        rw [still] at hmem
        cases hmem
  | unmapped attached hcount cpu hlive =>
      rw [h.lockedFor] at cpu
      cases hold with
      | idle => exact absurd cpu (not_meets_zero _)
      | shared more usage noCpu => exact absurd cpu noCpu
      | mapped usage mapping cpu mapDataNonNull addrNonNull flags =>
          have mappings : bo.mappings = [mapping] := h.mappings
          refine ⟨⟨?_, ?_, ?_⟩, ?_⟩
          · change uncountLock { boData bo with mapData := 0 } = _
            rw [h.data]
            rfl
          · change bo.mappings.filter _ = []
            simp [mappings, h.data, Hold.data, Hold.mapData, Hold.mapping]
          · rintro _ ⟨⟩
          · simp [live, released, unmapOf, mappings, h.data, Hold.data, Hold.mapData,
              Hold.mapping]

/-- An unlock of a BO with user data never faults. -/
theorem Represents.unlock_defined {bo : GbmBo} {hold : Hold} (h : Represents bo hold)
    (attached : bo.userData ≠ none) (p : Ptr) : ∃ bo' calls, UnlockReturns p bo bo' calls := by
  by_cases hcount : (boData bo).lockCount = 0
  · exact ⟨_, _, .unlocked attached hcount⟩
  by_cases cpu : CpuUsage (boData bo).lockedFor
  · have mapped : hold.mapping ≠ none :=
      mt Hold.mapping_eq_none.mp (not_not_intro (h.lockedFor ▸ cpu))
    obtain ⟨mapping, hmapping⟩ := Option.ne_none_iff_exists'.mp mapped
    refine ⟨_, _, .unmapped attached hcount cpu ⟨mapping, ?_, ?_⟩⟩
    · simp [h.mappings, hmapping]
    · simp [h.data, Hold.data, Hold.mapData, hmapping]
  · exact ⟨_, _, .shared attached hcount cpu⟩

end GrallocGbmMesa.Core
