import GrallocGbmMesa.Core.Lock

/-!
# Locks act on one BO

A lock or an unlock of a registered handle reads the usage word of the handle
and changes the BO behind it, and nothing else.  This module states the two
operations on a single BO and shows that the library's functions are these
operations in place.
-/

namespace GrallocGbmMesa.Core

open Bits Checked
open GrallocGbmMesa.Platform

/-- The BO once user data has been attached to it. -/
def attach (bo : GbmBo) : GbmBo := { bo with userData := some (boData bo) }

@[simp] theorem attach_mappings (bo : GbmBo) : (attach bo).mappings = bo.mappings := rfl

def mapFlags (write : Bool) : Word :=
  if write then gbmBoTransferRead ||| gbmBoTransferWrite else gbmBoTransferRead

/-- The mapping a successful `gbm_bo_map` of the whole BO adds. -/
def newMapping (bo : GbmBo) (addr mapData : Ptr) (write : Bool) : Mapping :=
  { mapData, addr, flags := mapFlags write, width := bo.width, height := bo.height }

/-- One more lock for `usage`, which the outstanding locks allow. -/
def countLock (data : BoData) (usage : Word) : BoData :=
  { data with
    lockCount := data.lockCount + 1
    lockedFor := data.lockedFor ||| (usage ||| data.lockedFor) }

/-- `gralloc_gbm_bo_lock` on the BO `p` refers to. -/
def lockBo (answer : GbmMapResult) (p : Ptr) (handleUsage usage : Word) (bo : GbmBo) :
    Except Fault (Int × Option Ptr × GbmBo × List Call) :=
  let data := boData bo
  let write := decide (CpuWrite (usage ||| data.lockedFor))
  let call := Call.gbmBoMap p (mapFlags write)
  if UsageRefused handleUsage usage then .ok (-einval, none, bo, [])
  else if data.lockCount ≠ 0 ∧ ¬ Within usage data.lockedFor then
    .ok (-einval, none, attach bo, [])
  else if ¬ CpuUsage (usage ||| data.lockedFor) then
    if data.lockCount = intMax then .error .signedOverflow
    else .ok (0, none, { bo with userData := some (countLock data usage) }, [])
  else if data.mapData ≠ 0 then .ok (-einval, none, attach bo, [])
  else
    match answer with
    | .null => .ok (-enomem, some 0, attach bo, [call 0])
    | .mapped addr mapData stride =>
        if stride ≠ bo.stride then .error .assertionFailed
        else if data.lockCount = intMax then .error .signedOverflow
        else
          .ok (0, some addr,
            { bo with
              userData := some (countLock { data with mapData } usage)
              mappings := bo.mappings ++ [newMapping bo addr mapData write] }, [call mapData])

/-- The outstanding locks admit one for `usage`. -/
def Compatible (data : BoData) (usage : Word) : Prop :=
  data.lockCount = 0 ∨ Within usage data.lockedFor

instance (data : BoData) (usage : Word) : Decidable (Compatible data usage) :=
  inferInstanceAs (Decidable (_ ∨ _))

/-- Every way a lock returns: what it answers, what it leaves and what it calls. -/
inductive LockReturns (answer : GbmMapResult) (p : Ptr) (handleUsage usage : Word) (bo : GbmBo) :
    Int → Option Ptr → GbmBo → List Call → Prop where
  | refused (hrefused : UsageRefused handleUsage usage) :
      LockReturns answer p handleUsage usage bo (-einval) none bo []
  | incompatible (accepted : ¬ UsageRefused handleUsage usage)
      (clash : ¬ Compatible (boData bo) usage) :
      LockReturns answer p handleUsage usage bo (-einval) none (attach bo) []
  | shared (accepted : ¬ UsageRefused handleUsage usage) (compatible : Compatible (boData bo) usage)
      (noCpu : ¬ CpuUsage (usage ||| (boData bo).lockedFor))
      (room : (boData bo).lockCount ≠ intMax) :
      LockReturns answer p handleUsage usage bo 0 none
        { bo with userData := some (countLock (boData bo) usage) } []
  | occupied (accepted : ¬ UsageRefused handleUsage usage)
      (compatible : Compatible (boData bo) usage)
      (cpu : CpuUsage (usage ||| (boData bo).lockedFor))
      (mapped : (boData bo).mapData ≠ 0) :
      LockReturns answer p handleUsage usage bo (-einval) none (attach bo) []
  | mapFailed (accepted : ¬ UsageRefused handleUsage usage)
      (compatible : Compatible (boData bo) usage)
      (cpu : CpuUsage (usage ||| (boData bo).lockedFor))
      (unmapped : (boData bo).mapData = 0) (failed : answer = .null) :
      LockReturns answer p handleUsage usage bo (-enomem) (some 0) (attach bo)
        [.gbmBoMap p
          (mapFlags (decide (CpuWrite (usage ||| (boData bo).lockedFor)))) 0]
  | mapped {addr mapData : Ptr} (accepted : ¬ UsageRefused handleUsage usage)
      (compatible : Compatible (boData bo) usage)
      (cpu : CpuUsage (usage ||| (boData bo).lockedFor))
      (unmapped : (boData bo).mapData = 0) (succeeded : answer = .mapped addr mapData bo.stride)
      (room : (boData bo).lockCount ≠ intMax) :
      LockReturns answer p handleUsage usage bo 0 (some addr)
        { bo with
          userData := some (countLock { boData bo with mapData } usage)
          mappings := bo.mappings ++ [newMapping bo addr mapData
            (decide (CpuWrite (usage ||| (boData bo).lockedFor)))] }
        [.gbmBoMap p
          (mapFlags (decide (CpuWrite (usage ||| (boData bo).lockedFor))))
          mapData]

theorem LockReturns.accepted {answer : GbmMapResult} {p : Ptr} {handleUsage usage : Word}
    {bo bo' : GbmBo} {ret : Int} {addr : Option Ptr} {calls : List Call}
    (h : LockReturns answer p handleUsage usage bo ret addr bo' calls) (succeeded : ret = 0) :
    ¬ UsageRefused handleUsage usage := by
  cases h with
  | refused hrefused => exact absurd succeeded (by decide)
  | incompatible accepted | shared accepted | occupied accepted | mapFailed accepted
  | mapped accepted => exact accepted

theorem lockBo_returns {answer : GbmMapResult} {p : Ptr} {handleUsage usage : Word} {bo bo' : GbmBo}
    {ret : Int} {addr : Option Ptr} {calls : List Call}
    (h : lockBo answer p handleUsage usage bo = .ok (ret, addr, bo', calls)) :
    LockReturns answer p handleUsage usage bo ret addr bo' calls := by
  unfold lockBo at h
  by_cases refused : UsageRefused handleUsage usage
  · simp only [if_pos refused] at h
    cases h
    exact .refused refused
  simp only [if_neg refused] at h
  by_cases clash : (boData bo).lockCount ≠ 0 ∧ ¬ Within usage (boData bo).lockedFor
  · simp only [if_pos clash] at h
    cases h
    exact .incompatible refused fun compatible => compatible.elim clash.1 clash.2
  simp only [if_neg clash] at h
  have compatible : Compatible (boData bo) usage := by
    rwa [not_and_or, not_not, not_not] at clash
  by_cases cpu : CpuUsage (usage ||| (boData bo).lockedFor)
  · rw [if_neg (not_not_intro cpu)] at h
    by_cases mapped : (boData bo).mapData ≠ 0
    · rw [if_pos mapped] at h
      cases h
      exact .occupied refused compatible cpu mapped
    rw [if_neg mapped] at h
    rw [not_not] at mapped
    cases answer with
    | null =>
        cases h
        exact .mapFailed refused compatible cpu mapped rfl
    | mapped addr mapData stride =>
        simp only at h
        by_cases hstride : stride = bo.stride
        · subst hstride
          rw [if_neg (not_not_intro rfl)] at h
          by_cases full : (boData bo).lockCount = intMax
          · rw [if_pos full] at h
            cases h
          · rw [if_neg full] at h
            cases h
            exact .mapped refused compatible cpu mapped rfl full
        · rw [if_pos hstride] at h
          cases h
  · rw [if_pos cpu] at h
    by_cases full : (boData bo).lockCount = intMax
    · rw [if_pos full] at h
      cases h
    · rw [if_neg full] at h
      cases h
      exact .shared refused compatible cpu full

/-- The answer of `gbm_bo_map` meets the assertion on its stride. -/
def GbmMapResult.Fits (bo : GbmBo) : GbmMapResult → Prop
  | .null => True
  | .mapped _ _ stride => stride = bo.stride

instance (bo : GbmBo) : (answer : GbmMapResult) → Decidable (answer.Fits bo)
  | .null => isTrue trivial
  | .mapped _ _ stride => instDecidableEqBitVec stride bo.stride

/-- A lock returns unless the assertion fails or the counter is full. -/
theorem lockBo_defined {answer : GbmMapResult} {bo : GbmBo} (p : Ptr) (handleUsage usage : Word)
    (fits : answer.Fits bo) (room : (boData bo).lockCount ≠ intMax) :
    ∃ ret addr bo' calls, lockBo answer p handleUsage usage bo = .ok (ret, addr, bo', calls) := by
  unfold lockBo
  by_cases refused : UsageRefused handleUsage usage
  · exact ⟨_, _, _, _, if_pos refused⟩
  simp only [if_neg refused]
  by_cases clash : (boData bo).lockCount ≠ 0 ∧ ¬ Within usage (boData bo).lockedFor
  · exact ⟨_, _, _, _, if_pos clash⟩
  simp only [if_neg clash]
  by_cases cpu : CpuUsage (usage ||| (boData bo).lockedFor)
  · simp only [if_neg (not_not_intro cpu)]
    by_cases mapped : (boData bo).mapData ≠ 0
    · exact ⟨_, _, _, _, if_pos mapped⟩
    simp only [if_neg mapped]
    cases answer with
    | null => exact ⟨_, _, _, _, rfl⟩
    | mapped addr mapData stride =>
        simp only [if_neg (not_not_intro (show stride = bo.stride from fits)), if_neg room]
        exact ⟨_, _, _, _, rfl⟩
  · simp only [if_pos cpu, if_neg room]
    exact ⟨_, _, _, _, rfl⟩

/-- One lock less. -/
def uncountLock (data : BoData) : BoData :=
  { data with
    lockCount := data.lockCount - 1
    lockedFor := if data.lockCount - 1 = 0 then 0 else data.lockedFor }

/-- `gralloc_gbm_bo_unlock` on the BO `p` refers to. -/
def unlockBo (p : Ptr) (bo : GbmBo) : Except Fault (GbmBo × List Call) :=
  match bo.userData with
  | none => .error .invalidPointer
  | some data =>
      if data.lockCount = 0 then .ok (bo, [])
      else if ¬ CpuUsage data.lockedFor then
        .ok ({ bo with userData := some (uncountLock data) }, [])
      else if bo.mappings.any (fun mapping => mapping.mapData == data.mapData) then
        .ok
          ({ bo with
             userData := some (uncountLock { data with mapData := 0 })
             mappings := bo.mappings.filter fun mapping => mapping.mapData != data.mapData },
           [.gbmBoUnmap p data.mapData])
      else .error .invalidUnmap

/-- Every way an unlock returns. -/
inductive UnlockReturns (p : Ptr) (bo : GbmBo) : GbmBo → List Call → Prop where
  | unlocked (attached : bo.userData ≠ none) (hcount : (boData bo).lockCount = 0) :
      UnlockReturns p bo bo []
  | shared (attached : bo.userData ≠ none) (hcount : (boData bo).lockCount ≠ 0)
      (noCpu : ¬ CpuUsage (boData bo).lockedFor) :
      UnlockReturns p bo { bo with userData := some (uncountLock (boData bo)) } []
  | unmapped (attached : bo.userData ≠ none) (hcount : (boData bo).lockCount ≠ 0)
      (cpu : CpuUsage (boData bo).lockedFor)
      (hlive : ∃ mapping ∈ bo.mappings, mapping.mapData = (boData bo).mapData) :
      UnlockReturns p bo
        { bo with
          userData := some (uncountLock { boData bo with mapData := 0 })
          mappings := bo.mappings.filter fun mapping => mapping.mapData != (boData bo).mapData }
        [.gbmBoUnmap p (boData bo).mapData]

theorem unlockBo_eq_ok {p : Ptr} {bo bo' : GbmBo} {calls : List Call} :
    unlockBo p bo = .ok (bo', calls) ↔ UnlockReturns p bo bo' calls := by
  cases hdata : bo.userData with
  | none =>
      constructor
      · intro h
        simp [unlockBo, hdata] at h
      · intro h
        cases h <;> contradiction
  | some data =>
      have same : boData bo = data := by simp [boData, hdata]
      have attached : bo.userData ≠ none := by simp [hdata]
      constructor
      · intro h
        simp only [unlockBo, hdata, ← same] at h
        by_cases hcount : (boData bo).lockCount = 0
        · rw [if_pos hcount] at h
          cases h
          exact .unlocked attached hcount
        rw [if_neg hcount] at h
        by_cases cpu : CpuUsage (boData bo).lockedFor
        · rw [if_neg (not_not_intro cpu)] at h
          split at h
          · rename_i hlive
            cases h
            exact .unmapped attached hcount cpu (by simpa using hlive)
          · cases h
        · rw [if_pos cpu] at h
          cases h
          exact .shared attached hcount cpu
      · intro h
        simp only [unlockBo, hdata, ← same]
        cases h with
        | unlocked attached hcount => rw [if_pos hcount]
        | shared attached hcount noCpu => rw [if_neg hcount, if_pos noCpu]
        | unmapped attached hcount cpu hlive =>
            rw [if_neg hcount, if_neg (not_not_intro cpu), if_pos (by simpa using hlive)]

/-- What locks leave alone of a BO. -/
def SameImage (bo bo' : GbmBo) : Prop :=
  bo'.width = bo.width ∧ bo'.height = bo.height ∧ bo'.stride = bo.stride

theorem LockReturns.sameImage {answer : GbmMapResult} {p : Ptr} {handleUsage usage : Word}
    {bo bo' : GbmBo} {ret : Int} {addr : Option Ptr} {calls : List Call}
    (h : LockReturns answer p handleUsage usage bo ret addr bo' calls) : SameImage bo bo' := by
  cases h <;> exact ⟨rfl, rfl, rfl⟩

theorem UnlockReturns.sameImage {p : Ptr} {bo bo' : GbmBo} {calls : List Call}
    (h : UnlockReturns p bo bo' calls) : SameImage bo bo' := by
  cases h <;> exact ⟨rfl, rfl, rfl⟩

/-- A handle that admits a usage admits every part of it. -/
theorem not_usageRefused_of_within {handleUsage part usage : Word} (h : Within part usage)
    (accepted : ¬ UsageRefused handleUsage usage) : ¬ UsageRefused handleUsage part := by
  rintro ⟨missing, plain⟩
  exact accepted ⟨fun within => missing (h.trans within), plain⟩

/-- Put a changed BO and the calls made for it back into the process. -/
def putBo (s : Process) (p : Ptr) (bo : GbmBo) (calls : List Call) : Process :=
  { s with bos := Function.update s.bos p (some bo), calls := calls ++ s.calls }

theorem putBo_self {s : Process} {p : Ptr} {bo : GbmBo} (h : s.bos p = some bo) :
    putBo s p bo [] = s := by
  unfold putBo
  rw [← h, Function.update_eq_self]
  rfl

@[simp] theorem putBo_bos_self (s : Process) (p : Ptr) (bo : GbmBo) (calls : List Call) :
    (putBo s p bo calls).bos p = some bo := Function.update_self ..

theorem putBo_calls (s : Process) (p : Ptr) (bo : GbmBo) (calls : List Call) :
    (putBo s p bo calls).calls = calls ++ s.calls := rfl

@[simp] theorem putBo_bos_of_ne {p q : Ptr} (h : q ≠ p) (s : Process) (bo : GbmBo)
    (calls : List Call) : (putBo s p bo calls).bos q = s.bos q := Function.update_of_ne h ..

@[simp] theorem putBo_putBo (s : Process) (p : Ptr) (bo bo' : GbmBo) (calls calls' : List Call) :
    putBo (putBo s p bo calls) p bo' calls' = putBo s p bo' (calls' ++ calls) := by
  simp [putBo, List.append_assoc]

/-- Changing the user data of a BO that has some. -/
theorem modifyBoData_eq {s : Process} {p : Ptr} {bo : GbmBo} {data : BoData}
    (live : s.bos p = some bo) (hdata : bo.userData = some data)
    (f : BoData → Except Fault BoData) :
    modifyBoData s p f =
      (f data).map fun data => putBo s p { bo with userData := some data } [] := by
  unfold modifyBoData
  rw [Process.bo_eq_ok.mpr live, ok_bind, hdata]
  cases hf : f data with
  | error fault => simp [hf, Except.map]
  | ok data => simp [hf, Except.map, putBo, Process.setBo]

/-- `gralloc_gbm_map` on a BO whose user data is attached. -/
theorem grallocGbmMap_eq {s : Process} {handle p : Ptr} {bo : GbmBo}
    (registered : s.gbmBoHandleMap handle = some p) (live : s.bos p = some (attach bo))
    (answer : GbmMapResult) (write : Bool) :
    grallocGbmMap answer s handle write =
      if (boData bo).mapData ≠ 0 then .ok (-einval, none, s)
      else
        match answer with
        | .null => .ok (-enomem, some 0, putBo s p (attach bo) [.gbmBoMap p (mapFlags write) 0])
        | .mapped addr mapData stride =>
            if stride = bo.stride then
              .ok (0, some addr,
                putBo s p
                  { bo with
                    userData := some { boData bo with mapData }
                    mappings := bo.mappings ++ [newMapping bo addr mapData write] }
                  [.gbmBoMap p (mapFlags write) mapData])
            else .error .assertionFailed := by
  unfold grallocGbmMap
  simp only [grallocGetGbmBoFromHandle, registered, Process.bo_eq_ok.mpr live, ok_bind, attach]
  by_cases mapped : (boData bo).mapData ≠ 0
  · rw [if_pos mapped, if_pos mapped]
  rw [if_neg mapped, if_neg mapped]
  cases answer with
  | null =>
      change _ = Except.ok (-enomem, some 0, (putBo s p (attach bo) []).log _)
      rw [putBo_self live]
      rfl
  | mapped addr mapData stride =>
      by_cases hstride : stride = bo.stride
      · simp only [hstride, if_true]
        rfl
      · simp only [hstride, if_false]

/-- `gralloc_gbm_unmap` on a BO with user data. -/
theorem grallocGbmUnmap_eq {s : Process} {p : Ptr} {bo : GbmBo} {data : BoData}
    (live : s.bos p = some bo) (hdata : bo.userData = some data) :
    grallocGbmUnmap s p =
      if bo.mappings.any (fun mapping => mapping.mapData == data.mapData) then
        .ok (putBo s p
          { bo with
            userData := some { data with mapData := 0 }
            mappings := bo.mappings.filter fun mapping => mapping.mapData != data.mapData }
          [.gbmBoUnmap p data.mapData])
      else .error .invalidUnmap := by
  unfold grallocGbmUnmap
  simp only [Process.bo_eq_ok.mpr live, ok_bind, hdata]
  rfl

theorem grallocGbmBoLock_unregistered {s : Process} {handle : Ptr}
    (h : s.gbmBoHandleMap handle = none) (answer : GbmMapResult) (usage : Word) :
    grallocGbmBoLock answer s handle usage = .ok (-einval, none, s) := by
  simp [grallocGbmBoLock, grallocGetGbmBoFromHandle, h]

theorem grallocGbmBoLock_eq {s : Process} {handle p : Ptr} {native : NativeHandle}
    {handleUsage : Word} {bo : GbmBo} (registered : s.gbmBoHandleMap handle = some p)
    (hhandle : s.handles handle = some native) (husage : native.usage = .ok handleUsage)
    (live : s.bos p = some bo) (answer : GbmMapResult) (usage : Word) :
    grallocGbmBoLock answer s handle usage =
      (lockBo answer p handleUsage usage bo).map fun (ret, addr, bo', calls) =>
        (ret, addr, putBo s p bo' calls) := by
  have hset : s.setBo p { bo with userData := some (boData bo) } = putBo s p (attach bo) [] := rfl
  unfold grallocGbmBoLock lockBo
  simp only [grallocGetGbmBoFromHandle, registered, Process.handle_eq_ok.mpr hhandle, ok_bind,
    husage, Process.bo_eq_ok.mpr live, hset]
  by_cases refused : UsageRefused handleUsage usage
  · simp only [if_pos refused, Except.map, putBo_self live]
  simp only [if_neg refused]
  by_cases clash : (boData bo).lockCount ≠ 0 ∧ ¬ Within usage (boData bo).lockedFor
  · simp only [if_pos clash, Except.map]
  simp only [if_neg clash]
  by_cases cpu : CpuUsage (usage ||| (boData bo).lockedFor)
  · have inPlace := grallocGbmMap_eq (s := putBo s p (attach bo) []) registered
      (putBo_bos_self ..) answer
      (decide (CpuWrite (usage ||| (boData bo).lockedFor)))
    rw [if_pos cpu, if_neg (not_not_intro cpu), inPlace]
    by_cases mapped : (boData bo).mapData ≠ 0
    · simp only [if_pos mapped, ok_bind, Except.map]
      rfl
    simp only [if_neg mapped]
    cases answer with
    | null =>
        simp only [ok_bind, putBo_putBo, List.append_nil, Except.map]
        rfl
    | mapped addr mapData stride =>
        by_cases hstride : stride = bo.stride
        · simp only [if_pos hstride, if_neg (not_not_intro hstride), ok_bind, ne_eq, not_true,
            if_false]
          rw [modifyBoData_eq (putBo_bos_self ..) rfl]
          by_cases full : (boData bo).lockCount = intMax
          · simp [full, Except.map]
          · simp [full, Except.map, countLock]
        · simp [hstride, Except.map]
  · rw [if_neg cpu, if_pos cpu]
    simp only [ne_eq, not_true, if_false]
    rw [modifyBoData_eq (putBo_bos_self ..) rfl]
    by_cases full : (boData bo).lockCount = intMax
    · simp [full, Except.map]
    · simp [full, Except.map, countLock, attach]

theorem grallocGbmBoUnlock_unregistered {s : Process} {handle : Ptr}
    (h : s.gbmBoHandleMap handle = none) :
    grallocGbmBoUnlock s handle = .ok (-einval, s) := by
  simp [grallocGbmBoUnlock, grallocGetGbmBoFromHandle, h]

theorem grallocGbmBoUnlock_eq {s : Process} {handle p : Ptr} {bo : GbmBo}
    (registered : s.gbmBoHandleMap handle = some p) (live : s.bos p = some bo) :
    grallocGbmBoUnlock s handle =
      (unlockBo p bo).map fun (bo', calls) => (0, putBo s p bo' calls) := by
  unfold grallocGbmBoUnlock unlockBo
  simp only [grallocGetGbmBoFromHandle, registered, Process.bo_eq_ok.mpr live, ok_bind]
  cases hdata : bo.userData with
  | none => rfl
  | some data =>
      simp only
      by_cases unlocked : data.lockCount = 0
      · simp only [if_pos unlocked, Except.map, putBo_self live]
      simp only [if_neg unlocked]
      by_cases cpu : CpuUsage data.lockedFor
      · simp only [if_pos cpu, if_neg (not_not_intro cpu)]
        rw [grallocGbmUnmap_eq live hdata]
        by_cases mapped : bo.mappings.any fun mapping => mapping.mapData == data.mapData
        · simp only [if_pos mapped, ok_bind]
          rw [modifyBoData_eq (putBo_bos_self ..) rfl]
          simp [Except.map, uncountLock]
        · simp only [if_neg mapped, error_bind, Except.map]
      · rw [if_neg cpu, if_pos cpu]
        simp [modifyBoData_eq live hdata, Except.map, uncountLock]

/-! ## How the two operations return -/

theorem grallocGbmBoLock_returns {answer : GbmMapResult} {s s' : Process} {handle : Ptr}
    {usage : Word} {ret : Int} {addr : Option Ptr}
    (hlive : ∀ p, s.gbmBoHandleMap handle = some p → s.bos p ≠ none)
    (h : grallocGbmBoLock answer s handle usage = .ok (ret, addr, s')) :
    (ret ≠ 0 ∧ s.gbmBoHandleMap handle = none ∧ s' = s) ∨
      ∃ p bo native handleUsage bo' calls, s.gbmBoHandleMap handle = some p ∧
        s.bos p = some bo ∧ s.handles handle = some native ∧ native.usage = .ok handleUsage ∧
        LockReturns answer p handleUsage usage bo ret addr bo' calls ∧
        s' = putBo s p bo' calls := by
  cases registered : s.gbmBoHandleMap handle with
  | none =>
      rw [grallocGbmBoLock_unregistered registered] at h
      cases h
      exact .inl ⟨by decide, rfl, rfl⟩
  | some p =>
      right
      obtain ⟨bo, live⟩ := Option.ne_none_iff_exists'.mp (hlive p registered)
      -- the usage word is read before anything else happens
      have readable : ∃ native handleUsage,
          s.handles handle = some native ∧ native.usage = .ok handleUsage := by
        unfold grallocGbmBoLock at h
        simp only [grallocGetGbmBoFromHandle, registered] at h
        obtain ⟨native, hnative, h⟩ := bind_eq_ok.mp h
        obtain ⟨handleUsage, husage, -⟩ := bind_eq_ok.mp h
        exact ⟨native, handleUsage, Process.handle_eq_ok.mp hnative, husage⟩
      obtain ⟨native, handleUsage, hnative, husage⟩ := readable
      rw [grallocGbmBoLock_eq registered hnative husage live] at h
      obtain ⟨⟨ret', addr', bo', calls⟩, hlock, same⟩ := map_eq_ok.mp h
      cases same
      exact ⟨p, bo, native, handleUsage, bo', calls, rfl, live, hnative, husage,
        lockBo_returns hlock, rfl⟩

theorem grallocGbmBoUnlock_returns {s s' : Process} {handle : Ptr} {ret : Int}
    (hlive : ∀ p, s.gbmBoHandleMap handle = some p → s.bos p ≠ none)
    (h : grallocGbmBoUnlock s handle = .ok (ret, s')) :
    (ret ≠ 0 ∧ s.gbmBoHandleMap handle = none ∧ s' = s) ∨
      ∃ p bo bo' calls, s.gbmBoHandleMap handle = some p ∧ s.bos p = some bo ∧
        UnlockReturns p bo bo' calls ∧ ret = 0 ∧ s' = putBo s p bo' calls := by
  cases registered : s.gbmBoHandleMap handle with
  | none =>
      rw [grallocGbmBoUnlock_unregistered registered] at h
      cases h
      exact .inl ⟨by decide, rfl, rfl⟩
  | some p =>
      right
      obtain ⟨bo, live⟩ := Option.ne_none_iff_exists'.mp (hlive p registered)
      rw [grallocGbmBoUnlock_eq registered live] at h
      obtain ⟨⟨bo', calls⟩, hunlock, same⟩ := map_eq_ok.mp h
      cases same
      exact ⟨p, bo, bo', calls, rfl, live, unlockBo_eq_ok.mp hunlock, rfl, rfl⟩

end GrallocGbmMesa.Core
