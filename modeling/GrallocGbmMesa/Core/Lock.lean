import GrallocGbmMesa.Core.Format
import GrallocGbmMesa.Core.Handle

/-!
# CPU locks

`gralloc_gbm_bo_lock`, its variants, and `gralloc_gbm_bo_unlock`.  The lock
state of a buffer is the `bo_data_t` that the first lock attaches to its BO.
-/

namespace GrallocGbmMesa.Core

open Bits
open GrallocGbmMesa.Platform

/-- What `gbm_bo_map` answers: `NULL`, or an address, the `map_data` it stores
and the stride it reports. -/
inductive GbmMapResult where
  | null
  | mapped (addr mapData : Ptr) (stride : Word)
  deriving DecidableEq, Repr

/-- A successful `gbm_bo_map` returns and stores pointers that are not `NULL`. -/
def GbmMapResult.Valid : GbmMapResult → Prop
  | .null => True
  | .mapped addr mapData _ => addr ≠ 0 ∧ mapData ≠ 0

instance (answer : GbmMapResult) : Decidable answer.Valid := by
  cases answer <;> unfold GbmMapResult.Valid <;> infer_instance

/-- The usage asks to write from the CPU. -/
def CpuWrite (usage : Word) : Prop := Meets usage grallocUsageSwWriteMask

instance (usage : Word) : Decidable (CpuWrite usage) := inferInstanceAs (Decidable (Meets ..))

/-- The usage asks to read or to write from the CPU. -/
def CpuUsage (usage : Word) : Prop :=
  Meets usage (grallocUsageSwWriteMask ||| grallocUsageSwReadMask)

instance (usage : Word) : Decidable (CpuUsage usage) := inferInstanceAs (Decidable (Meets ..))

/-- Change the `bo_data_t` of a BO through its pointer. -/
def modifyBoData (s : Process) (p : Ptr) (f : BoData → Except Fault BoData) :
    Except Fault Process := do
  let bo ← s.bo p
  match bo.userData with
  | none => .error .invalidPointer
  | some data =>
      let data ← f data
      return s.setBo p { bo with userData := some data }

/-- The second result is what is stored through `addr`, if anything is. -/
def grallocGbmMap (answer : GbmMapResult) (s : Process) (handle : Ptr) (enableWrite : Bool) :
    Except Fault (Int × Option Ptr × Process) :=
  match grallocGetGbmBoFromHandle s handle with
  | none => .error .invalidPointer
  | some p => do
      let bo ← s.bo p
      match bo.userData with
      | none => .error .invalidPointer
      | some data =>
          if data.mapData ≠ 0 then .ok (-einval, none, s)
          else
            let flags := if enableWrite then gbmBoTransferRead ||| gbmBoTransferWrite
              else gbmBoTransferRead
            match answer with
            | .null => .ok (-enomem, some 0, s.log (.gbmBoMap p flags 0))
            | .mapped addr mapData stride =>
                let s := s.log (.gbmBoMap p flags mapData)
                let mapping : Mapping :=
                  { mapData, addr, flags, width := bo.width, height := bo.height }
                let s := s.setBo p
                  { bo with
                    userData := some { data with mapData }
                    mappings := bo.mappings ++ [mapping] }
                if stride = bo.stride then .ok (0, some addr, s)
                else .error .assertionFailed

/-- `gbm_bo_unmap` must be given the `map_data` of a live mapping. -/
def grallocGbmUnmap (s : Process) (p : Ptr) : Except Fault Process := do
  let bo ← s.bo p
  match bo.userData with
  | none => .error .invalidPointer
  | some data =>
      if bo.mappings.any (fun mapping => mapping.mapData == data.mapData) then
        let s := s.log (.gbmBoUnmap p data.mapData)
        return s.setBo p
          { bo with
            userData := some { data with mapData := 0 }
            mappings := bo.mappings.filter fun mapping => mapping.mapData != data.mapData }
      else .error .invalidUnmap

/-- The handle's usage refuses the lock's. -/
def UsageRefused (handleUsage usage : Word) : Prop :=
  ¬ Within usage handleUsage ∧ ¬ Meets handleUsage grallocUsageSwReadOften ∧
    ¬ Meets handleUsage grallocUsageHwFb ∧ ¬ Meets handleUsage grallocUsageHwTexture

instance (handleUsage usage : Word) : Decidable (UsageRefused handleUsage usage) :=
  inferInstanceAs (Decidable (_ ∧ _))

/-- The `bo_data_t` of a BO, or the zero one that the first lock attaches. -/
def boData (bo : GbmBo) : BoData := bo.userData.getD {}

def grallocGbmBoLock (answer : GbmMapResult) (s : Process) (handle : Ptr) (usage : Word) :
    Except Fault (Int × Option Ptr × Process) :=
  match grallocGetGbmBoFromHandle s handle with
  | none => .ok (-einval, none, s)
  | some p => do
      let gbmHandle ← s.handle handle
      let handleUsage ← gbmHandle.usage
      if UsageRefused handleUsage usage then .ok (-einval, none, s)
      else
        let bo ← s.bo p
        let data := boData bo
        let s := s.setBo p { bo with userData := some data }
        -- allow multiple locks with compatible usages
        if data.lockCount ≠ 0 ∧ ¬ Within usage data.lockedFor then .ok (-einval, none, s)
        else
          let usage := usage ||| data.lockedFor
          let (err, addr, s) ←
            if CpuUsage usage then
              grallocGbmMap answer s handle (decide (CpuWrite usage))
            else .ok (0, none, s)
          if err ≠ 0 then .ok (err, addr, s)
          else
            let s ← modifyBoData s p fun data =>
              if data.lockCount = intMax then .error .signedOverflow
              else .ok
                { data with
                  lockCount := data.lockCount + 1
                  lockedFor := data.lockedFor ||| usage }
            return (0, addr, s)

def grallocGbmBoUnlock (s : Process) (handle : Ptr) : Except Fault (Int × Process) :=
  match grallocGetGbmBoFromHandle s handle with
  | none => .ok (-einval, s)
  | some p => do
      let bo ← s.bo p
      match bo.userData with
      | none => .error .invalidPointer
      | some boData =>
          if boData.lockCount = 0 then .ok (0, s)
          else
            let s ← if CpuUsage boData.lockedFor then grallocGbmUnmap s p
              else .ok s
            let s ← modifyBoData s p fun data =>
              let count := data.lockCount - 1
              .ok
                { data with
                  lockCount := count
                  lockedFor := if count = 0 then 0 else data.lockedFor }
            return (0, s)

/-! ## Variants -/

structure AndroidYcbcr where
  y : Ptr
  cb : Ptr
  cr : Ptr
  ystride : BitVec 64
  cstride : BitVec 64
  chromaStep : BitVec 64
  deriving DecidableEq, Repr

/-- The plane addresses and strides stored for the two formats that have them.
Offsets are computed in `uint32_t`, strides in `int`. -/
def ycbcrLayout (addr : Ptr) (format width height : Word) : Option AndroidYcbcr :=
  if format = halPixelFormatYCrCb420Sp then
    let ystride := align width 16
    some
      { y := addr
        cr := addr + (ystride * height).toNat
        cb := addr + (ystride * height).toNat + 1
        ystride := ystride.signExtend 64
        cstride := ystride.signExtend 64
        chromaStep := 2 }
  else if format = halPixelFormatYv12 then
    let ystride := width
    let cstride := align (ystride.sdiv 2) 16
    some
      { y := addr
        cr := addr + (ystride * height).toNat
        cb := addr + (ystride * height).toNat + (cstride * height / 2).toNat
        ystride := ystride.signExtend 64
        cstride := cstride.signExtend 64
        chromaStep := 1 }
  else none

/-- The luma plane starts at the address of the mapping. -/
theorem ycbcrLayout_y {addr : Ptr} {format width height : Word} {ycbcr : AndroidYcbcr}
    (h : ycbcrLayout addr format width height = some ycbcr) : ycbcr.y = addr := by
  unfold ycbcrLayout at h
  by_cases semiPlanar : format = halPixelFormatYCrCb420Sp
  · rw [if_pos semiPlanar] at h
    cases h
    rfl
  rw [if_neg semiPlanar] at h
  by_cases planar : format = halPixelFormatYv12
  · rw [if_pos planar] at h
    cases h
    rfl
  · rw [if_neg planar] at h
    cases h

def grallocGbmBoLockYcbcr (answer : GbmMapResult) (s : Process) (handle : Ptr) (usage : Word) :
    Except Fault (Int × Option AndroidYcbcr × Process) := do
  let (err, addr, s) ← grallocGbmBoLock answer s handle usage
  if err ≠ 0 then .ok (err, none, s)
  else
    let hnd ← s.handle handle
    let format ← hnd.format
    let width ← hnd.width
    let height ← hnd.height
    match ycbcrLayout (addr.getD 0) format width height with
    | some ycbcr => .ok (0, some ycbcr, s)
    | none => .ok (-einval, none, s)

/-- `syncWait` is the result of `sync_wait` on the fence. -/
def grallocGbmBoLockAsync (answer : GbmMapResult) (syncWait : Int) (s : Process) (handle : Ptr)
    (usage : Word) (fenceFd : Fd) : Except Fault (Int × Option Ptr × Process) :=
  if fenceFd.toInt ≥ 0 then
    let s := s.log (.syncWait fenceFd 3000)
    if syncWait < 0 then .ok (syncWait, none, s)
    else grallocGbmBoLock answer (s.close fenceFd) handle usage
  else grallocGbmBoLock answer s handle usage

def grallocGbmBoLockAsyncYcbcr (answer : GbmMapResult) (syncWait : Int) (s : Process)
    (handle : Ptr) (usage : Word) (fenceFd : Fd) :
    Except Fault (Int × Option AndroidYcbcr × Process) :=
  if fenceFd.toInt ≥ 0 then
    let s := s.log (.syncWait fenceFd 3000)
    if syncWait < 0 then .ok (syncWait, none, s)
    else grallocGbmBoLockYcbcr answer (s.close fenceFd) handle usage
  else grallocGbmBoLockYcbcr answer s handle usage

/-- The second result is what is stored through `fence_fd`. -/
def grallocGbmBoUnlockAsync (s : Process) (handle : Ptr) :
    Except Fault (Int × Option Fd × Process) := do
  let (ret, s) ← grallocGbmBoUnlock s handle
  if ret ≠ 0 then .ok (ret, none, s) else .ok (0, some (-1), s)

end GrallocGbmMesa.Core
