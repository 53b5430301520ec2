import Mathlib.Logic.Function.Basic
import GrallocGbmMesa.Lib.Checked
import GrallocGbmMesa.Platform.Constants

/-!
# The process a gralloc library runs in

The state joins the two globals of the core library (`_gbm_dev_fd`, `_gbm_dev`)
and its buffer registry with what the platform keeps for it: live gbm devices,
live buffer objects, the heap of native handles and the table of open files.
Undefined behaviour and failed assertions are faults.  The outcome of an
external call is an argument of the operation that makes the call.
-/

namespace GrallocGbmMesa.Platform

/-- A C pointer; `0` is `NULL`. -/
abbrev Ptr := Nat

/-- A file descriptor, the C `int` itself. -/
abbrev Fd := Word

/-- An open file; for the descriptor of a dma-buf, the buffer behind it. -/
abbrev FileId := Nat

inductive Fault where
  | invalidPointer
  | outOfBounds
  | signedOverflow
  | assertionFailed
  | invalidUnmap
  | lengthError
  deriving DecidableEq, Repr

/-- `native_handle_t`: the descriptors come first in its `data` array. -/
structure NativeHandle where
  fds : List Fd
  ints : List Word
  deriving DecidableEq, Repr

namespace NativeHandle

def numFds (handle : NativeHandle) : Nat := handle.fds.length

def numInts (handle : NativeHandle) : Nat := handle.ints.length

def data (handle : NativeHandle) : List Word := handle.fds ++ handle.ints

/-- Read `data[index]`. -/
def word (handle : NativeHandle) (index : Nat) : Except Fault Word :=
  match handle.data[index]? with
  | some value => .ok value
  | none => .error .outOfBounds

@[simp] theorem data_length (handle : NativeHandle) :
    handle.data.length = handle.numFds + handle.numInts := List.length_append

theorem word_eq_ok {handle : NativeHandle} {index : Nat} {value : Word} :
    handle.word index = .ok value ↔ handle.data[index]? = some value := by
  unfold word
  cases handle.data[index]? <;> simp

theorem word_defined {handle : NativeHandle} {index : Nat}
    (h : index < handle.numFds + handle.numInts) : ∃ value, handle.word index = .ok value := by
  have inside : index < handle.data.length := by simpa using h
  exact ⟨handle.data[index], word_eq_ok.mpr (List.getElem?_eq_getElem inside)⟩

theorem word_eq_error {handle : NativeHandle} {index : Nat}
    (h : handle.numFds + handle.numInts ≤ index) : handle.word index = .error .outOfBounds := by
  unfold word
  rw [List.getElem?_eq_none (by simpa using h)]

end NativeHandle

/-- `bo_data_t`, the user data a lock attaches to its BO. -/
structure BoData where
  mapData : Ptr := 0
  lockCount : Int := 0
  lockedFor : Word := 0
  deriving DecidableEq, Repr

/-- A mapping `gbm_bo_map` has made and `gbm_bo_unmap` has not yet released. -/
structure Mapping where
  mapData : Ptr
  addr : Ptr
  flags : Word
  width : Word
  height : Word
  deriving DecidableEq, Repr

/-- A live `struct gbm_bo`. -/
structure GbmBo where
  width : Word
  height : Word
  stride : Word
  modifier : BitVec 64
  file : FileId
  userData : Option BoData
  mappings : List Mapping
  deriving DecidableEq, Repr

/-- The arguments of `gbm_bo_create` after the device. -/
structure CreateArgs where
  width : Word
  height : Word
  format : Word
  flags : Word
  deriving DecidableEq, Repr

/-- The fields of `gbm_import_fd_modifier_data` that are not left zero. -/
structure ImportData where
  width : Word
  height : Word
  format : Word
  numFds : Word
  fd : Fd
  stride : Word
  modifier : BitVec 64
  deriving DecidableEq, Repr

/-- External calls whose order or arguments matter. -/
inductive Call where
  | gbmCreateDevice (fd : Fd)
  | gbmBoCreate (dev : Ptr) (args : CreateArgs)
  | gbmBoImport (dev : Ptr) (data : ImportData)
  | gbmBoDestroy (bo : Ptr)
  /-- `mapData` is what the call stored, `0` when it failed -/
  | gbmBoMap (bo : Ptr) (flags : Word) (mapData : Ptr)
  | gbmBoUnmap (bo : Ptr) (mapData : Ptr)
  | syncWait (fd : Fd) (timeout : Nat)
  | close (fd : Fd)
  deriving DecidableEq, Repr

structure Process where
  /-- `_gbm_dev_fd` -/
  gbmDevFd : Fd
  /-- `_gbm_dev` -/
  gbmDev : Ptr
  /-- `gbm_bo_handle_map` -/
  gbmBoHandleMap : Ptr → Option Ptr
  /-- live gbm devices and the descriptor each was created on -/
  devices : Ptr → Option Fd
  bos : Ptr → Option GbmBo
  handles : Ptr → Option NativeHandle
  fds : Fd → Option FileId
  /-- external calls, newest first -/
  calls : List Call

namespace Process

def log (s : Process) (call : Call) : Process := { s with calls := call :: s.calls }

/-- Dereference a `buffer_handle_t`. -/
def handle (s : Process) (p : Ptr) : Except Fault NativeHandle :=
  match s.handles p with
  | some handle => .ok handle
  | none => .error .invalidPointer

/-- Dereference a `struct gbm_bo *`. -/
def bo (s : Process) (p : Ptr) : Except Fault GbmBo :=
  match s.bos p with
  | some bo => .ok bo
  | none => .error .invalidPointer

def setBo (s : Process) (p : Ptr) (bo : GbmBo) : Process :=
  { s with bos := Function.update s.bos p (some bo) }

theorem handle_eq_ok {s : Process} {p : Ptr} {handle : NativeHandle} :
    s.handle p = .ok handle ↔ s.handles p = some handle := by
  unfold Process.handle
  cases s.handles p <;> simp

theorem bo_eq_ok {s : Process} {p : Ptr} {bo : GbmBo} :
    s.bo p = .ok bo ↔ s.bos p = some bo := by
  unfold Process.bo
  cases s.bos p <;> simp

/-! ## Files -/

def openFd (s : Process) (fd : Fd) (file : FileId) : Process :=
  { s with fds := Function.update s.fds fd (some file) }

def close (s : Process) (fd : Fd) : Process :=
  { s.log (.close fd) with fds := Function.update s.fds fd none }

/-- `fcntl(fd, F_DUPFD_CLOEXEC, 0)`, where `answer` is the number the kernel picks. -/
def fcntlDupfd (s : Process) (fd answer : Fd) : Fd × Process :=
  match s.fds fd with
  | some file => if answer.toInt < 0 then (-1, s) else (answer, s.openFd answer file)
  | none => (-1, s)

/-- `native_handle_close` -/
def nativeHandleClose (s : Process) (handle : NativeHandle) : Process :=
  handle.fds.foldl close s

/-- `native_handle_delete` -/
def nativeHandleDelete (s : Process) (p : Ptr) : Process :=
  { s with handles := Function.update s.handles p none }

/-- `native_handle_create` followed by writing the whole `data` array. -/
def placeHandle (s : Process) (p : Ptr) (handle : NativeHandle) : Process :=
  { s with handles := Function.update s.handles p (some handle) }

/-! ## The log of calls -/

/-- The calls made since an earlier state, newest first. -/
def callsSince (s s' : Process) : List Call :=
  s'.calls.take (s'.calls.length - s.calls.length)

theorem callsSince_eq {s s' : Process} {made : List Call} (h : s'.calls = made ++ s.calls) :
    s.callsSince s' = made := by
  simp [callsSince, h]

/-- The log of a state continues that of an earlier one. -/
def Extends (s s' : Process) : Prop := s.calls <:+ s'.calls

namespace Extends

variable {s s' s'' : Process}

theorem refl (s : Process) : Extends s s := List.suffix_refl _

theorem trans (h : Extends s s') (h' : Extends s' s'') : Extends s s'' := List.IsSuffix.trans h h'

theorem of_eq (h : s'.calls = s.calls) : Extends s s' := by
  unfold Extends
  exact h ▸ List.suffix_refl s.calls

theorem log (s : Process) (call : Call) : Extends s (s.log call) := List.suffix_cons _ _

theorem close (s : Process) (fd : Fd) : Extends s (s.close fd) := List.suffix_cons _ _

/-- A loop extends the log if its body does. -/
theorem foldl {α : Type} {body : Process → α → Process}
    (each : ∀ s item, Extends s (body s item)) (items : List α) (s : Process) :
    Extends s (items.foldl body s) := by
  induction items generalizing s with
  | nil => exact refl s
  | cons item rest ih => exact (each s item).trans (ih (body s item))

theorem nativeHandleClose (s : Process) (handle : NativeHandle) :
    Extends s (s.nativeHandleClose handle) := foldl close handle.fds s

/-- A call that was logged shows in every later state. -/
theorem mem_callsSince {call : Call} (h : Extends (s.log call) s') :
    call ∈ s.callsSince s' := by
  obtain ⟨later, hlater⟩ := h
  have made : s'.calls = (later ++ [call]) ++ s.calls := by
    rw [← hlater, List.append_assoc]
    rfl
  rw [callsSince_eq made]
  exact List.mem_append_right _ (List.mem_singleton_self _)

end Extends

end Process

end GrallocGbmMesa.Platform
