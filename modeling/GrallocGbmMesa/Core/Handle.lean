import GrallocGbmMesa.Platform.Process

/-!
# The gralloc handle

`struct gralloc_handle_t` is laid over the `data` array of a native handle: one
descriptor, then twelve ints.  The cast in `gralloc_handle()` checks nothing, so
a field of a handle is whatever word lies at its index.
-/

namespace GrallocGbmMesa.Core

open GrallocGbmMesa.Platform

def grallocHandleVersion : Word := 4#32
def grallocHandleMagic : Word := 0x60585350#32
def grallocHandleNumFds : Nat := 1

/-- `sizeof(gralloc_handle_t)` is 64 and `sizeof(native_handle_t)` is 12. -/
def grallocHandleNumInts : Nat := (64 - 12) / 4 - grallocHandleNumFds

structure GrallocHandle where
  primeFd : Fd
  magic : Word
  version : Word
  width : Word
  height : Word
  format : Word
  usage : Word
  stride : Word
  dataOwner : Word
  modifier : BitVec 64
  data : BitVec 64
  deriving DecidableEq, Repr

/-- The words a `gralloc_handle_t` occupies in its native handle. -/
def GrallocHandle.native (handle : GrallocHandle) : NativeHandle where
  fds := [handle.primeFd]
  ints := [handle.magic, handle.version, handle.width, handle.height, handle.format,
    handle.usage, handle.stride, handle.dataOwner,
    handle.modifier.setWidth 32, (handle.modifier >>> 32).setWidth 32,
    handle.data.setWidth 32, (handle.data >>> 32).setWidth 32]

end GrallocGbmMesa.Core

namespace GrallocGbmMesa.Platform.NativeHandle

/-! ## Fields read through the cast -/

def primeFd (handle : NativeHandle) : Except Fault Fd := handle.word 0
def magic (handle : NativeHandle) : Except Fault Word := handle.word 1
def version (handle : NativeHandle) : Except Fault Word := handle.word 2
def width (handle : NativeHandle) : Except Fault Word := handle.word 3
def height (handle : NativeHandle) : Except Fault Word := handle.word 4
def format (handle : NativeHandle) : Except Fault Word := handle.word 5
def usage (handle : NativeHandle) : Except Fault Word := handle.word 6
def stride (handle : NativeHandle) : Except Fault Word := handle.word 7

/-- The modifier is a `uint64_t` at words 9 and 10. -/
def modifier (handle : NativeHandle) : Except Fault (BitVec 64) := do
  let low ← handle.word 9
  let high ← handle.word 10
  return high.setWidth 64 <<< 32 ||| low.setWidth 64

/-- A handle with the descriptors and ints of a `gralloc_handle_t`. -/
def WellFormed (handle : NativeHandle) : Prop :=
  handle.numFds = Core.grallocHandleNumFds ∧ handle.numInts = Core.grallocHandleNumInts

instance (handle : NativeHandle) : Decidable handle.WellFormed :=
  inferInstanceAs (Decidable (_ ∧ _))

/-- Every field the library reads lies inside the handle. -/
def Covers (handle : NativeHandle) : Prop := 11 ≤ handle.numFds + handle.numInts

theorem WellFormed.covers {handle : NativeHandle} (h : handle.WellFormed) : handle.Covers := by
  unfold Covers
  rw [h.1, h.2]
  decide

theorem Covers.word {handle : NativeHandle} (h : handle.Covers) {index : Nat}
    (inside : index ≤ 10) : ∃ value, handle.word index = .ok value :=
  word_defined (by unfold Covers at h; omega)

theorem Covers.modifier {handle : NativeHandle} (h : handle.Covers) :
    ∃ value, handle.modifier = .ok value := by
  obtain ⟨low, hlow⟩ := h.word (show 9 ≤ 10 by decide)
  obtain ⟨high, hhigh⟩ := h.word (show 10 ≤ 10 by decide)
  exact ⟨_, by unfold NativeHandle.modifier; rw [hlow, hhigh]; rfl⟩

/-- The first word of a handle that carries descriptors is the first of them. -/
theorem primeFd_eq {handle : NativeHandle} {fd : Fd} {rest : List Fd}
    (h : handle.fds = fd :: rest) : handle.primeFd = .ok fd := by
  unfold primeFd
  rw [word_eq_ok]
  simp [data, h]

end GrallocGbmMesa.Platform.NativeHandle

namespace GrallocGbmMesa.Core

open GrallocGbmMesa.Platform

namespace GrallocHandle

variable (handle : GrallocHandle)

theorem native_wellFormed : handle.native.WellFormed := ⟨rfl, rfl⟩

@[simp] theorem native_primeFd : handle.native.primeFd = .ok handle.primeFd := rfl
@[simp] theorem native_magic : handle.native.magic = .ok handle.magic := rfl
@[simp] theorem native_version : handle.native.version = .ok handle.version := rfl
@[simp] theorem native_width : handle.native.width = .ok handle.width := rfl
@[simp] theorem native_height : handle.native.height = .ok handle.height := rfl
@[simp] theorem native_format : handle.native.format = .ok handle.format := rfl
@[simp] theorem native_usage : handle.native.usage = .ok handle.usage := rfl
@[simp] theorem native_stride : handle.native.stride = .ok handle.stride := rfl

/-- The two words of the modifier put it together again. -/
@[simp] theorem native_modifier : handle.native.modifier = .ok handle.modifier := by
  change Except.ok (((handle.modifier >>> 32).setWidth 32).setWidth 64 <<< 32 |||
    (handle.modifier.setWidth 32).setWidth 64) = _
  congr 1
  apply BitVec.eq_of_getLsbD_eq
  intro i hi
  simp only [BitVec.getLsbD_or, BitVec.getLsbD_shiftLeft, BitVec.getLsbD_setWidth,
    BitVec.getLsbD_ushiftRight]
  by_cases low : i < 32
  · simp [low, hi]
  · have high : 32 + (i - 32) = i := by omega
    simp [low, hi, high, show i - 32 < 32 by omega, show i - 32 < 64 by omega]

end GrallocHandle

/-- The `uint64_t` of two words. -/
def joinWords (low high : Word) : BitVec 64 := high.setWidth 64 <<< 32 ||| low.setWidth 64

theorem joinWords_low (low high : Word) : (joinWords low high).setWidth 32 = low := by
  apply BitVec.eq_of_getLsbD_eq
  intro i hi
  simp only [joinWords, BitVec.getLsbD_or, BitVec.getLsbD_shiftLeft, BitVec.getLsbD_setWidth]
  simp [hi, show i < 64 by omega]

theorem joinWords_high (low high : Word) : (joinWords low high >>> 32).setWidth 32 = high := by
  apply BitVec.eq_of_getLsbD_eq
  intro i hi
  simp only [joinWords, BitVec.getLsbD_or, BitVec.getLsbD_shiftLeft, BitVec.getLsbD_setWidth,
    BitVec.getLsbD_ushiftRight]
  simp [hi, show 32 + i < 64 by omega, show ¬ 32 + i < 32 by omega, show i < 64 by omega]

/-- A native handle of the right shape is that of a gralloc handle. -/
theorem exists_handle {native : NativeHandle} (wellFormed : native.WellFormed) :
    ∃ handle : GrallocHandle, native = handle.native := by
  obtain ⟨fds, ints⟩ := native
  obtain ⟨fd, rfl⟩ := List.length_eq_one_iff.mp wellFormed.1
  have count : ints.length = 12 := wellFormed.2
  match ints, count with
  | [magic, version, width, height, format, usage, stride, dataOwner, low, high, low', high'], _ =>
      refine ⟨⟨fd, magic, version, width, height, format, usage, stride, dataOwner,
        joinWords low high, joinWords low' high'⟩, ?_⟩
      simp only [GrallocHandle.native, joinWords_low, joinWords_high]

def grallocGetGbmBoFromHandle (s : Process) (handle : Ptr) : Option Ptr :=
  s.gbmBoHandleMap handle

/-- `gralloc_handle_create`: the words it does not write keep what the memory
returned by `native_handle_create` held before. -/
def grallocHandleCreate (memory : GrallocHandle) (width height halFormat usage : Word) :
    GrallocHandle :=
  { memory with
    magic := grallocHandleMagic
    version := grallocHandleVersion
    width := width
    height := height
    format := halFormat
    usage := usage
    primeFd := -1 }

end GrallocGbmMesa.Core
