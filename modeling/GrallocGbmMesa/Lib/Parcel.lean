import GrallocGbmMesa.Lib.Checked
import Mathlib.Algebra.Order.Ring.Int
import Mathlib.Data.List.Basic

/-!
# Parcels

A parcel is a sequence of cells with the position at which data is read and written.  An
object goes into it as its size in cells, the size itself included, followed by its fields.
A reader skips what lies behind the fields it knows, and leaves the fields as they are that
the size has no room for.
-/

namespace Parcels

open Checked

structure Parcel (Cell : Type) where
  data : List Cell
  pos : ℕ

/-- The last position that an `int32_t` holds. -/
def posMax : ℕ := 2 ^ 31 - 1

variable {Cell ε Datum Obj : Type}

namespace Parcel

def empty : Parcel Cell := ⟨[], 0⟩

/-- Write cells at the data position, over those that are there. -/
def put (p : Parcel Cell) (cells : List Cell) : Parcel Cell where
  data := p.data.take p.pos ++ cells ++ p.data.drop (p.pos + cells.length)
  pos := p.pos + cells.length

/-- Set the data position. -/
def seek (p : Parcel Cell) (pos : ℕ) : Parcel Cell := { p with pos }

def AtEnd (p : Parcel Cell) : Prop := p.pos = p.data.length

/-- The parcel with cells behind the end of its data. -/
def append (p : Parcel Cell) (cells : List Cell) : Parcel Cell :=
  ⟨p.data ++ cells, p.pos + cells.length⟩

theorem AtEnd.empty : (empty : Parcel Cell).AtEnd := rfl

theorem AtEnd.append {p : Parcel Cell} (h : p.AtEnd) (cells : List Cell) :
    (p.append cells).AtEnd := by
  unfold AtEnd Parcel.append
  rw [h, List.length_append]

theorem AtEnd.put_eq {p : Parcel Cell} (h : p.AtEnd) (cells : List Cell) :
    p.put cells = p.append cells := by
  unfold put Parcel.append
  rw [h, List.take_length, List.drop_eq_nil_of_le (Nat.le_add_right ..), List.append_nil]

@[simp] theorem append_nil (p : Parcel Cell) : p.append [] = p := by
  unfold append
  rw [List.append_nil]
  rfl

theorem append_append (p : Parcel Cell) (first second : List Cell) :
    (p.append first).append second = p.append (first ++ second) := by
  unfold append
  rw [List.append_assoc, List.length_append, Nat.add_assoc]

/-- Cells that were appended are replaced by as many others. -/
theorem AtEnd.overwrite {p : Parcel Cell} (h : p.AtEnd) {old new : List Cell}
    (same : old.length = new.length) (more : List Cell) :
    (((p.append (old ++ more)).seek p.pos).put new).seek (p.append (old ++ more)).pos =
      p.append (new ++ more) := by
  unfold put seek Parcel.append
  dsimp only
  rw [h, List.take_left, ← List.drop_drop, List.drop_left, List.drop_left' same,
    List.append_assoc, List.length_append, List.length_append, same]

/-- Data is read: it stays as it is, and the position goes forward and stays in range. -/
structure Advances (p p' : Parcel Cell) : Prop where
  data : p'.data = p.data
  forward : p.pos ≤ p'.pos
  bounded : p.data.length ≤ posMax → p.pos ≤ posMax → p'.pos ≤ posMax

theorem Advances.refl (p : Parcel Cell) : Advances p p := ⟨rfl, Nat.le_refl _, fun _ h => h⟩

theorem Advances.trans {p p' p'' : Parcel Cell} (h : Advances p p') (h' : Advances p' p'') :
    Advances p p'' where
  data := h'.data.trans h.data
  forward := Nat.le_trans h.forward h'.forward
  bounded short inside := h'.bounded (h.data ▸ short) (h.bounded short inside)

end Parcel

/-! ## Data -/

/-- Wherever the cells are in a parcel, and whatever is there to read them into, they are read
as the datum. -/
def Reads (read : Datum → Parcel Cell → Except ε (Datum × Parcel Cell)) (cells : List Cell)
    (datum : Datum) : Prop :=
  ∀ target before rest, before.length + cells.length ≤ posMax →
    read target ⟨before ++ cells ++ rest, before.length⟩ =
      .ok (datum, ⟨before ++ cells ++ rest, before.length + cells.length⟩)

/-- Cells at the end of a parcel are read from where they begin, also behind others. -/
theorem Reads.seek {read : Datum → Parcel Cell → Except ε (Datum × Parcel Cell)}
    {cells : List Cell} {datum : Datum} {p : Parcel Cell} (reads : Reads read cells datum)
    (atEnd : p.AtEnd) (short : (p.append cells).data.length ≤ posMax) (target : Datum)
    (more : List Cell) :
    read target (((p.append cells).append more).seek p.pos) =
      .ok (datum, ((p.append cells).append more).seek (p.append cells).pos) := by
  have ends : p.pos = p.data.length := atEnd
  have read := reads target p.data more
    (by rw [← List.length_append]; exact short)
  rwa [← ends] at read

/-- How a kind of datum is written, and read into one that exists.  At the end of a parcel it is
appended, and what was appended is read back. -/
structure Codec (Cell ε Datum : Type) where
  write : Datum → Parcel Cell → Except ε (Parcel Cell)
  read : Datum → Parcel Cell → Except ε (Datum × Parcel Cell)
  written : ∀ {datum p p'}, p.AtEnd → write datum p = .ok p' →
    ∃ cells, cells ≠ [] ∧ p' = p.append cells ∧ Reads read cells datum
  advances : ∀ {target p datum p'}, read target p = .ok (datum, p') → p.Advances p'

/-- What was written at the end of a parcel is read from there, whatever follows it. -/
theorem Codec.read_written (codec : Codec Cell ε Datum) {datum : Datum} {p p' : Parcel Cell}
    (atEnd : p.AtEnd) (written : codec.write datum p = .ok p')
    (short : p'.data.length ≤ posMax) (target : Datum) (rest : List Cell) :
    codec.read target ⟨p'.data ++ rest, p.pos⟩ = .ok (datum, ⟨p'.data ++ rest, p'.pos⟩) := by
  obtain ⟨cells, -, rfl, reads⟩ := codec.written atEnd written
  exact reads.seek atEnd short target rest

/-- A kind of datum that occupies so many cells. -/
structure Block (Cell ε Datum : Type) where
  size : ℕ
  positive : 0 < size
  encode : Datum → List Cell
  decode : List Cell → Except ε Datum
  length_encode : ∀ datum, (encode datum).length = size
  decode_encode : ∀ datum, decode (encode datum) = .ok datum

/-- What the parcels of a platform are made of: words of four cells, the sizes they can grow to,
and what a reader says that has come to the end. -/
structure Medium (Cell ε : Type) where
  word : Block Cell ε (BitVec 32)
  word_size : word.size = 4
  grow : ℕ → Except ε Unit
  notEnoughData : ε

namespace Medium

variable (medium : Medium Cell ε) (block : Block Cell ε Datum)

/-- Make room for so many cells. -/
def reserve (p : Parcel Cell) (size : ℕ) : Except ε Unit :=
  if p.pos + size ≤ p.data.length then .ok () else medium.grow (p.pos + size)

def write (datum : Datum) (p : Parcel Cell) : Except ε (Parcel Cell) := do
  medium.reserve p block.size
  return p.put (block.encode datum)

def read (p : Parcel Cell) : Except ε (Datum × Parcel Cell) :=
  if p.pos + block.size ≤ p.data.length then do
    let datum ← block.decode ((p.data.drop p.pos).take block.size)
    return (datum, p.seek (p.pos + block.size))
  else .error medium.notEnoughData

variable {medium block} {datum : Datum} {p p' : Parcel Cell}

theorem write_eq_ok (h : medium.write block datum p = .ok p') :
    p' = p.put (block.encode datum) := by
  obtain ⟨_, -, h⟩ := bind_eq_ok.mp h
  exact (Except.ok.inj h).symm

/-- Cells that are there already are overwritten, whatever the parcel can grow to. -/
theorem write_inside (inside : p.pos + block.size ≤ p.data.length) :
    medium.write block datum p = .ok (p.put (block.encode datum)) := by
  unfold write reserve
  rw [if_pos inside]
  rfl

theorem reads_block (datum : Datum) :
    Reads (fun _ => medium.read block) (block.encode datum) datum := by
  intro _ before rest _
  have length := block.length_encode datum
  unfold read
  dsimp only
  rw [if_pos (by simp only [List.length_append]; omega), List.append_assoc, List.drop_left,
    List.take_left' length, block.decode_encode, length]
  rfl

theorem read_eq_ok (h : medium.read block p = .ok (datum, p')) :
    p.pos + block.size ≤ p.data.length ∧ p' = p.seek (p.pos + block.size) := by
  unfold read at h
  split at h
  · obtain ⟨_, -, h⟩ := bind_eq_ok.mp h
    cases h
    exact ⟨‹_›, rfl⟩
  · cases h

variable (medium block)

def codec : Codec Cell ε Datum where
  write := medium.write block
  read _ := medium.read block
  written {datum p p'} atEnd h := by
    refine ⟨block.encode datum, ?_, ?_, reads_block datum⟩
    · exact List.ne_nil_of_length_pos (block.length_encode datum ▸ block.positive)
    · rw [write_eq_ok h, atEnd.put_eq]
  advances {_ p datum p'} h := by
    obtain ⟨inside, rfl⟩ := read_eq_ok h
    exact ⟨rfl, Nat.le_add_right .., fun short _ => Nat.le_trans inside short⟩

/-- `int32_t` -/
def int32 : Codec Cell ε (BitVec 32) := medium.codec medium.word

theorem word_length (value : BitVec 32) : (medium.word.encode value).length = 4 :=
  (medium.word.length_encode value).trans medium.word_size

end Medium

/-! ## Sequences of data -/

section Sequences

variable {codec : Codec Cell ε Datum}

def writeEach (codec : Codec Cell ε Datum) : List Datum → Parcel Cell → Except ε (Parcel Cell)
  | [], p => .ok p
  | datum :: rest, p => do
      let p ← codec.write datum p
      writeEach codec rest p

/-- Read as many data as there are to read them into. -/
def readEach (codec : Codec Cell ε Datum) :
    List Datum → Parcel Cell → Except ε (List Datum × Parcel Cell)
  | [], p => .ok ([], p)
  | target :: rest, p => do
      let (datum, p) ← codec.read target p
      let (data, p) ← readEach codec rest p
      return (datum :: data, p)

theorem writeEach_written {data : List Datum} {p p' : Parcel Cell} (atEnd : p.AtEnd)
    (h : writeEach codec data p = .ok p') :
    ∃ cells, data.length ≤ cells.length ∧ p' = p.append cells ∧
      ∀ targets before rest, targets.length = data.length →
        before.length + cells.length ≤ posMax →
        readEach codec targets ⟨before ++ cells ++ rest, before.length⟩ =
          .ok (data, ⟨before ++ cells ++ rest, before.length + cells.length⟩) := by
  induction data generalizing p with
  | nil =>
      cases h
      refine ⟨[], Nat.le_refl _, (Parcel.append_nil _).symm, fun targets before rest same _ => ?_⟩
      rw [List.length_eq_zero_iff.mp same]
      rfl
  | cons datum others ih =>
      obtain ⟨q, first, h⟩ := bind_eq_ok.mp h
      obtain ⟨here, some, rfl, reads⟩ := codec.written atEnd first
      obtain ⟨there, enough, rfl, onward⟩ := ih (atEnd.append here) h
      have positive := List.length_pos_iff.mpr some
      refine ⟨here ++ there, ?_, p.append_append here there,
        fun targets before rest same bound => ?_⟩
      · rw [List.length_append, List.length_cons]
        omega
      · obtain ⟨target, targets, rfl⟩ := List.exists_cons_of_length_eq_add_one same
        rw [List.length_append] at bound
        have read := reads target before (there ++ rest) (by omega)
        have more := onward targets (before ++ here) rest (Nat.succ.inj same)
          (by rw [List.length_append]; omega)
        simp only [List.append_assoc, List.length_append] at read more ⊢
        rw [readEach, read, ok_bind]
        dsimp only
        rw [more, ok_bind, Nat.add_assoc]
        rfl

theorem readEach_advances {targets data : List Datum} {p p' : Parcel Cell}
    (h : readEach codec targets p = .ok (data, p')) : p.Advances p' := by
  induction targets generalizing p data with
  | nil =>
      cases h
      exact .refl _
  | cons target rest ih =>
      obtain ⟨⟨datum, q⟩, read, h⟩ := bind_eq_ok.mp h
      obtain ⟨⟨others, q'⟩, more, h⟩ := bind_eq_ok.mp h
      cases h
      exact (codec.advances read).trans (ih more)

/-- The targets there are, as many as are needed. -/
def resize (initial : Datum) (targets : List Datum) (count : ℕ) : List Datum :=
  targets.take count ++ List.replicate (count - targets.length) initial

@[simp] theorem resize_length (initial : Datum) (targets : List Datum) (count : ℕ) :
    (resize initial targets count).length = count := by
  rw [resize, List.length_append, List.length_take, List.length_replicate]
  omega

/-- A vector: how many data there are, and the data. -/
def Codec.vector (medium : Medium Cell ε) (negative : ε) (initial : Datum)
    (codec : Codec Cell ε Datum) : Codec Cell ε (List Datum) where
  write data p := do
    let p ← medium.write medium.word (BitVec.ofNat 32 data.length) p
    writeEach codec data p
  read targets p := do
    let (count, p) ← medium.read medium.word p
    if count.toInt < 0 then .error negative
    else readEach codec (resize initial targets count.toNat) p
  written {data p p'} atEnd h := by
    obtain ⟨q, word, h⟩ := bind_eq_ok.mp h
    have length := medium.word_length (BitVec.ofNat 32 data.length)
    rw [Medium.write_eq_ok word, atEnd.put_eq] at h
    obtain ⟨cells, enough, rfl, onward⟩ := writeEach_written (atEnd.append _) h
    refine ⟨medium.word.encode (BitVec.ofNat 32 data.length) ++ cells, ?_,
      p.append_append _ cells, fun targets before rest bound => ?_⟩
    · intro none
      rw [(List.append_eq_nil_iff.mp none).1] at length
      cases length
    · rw [List.length_append, length] at bound
      unfold posMax at bound
      have count : (BitVec.ofNat 32 data.length).toNat = data.length := by
        rw [BitVec.toNat_ofNat]
        omega
      have signed : (BitVec.ofNat 32 data.length).toInt = data.length := by
        rw [BitVec.toInt_eq_toNat_of_lt] <;> rw [count]
        omega
      have read := @Medium.reads_block _ _ _ medium medium.word (BitVec.ofNat 32 data.length) 0
        before (cells ++ rest) (by unfold posMax; omega)
      have more := onward (resize initial targets data.length)
        (before ++ medium.word.encode (BitVec.ofNat 32 data.length)) rest (resize_length ..)
        (by rw [List.length_append, length]; unfold posMax; omega)
      simp only [List.append_assoc, List.length_append, length] at read more ⊢
      rw [read, ok_bind]
      dsimp only
      rw [signed, count, if_neg (Int.not_lt.mpr (Int.natCast_nonneg _)), more, Nat.add_assoc]
  advances {targets p data p'} h := by
    obtain ⟨⟨count, q⟩, word, h⟩ := bind_eq_ok.mp h
    have first := @Codec.advances _ _ _ medium.int32 0 _ _ _ word
    dsimp only at h
    split at h
    · cases h
    · exact first.trans (readEach_advances h)

/-- A datum behind a word that says it is there. -/
def Codec.present (medium : Medium Cell ε) (missing : ε) (codec : Codec Cell ε Datum) :
    Codec Cell ε Datum where
  write datum p := do
    let p ← medium.write medium.word 1 p
    codec.write datum p
  read target p := do
    let (there, p) ← medium.read medium.word p
    if there = 0 then .error missing else codec.read target p
  written {datum p p'} atEnd h := by
    obtain ⟨q, word, h⟩ := bind_eq_ok.mp h
    rw [Medium.write_eq_ok word, atEnd.put_eq] at h
    obtain ⟨cells, some, rfl, reads⟩ := codec.written (atEnd.append _) h
    refine ⟨medium.word.encode 1 ++ cells, List.append_ne_nil_of_right_ne_nil _ some,
      p.append_append _ cells, fun target before rest bound => ?_⟩
    rw [List.length_append] at bound
    have flag := @Medium.reads_block _ _ _ medium medium.word 1 0 before (cells ++ rest) (by omega)
    have read := reads target (before ++ medium.word.encode 1) rest
      (by rw [List.length_append]; omega)
    simp only [List.append_assoc, List.length_append] at flag read ⊢
    rw [flag, ok_bind]
    dsimp only
    rw [if_neg (by decide), read, Nat.add_assoc]
  advances {target p datum p'} h := by
    obtain ⟨⟨there, q⟩, word, h⟩ := bind_eq_ok.mp h
    have first := @Codec.advances _ _ _ medium.int32 0 _ _ _ word
    dsimp only at h
    split at h
    · cases h
    · exact first.trans (codec.advances h)

/-- A datum that has to be there. -/
def Codec.required (codec : Codec Cell ε Datum) (missing : ε) (initial : Datum) :
    Codec Cell ε (Option Datum) where
  write
    | none, _ => .error missing
    | some datum, p => codec.write datum p
  read target p := do
    let (datum, p) ← codec.read (target.getD initial) p
    return (some datum, p)
  written {datum p p'} atEnd h := by
    cases datum with
    | none => cases h
    | some datum =>
        obtain ⟨cells, some, rfl, reads⟩ := codec.written atEnd h
        refine ⟨cells, some, rfl, fun target before rest bound => ?_⟩
        dsimp only
        rw [reads (target.getD initial) before rest bound]
        rfl
  advances {target p datum p'} h := by
    obtain ⟨⟨datum, q⟩, read, h⟩ := bind_eq_ok.mp h
    cases h
    exact codec.advances read

/-- A kind of datum that is written as another one. -/
def Codec.map {Other : Type} (codec : Codec Cell ε Other) (put : Datum → Other)
    (take : Other → Except ε Datum) (take_put : ∀ datum, take (put datum) = .ok datum) :
    Codec Cell ε Datum where
  write datum := codec.write (put datum)
  read target p := do
    let (other, p) ← codec.read (put target) p
    let datum ← take other
    return (datum, p)
  written {datum p p'} atEnd h := by
    obtain ⟨cells, some, rfl, reads⟩ := codec.written atEnd h
    refine ⟨cells, some, rfl, fun target before rest bound => ?_⟩
    dsimp only
    rw [reads (put target) before rest bound, ok_bind]
    dsimp only
    rw [take_put]
    rfl
  advances {target p datum p'} h := by
    obtain ⟨⟨other, q⟩, read, h⟩ := bind_eq_ok.mp h
    obtain ⟨datum, -, h⟩ := bind_eq_ok.mp h
    cases h
    exact codec.advances read

end Sequences

/-! ## Fields -/

/-- A field of an object: how its datum is written and read, and where the object has it. -/
structure Field (Cell ε Obj : Type) where
  {Datum : Type}
  codec : Codec Cell ε Datum
  get : Obj → Datum
  set : Obj → Datum → Obj

/-- The target with the fields of the source. -/
def copyFields (fields : List (Field Cell ε Obj)) (source target : Obj) : Obj :=
  fields.foldl (fun target field => field.set target (field.get source)) target

/-- The cells of the fields of an object, one after the other. -/
inductive Laid (object : Obj) : List (Field Cell ε Obj) → List Cell → Prop where
  | nil : Laid object [] []
  | cons {field : Field Cell ε Obj} {rest : List (Field Cell ε Obj)} {cells more : List Cell} :
      cells ≠ [] → Reads field.codec.read cells (field.get object) → Laid object rest more →
      Laid object (field :: rest) (cells ++ more)

theorem Laid.split {object : Obj} {first second : List (Field Cell ε Obj)} {cells : List Cell}
    (h : Laid object (first ++ second) cells) :
    ∃ here there, cells = here ++ there ∧ Laid object first here ∧ Laid object second there := by
  induction first generalizing cells with
  | nil => exact ⟨[], cells, rfl, .nil, h⟩
  | cons field rest ih =>
      cases h with
      | @cons _ _ cells more some reads laid =>
          obtain ⟨here, there, rfl, first, second⟩ := ih laid
          exact ⟨cells ++ here, there, (List.append_assoc ..).symm, .cons some reads first, second⟩

/-- A field of a part of a larger object. -/
def Field.within {Whole : Type} (part : Whole → Obj) (put : Whole → Obj → Whole)
    (field : Field Cell ε Obj) : Field Cell ε Whole where
  codec := field.codec
  get whole := field.get (part whole)
  set whole datum := put whole (field.set (part whole) datum)

theorem Laid.of_within {Whole : Type} {part : Whole → Obj} {put : Whole → Obj → Whole}
    {whole : Whole} {fields : List (Field Cell ε Obj)} {cells : List Cell}
    (h : Laid whole (fields.map (Field.within part put)) cells) :
    Laid (part whole) fields cells := by
  induction fields generalizing cells with
  | nil =>
      cases h
      exact .nil
  | cons field rest ih =>
      cases h with
      | cons some reads laid => exact .cons some reads (ih laid)

def writeFields : List (Field Cell ε Obj) → Obj → Parcel Cell → Except ε (Parcel Cell)
  | [], _, p => .ok p
  | field :: rest, object, p => do
      let p ← field.codec.write (field.get object) p
      writeFields rest object p

/-- Read fields into an object that began at `start` and has a size; the others stay. -/
def readFields (start : ℕ) (size : ℤ) :
    List (Field Cell ε Obj) → Obj → Parcel Cell → Except ε (Obj × Parcel Cell)
  | [], object, p => .ok (object, p.seek (start + size).toNat)
  | field :: rest, object, p =>
      if (p.pos : ℤ) - start ≥ size then .ok (object, p.seek (start + size).toNat)
      else do
        let (datum, p) ← field.codec.read (field.get object) p
        readFields start size rest (field.set object datum) p

theorem writeFields_laid {fields : List (Field Cell ε Obj)} {object : Obj} {p p' : Parcel Cell}
    (atEnd : p.AtEnd) (h : writeFields fields object p = .ok p') :
    ∃ cells, p' = p.append cells ∧ Laid object fields cells := by
  induction fields generalizing p with
  | nil =>
      cases h
      exact ⟨[], (Parcel.append_nil _).symm, .nil⟩
  | cons field rest ih =>
      obtain ⟨q, first, h⟩ := bind_eq_ok.mp h
      obtain ⟨cells, some, rfl, reads⟩ := field.codec.written atEnd first
      obtain ⟨more, rfl, laid⟩ := ih (atEnd.append cells) h
      exact ⟨cells ++ more, p.append_append cells more, .cons some reads laid⟩

/-- Fields that lie within the size are read, and then the fields that follow. -/
theorem readFields_laid {fields more : List (Field Cell ε Obj)} {object target : Obj}
    {cells before rest : List Cell} {start : ℕ} {size : ℤ} (laid : Laid object fields cells)
    (inside : ((before.length + cells.length : ℕ) : ℤ) - start ≤ size)
    (bound : before.length + cells.length ≤ posMax) :
    readFields start size (fields ++ more) target ⟨before ++ cells ++ rest, before.length⟩ =
      readFields start size more (copyFields fields object target)
        ⟨before ++ cells ++ rest, before.length + cells.length⟩ := by
  induction laid generalizing before target with
  | nil => rw [List.nil_append, List.length_nil, Nat.add_zero, copyFields, List.foldl_nil]
  | @cons field others here there some reads laid ih =>
      have length : (here ++ there).length = here.length + there.length := List.length_append
      have positive := List.length_pos_iff.mpr some
      rw [length] at inside bound
      have unread : ¬ ((before.length : ℕ) : ℤ) - start ≥ size := by omega
      have read := reads (field.get target) before (there ++ rest) (by omega)
      have onward := @ih (field.set target (field.get object)) (before ++ here)
        (by rw [List.length_append]; omega) (by rw [List.length_append]; omega)
      simp only [List.append_assoc, List.length_append] at read onward ⊢
      rw [List.cons_append, readFields, if_neg unread, read, ok_bind]
      dsimp only
      rw [onward, Nat.add_assoc]
      rfl

/-- Read fields that have no size in front of them. -/
def readMessage :
    List (Field Cell ε Obj) → Obj → Parcel Cell → Except ε (Obj × Parcel Cell)
  | [], object, p => .ok (object, p)
  | field :: rest, object, p => do
      let (datum, p) ← field.codec.read (field.get object) p
      readMessage rest (field.set object datum) p

theorem readMessage_laid {fields : List (Field Cell ε Obj)} {object target : Obj}
    {cells before : List Cell} (laid : Laid object fields cells)
    (bound : before.length + cells.length ≤ posMax) (rest : List Cell) :
    readMessage fields target ⟨before ++ cells ++ rest, before.length⟩ =
      .ok (copyFields fields object target,
        ⟨before ++ cells ++ rest, before.length + cells.length⟩) := by
  induction laid generalizing before target with
  | nil => rfl
  | @cons field others here there some reads laid ih =>
      have length : (here ++ there).length = here.length + there.length := List.length_append
      rw [length] at bound
      have read := reads (field.get target) before (there ++ rest) (by omega)
      have onward := @ih (field.set target (field.get object)) (before ++ here)
        (by rw [List.length_append]; omega)
      simp only [List.append_assoc, List.length_append] at read onward ⊢
      rw [readMessage, read, ok_bind]
      dsimp only
      rw [onward, Nat.add_assoc]
      rfl

/-- A position at or behind the size ends the object. -/
theorem readFields_behind {start : ℕ} {size : ℤ} {p : Parcel Cell}
    (behind : size ≤ (p.pos : ℤ) - start) (fields : List (Field Cell ε Obj)) (object : Obj) :
    readFields start size fields object p = .ok (object, p.seek (start + size).toNat) := by
  cases fields with
  | nil => rfl
  | cons field rest => exact if_pos behind

/-- Fields that are read one after the other, each from before a position. -/
inductive Taken (stop : ℤ) :
    List (Field Cell ε Obj) → Obj → Parcel Cell → Obj → Parcel Cell → Prop where
  | nil {object : Obj} {p : Parcel Cell} : Taken stop [] object p object p
  | cons {field : Field Cell ε Obj} {rest : List (Field Cell ε Obj)} {object object' : Obj}
      {p q p' : Parcel Cell} {datum : field.Datum} :
      p.pos < stop → field.codec.read (field.get object) p = .ok (datum, q) →
      Taken stop rest (field.set object datum) q object' p' →
      Taken stop (field :: rest) object p object' p'

theorem Taken.advances {stop : ℤ} {fields : List (Field Cell ε Obj)} {object object' : Obj}
    {p p' : Parcel Cell} (h : Taken stop fields object p object' p') : p.Advances p' := by
  induction h with
  | nil => exact .refl _
  | @cons field rest object object' p q p' datum before read taken ih =>
      exact (field.codec.advances read).trans ih

/-- The fields that were read are the first ones, up to the size. -/
theorem readFields_eq_ok {start : ℕ} {size : ℤ} {fields : List (Field Cell ε Obj)}
    {object object' : Obj} {p p' : Parcel Cell}
    (h : readFields start size fields object p = .ok (object', p')) :
    ∃ taken skipped q, fields = taken ++ skipped ∧ Taken (start + size) taken object p object' q ∧
      (skipped ≠ [] → start + size ≤ q.pos) ∧ p' = q.seek (start + size).toNat := by
  induction fields generalizing object p with
  | nil =>
      cases h
      exact ⟨[], [], p, rfl, .nil, absurd rfl, rfl⟩
  | cons field rest ih =>
      rw [readFields] at h
      split at h
      · cases h
        exact ⟨[], field :: rest, p, rfl, .nil, fun _ => by omega, rfl⟩
      · obtain ⟨⟨datum, q⟩, read, h⟩ := bind_eq_ok.mp h
        obtain ⟨taken, skipped, q', rfl, fields, behind, rfl⟩ := ih h
        exact ⟨field :: taken, skipped, q', rfl, .cons (by omega) read fields, behind, rfl⟩

/-! ## Objects with a size -/

section Parcelables

variable (medium : Medium Cell ε)

/-- Write the fields of an object behind a place for their size, and then the size. -/
def writeParcelable (fields : List (Field Cell ε Obj)) (object : Obj) (p : Parcel Cell) :
    Except ε (Parcel Cell) := do
  let q ← medium.write medium.word 0 p
  let q ← writeFields fields object q
  -- what the write of the size returns is not looked at
  let size := BitVec.ofNat 32 (q.pos - p.pos)
  let patched := (medium.write medium.word size (q.seek p.pos)).toOption.getD (q.seek p.pos)
  return patched.seek q.pos

/-- Read an object into one that exists. -/
def readParcelable (badValue : ε) (fields : List (Field Cell ε Obj)) (object : Obj)
    (p : Parcel Cell) : Except ε (Obj × Parcel Cell) := do
  let (size, q) ← medium.read medium.word p
  if size.toInt < 4 then .error badValue
  else if (p.pos : ℤ) > posMax - size.toInt then .error badValue
  else readFields p.pos size.toInt fields object q

/-- The cells of an object whose fields occupy these. -/
def image (cells : List Cell) : List Cell :=
  medium.word.encode (BitVec.ofNat 32 (cells.length + 4)) ++ cells

variable {medium} {fields more : List (Field Cell ε Obj)} {object target : Obj}
  {p p' : Parcel Cell} {badValue : ε}

@[simp] theorem image_length (cells : List Cell) :
    (image medium cells).length = cells.length + 4 := by
  rw [image, List.length_append, medium.word_length, Nat.add_comm]

/-- What is written at the end of a parcel is the size of the fields and the fields. -/
theorem writeParcelable_laid (atEnd : p.AtEnd)
    (h : writeParcelable medium fields object p = .ok p') :
    ∃ cells, p' = p.append (image medium cells) ∧ Laid object fields cells := by
  obtain ⟨q, place, h⟩ := bind_eq_ok.mp h
  obtain ⟨q', written, h⟩ := bind_eq_ok.mp h
  have length (value : BitVec 32) := medium.word_length value
  rw [Medium.write_eq_ok place, atEnd.put_eq] at written
  obtain ⟨cells, rfl, laid⟩ := writeFields_laid (atEnd.append _) written
  refine ⟨cells, ?_, laid⟩
  have ends : p.pos = p.data.length := atEnd
  have there : (p.append (medium.word.encode 0 ++ cells)).data.length =
      p.data.length + (cells.length + 4) := by
    rw [Parcel.append, List.length_append, List.length_append, length]
    omega
  have size : (p.append (medium.word.encode 0 ++ cells)).pos - p.pos = cells.length + 4 := by
    change p.pos + (medium.word.encode 0 ++ cells).length - p.pos = _
    rw [List.length_append, length]
    omega
  have inside : ((p.append (medium.word.encode 0 ++ cells)).seek p.pos).pos + medium.word.size ≤
      ((p.append (medium.word.encode 0 ++ cells)).seek p.pos).data.length := by
    rw [medium.word_size]
    change p.pos + 4 ≤ (p.append (medium.word.encode 0 ++ cells)).data.length
    omega
  dsimp only at h
  rw [Parcel.append_append, size, Medium.write_inside inside] at h
  cases h
  exact atEnd.overwrite ((length 0).trans (length _).symm) cells

/-- The object that is in a parcel is read, without what follows the fields that the reader
knows, or up to the fields that the writer knew. -/
theorem readParcelable_image {cells extra : List Cell} (laid : Laid object fields cells)
    (skew : more = [] ∨ extra = []) {before : List Cell}
    (bound : before.length + (image medium (cells ++ extra)).length ≤ posMax) (rest : List Cell) :
    readParcelable medium badValue (fields ++ more) target
        ⟨before ++ image medium (cells ++ extra) ++ rest, before.length⟩ =
      .ok (copyFields fields object target,
        ⟨before ++ image medium (cells ++ extra) ++ rest,
          before.length + (image medium (cells ++ extra)).length⟩) := by
  rw [image_length, List.length_append] at bound ⊢
  have length := medium.word_length (BitVec.ofNat 32 (cells.length + extra.length + 4))
  have size : (BitVec.ofNat 32 (cells.length + extra.length + 4)).toInt =
      cells.length + extra.length + 4 := by
    unfold posMax at bound
    rw [BitVec.toInt_eq_toNat_of_lt] <;> rw [BitVec.toNat_ofNat] <;> omega
  have word := @Medium.reads_block _ _ _ medium medium.word
    (BitVec.ofNat 32 (cells.length + extra.length + 4)) 0 before (cells ++ extra ++ rest) (by omega)
  have data : before ++ image medium (cells ++ extra) ++ rest =
      before ++ medium.word.encode (BitVec.ofNat 32 (cells.length + extra.length + 4)) ++
        (cells ++ extra ++ rest) := by
    rw [image, List.length_append]
    simp only [List.append_assoc]
  dsimp only at word
  rw [data, readParcelable, word, ok_bind]
  dsimp only
  rw [size, if_neg (by omega), if_neg (by omega)]
  have known := @readFields_laid _ _ _ fields more object target cells
    (before ++ medium.word.encode (BitVec.ofNat 32 (cells.length + extra.length + 4)))
    (extra ++ rest) before.length (cells.length + extra.length + 4) laid
    (by rw [List.length_append, length]; omega) (by rw [List.length_append, length]; omega)
  rw [List.length_append, length, List.append_assoc _ cells, ← List.append_assoc cells] at known
  rw [length, known]
  have stop : ((before.length : ℤ) + (cells.length + extra.length + 4)).toNat =
      before.length + (cells.length + extra.length + 4) := by omega
  rcases skew with rfl | rfl
  · rw [readFields, stop]
    rfl
  · rw [readFields_behind (by simp only [List.length_nil]; omega), stop]
    rfl

/-- Whatever is in a parcel, an object that is read has a size of at least the size itself,
ends where its size says, and has its first fields from before that place. -/
structure Accepts (medium : Medium Cell ε) (fields : List (Field Cell ε Obj)) (target : Obj)
    (p : Parcel Cell) (object : Obj) (p' : Parcel Cell) : Prop where
  data : p'.data = p.data
  sized : ∃ value q, medium.read medium.word p = .ok (value, q) ∧ 4 ≤ value.toInt ∧
    (p'.pos : ℤ) = p.pos + value.toInt
  bounded : p'.pos ≤ posMax
  fields : ∃ taken skipped q q', fields = taken ++ skipped ∧ q = p.seek (p.pos + 4) ∧
    Taken p'.pos taken target q object q' ∧ (skipped ≠ [] → p'.pos ≤ q'.pos)

theorem readParcelable_accepts
    (h : readParcelable medium badValue fields target p = .ok (object, p')) :
    Accepts medium fields target p object p' := by
  obtain ⟨⟨size, q⟩, word, h⟩ := bind_eq_ok.mp h
  dsimp only at h
  obtain ⟨-, rfl⟩ := Medium.read_eq_ok word
  rw [medium.word_size] at h word
  split at h
  · cases h
  rename_i large
  split at h
  · cases h
  rename_i inside
  obtain ⟨taken, skipped, q', split, took, behind, rfl⟩ := readFields_eq_ok h
  have pos : ((p.pos + size.toInt).toNat : ℤ) = p.pos + size.toInt := by omega
  refine ⟨took.advances.data, ⟨size, _, word, by omega, pos⟩, ?_, taken, skipped, _, q', split,
    rfl, pos ▸ took, fun some => ?_⟩
  · change (p.pos + size.toInt).toNat ≤ posMax
    omega
  · change (p.pos + size.toInt).toNat ≤ q'.pos
    have := behind some
    omega

theorem Accepts.advances (h : Accepts medium fields target p object p') : p.Advances p' := by
  obtain ⟨value, q, -, large, pos⟩ := h.sized
  exact ⟨h.data, by omega, fun _ _ => h.bounded⟩

end Parcelables

/-- The fields of an object in the order they have in a parcel.  Together they are all of it. -/
structure Layout (Cell ε Obj : Type) where
  fields : List (Field Cell ε Obj)
  covers : ∀ source target, copyFields fields source target = source

/-- An object is a datum itself. -/
def Layout.codec (layout : Layout Cell ε Obj) (medium : Medium Cell ε) (badValue : ε) :
    Codec Cell ε Obj where
  write := writeParcelable medium layout.fields
  read := readParcelable medium badValue layout.fields
  written {object p p'} atEnd h := by
    obtain ⟨cells, rfl, laid⟩ := writeParcelable_laid atEnd h
    refine ⟨image medium cells, ?_, rfl, fun target before rest bound => ?_⟩
    · intro none
      have length := @image_length _ _ medium cells
      rw [none] at length
      cases length
    · have read := @readParcelable_image _ _ _ medium _ [] _ target badValue _ [] laid (.inl rfl)
        before (by rwa [List.append_nil]) rest
      rwa [List.append_nil, List.append_nil, layout.covers] at read
  advances h := (readParcelable_accepts h).advances

end Parcels
