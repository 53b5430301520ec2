import GrallocGbmMesa.Aidl.Parcelables

/-!
# The format of the parcelables

What one process writes another one reads, also when their versions of the interface differ,
and what is accepted from a process that writes anything at all.
-/

namespace GrallocGbmMesa.Aidl

open ByteStream Parcels
open GrallocGbmMesa.Platform
open GrallocGbmMesa.Mapper (ExtendableType)

/-! ## A medium of bytes and files -/

inductive ParcelCell where
  | byte (byte : Byte)
  | file (file : FileId)
  deriving DecidableEq, Repr

def ParcelCell.toByte : ParcelCell → Byte
  | .byte value => value
  | .file _ => 0

def littleEndianBlock {w : ℕ} (size : ℕ) (positive : 0 < size) (enough : w ≤ 8 * size) :
    Block ParcelCell BinderError (BitVec w) where
  size := size
  positive := positive
  encode value := (littleEndian size value).map .byte
  decode cells := .ok (ofLittleEndian w (cells.map ParcelCell.toByte))
  length_encode value := by rw [List.length_map, littleEndian_length]
  decode_encode value := by
    have bytes : ((littleEndian size value).map ParcelCell.byte).map ParcelCell.toByte =
        littleEndian size value := by
      rw [List.map_map]
      exact List.map_id' _
    rw [bytes, ofLittleEndian_littleEndian enough]

def fileBlock : Block ParcelCell BinderError FileId where
  size := 1
  positive := Nat.one_pos
  encode file := [.file file]
  decode
    | [.file file] => .ok file
    | _ => .error statusBadValue
  length_encode _ := rfl
  decode_encode _ := rfl

def byteMedium : Medium ParcelCell BinderError where
  word := littleEndianBlock 4 (by decide) (by decide)
  word_size := rfl
  grow _ := .ok ()
  notEnoughData := ⟨-61, by decide⟩

/-- Data as the NDK writes them: a string is its length and its characters, and a word says
that a parcelable is there. -/
def byteNdk : Ndk ParcelCell (BitVec 64) where
  medium := byteMedium
  name := byteMedium.codec (littleEndianBlock 8 (by decide) (by decide))
  string :=
    (byteMedium.int32.vector byteMedium statusBadValue 0).map
      (fun string => string.toList.map fun char => BitVec.ofNat 32 char.toNat)
      (fun words => .ok (String.ofList (words.map fun word => Char.ofNat word.toNat)))
      (fun string => by
        have same (char : Char) :
            Char.ofNat (BitVec.ofNat 32 char.toNat).toNat = char := by
          have small : char.toNat < 2 ^ 32 := char.val.toNat_lt
          rw [BitVec.toNat_ofNat, Nat.mod_eq_of_lt (by omega), Char.ofNat_toNat]
        rw [List.map_map]
        have chars := List.map_congr_left (l := string.toList) fun char _ => same char
        exact congrArg Except.ok
          ((congrArg String.ofList (chars.trans (List.map_id' _))).trans String.ofList_toList))
  int64 := byteMedium.codec (littleEndianBlock 8 (by decide) (by decide))
  bool := byteMedium.int32.map (fun value => if value then 1 else 0) (fun word => .ok (word ≠ 0))
    (fun value => by cases value <;> rfl)
  bytes := (byteMedium.codec (littleEndianBlock 1 (by decide) (by decide))).vector byteMedium
    statusBadValue 0
  file := (byteMedium.codec fileBlock).required statusBadValue 0
  vector codec := codec.vector byteMedium statusBadValue default
  parcelable codec := codec.present byteMedium statusBadValue

/-! ## Between two processes -/

namespace Parcelable

variable {Cell Name More : Type} {ndk : Ndk Cell Name} {parcelable : Parcelable}
  {p p' : Parcel Cell}

/-- The fields that another version of the interface writes: the first ones of this version,
and fields that this version does not have. -/
def otherVersion (ndk : Ndk Cell Name) (parcelable : Parcelable) (known : ℕ)
    (further : List (Field Cell BinderError More)) :
    List (Field Cell BinderError (parcelable.Obj Name × More)) :=
  ((parcelable.layout ndk).fields.take known).map
      (.within Prod.fst fun whole object => (object, whole.2)) ++
    further.map (.within Prod.snd fun whole more => (whole.1, more))

/-- A process that has fewer fields leaves the rest as they are, and one that has more is
understood without these. -/
theorem readFromParcel_otherVersion (known : ℕ) (further : List (Field Cell BinderError More))
    (skew : (parcelable.layout ndk).fields.length ≤ known ∨ further = [])
    {theirs : parcelable.Obj Name × More} (target : parcelable.Obj Name) (atEnd : p.AtEnd)
    (written : writeParcelable ndk.medium (otherVersion ndk parcelable known further) theirs p =
      .ok p') (short : p'.data.length ≤ posMax) (rest : List Cell) :
    parcelable.readFromParcel ndk target ⟨p'.data ++ rest, p.pos⟩ =
      .ok (copyFields ((parcelable.layout ndk).fields.take known) theirs.1 target,
        ⟨p'.data ++ rest, p'.pos⟩) := by
  obtain ⟨cells, rfl, laid⟩ := writeParcelable_laid atEnd written
  obtain ⟨here, there, rfl, first, second⟩ := laid.split
  have nothing : (parcelable.layout ndk).fields.drop known = [] ∨ there = [] := by
    refine skew.imp List.drop_eq_nil_of_le fun none => ?_
    subst none
    cases second
    rfl
  have ends : p.pos = p.data.length := atEnd
  have read := @readParcelable_image _ _ _ ndk.medium _ _ _ target statusBadValue here there
    first.of_within nothing p.data
    (by rwa [← List.length_append]) rest
  rw [List.take_append_drop, ← ends] at read
  rw [readFromParcel_eq]
  exact read

/-- A process that has an `AllocationResult` without buffers, and one with a field more. -/
theorem readFromParcel_otherVersion_results :
    (∃ p', writeParcelable byteMedium
        (otherVersion byteNdk .allocationResult 1 ([] : List (Field _ _ Word)))
        ((⟨256, []⟩ : AllocationResult), 0) .empty = .ok p' ∧
      readFromParcel byteNdk .allocationResult (⟨0, [⟨[], [3]⟩]⟩ : AllocationResult)
          ⟨p'.data ++ [.byte 1], 0⟩ =
        .ok ((⟨256, [⟨[], [3]⟩]⟩ : AllocationResult), ⟨p'.data ++ [.byte 1], p'.pos⟩)) ∧
    ∃ p', writeParcelable byteMedium
        (otherVersion byteNdk .allocationResult 2 [⟨byteMedium.int32, id, fun _ word => word⟩])
        ((⟨256, [⟨[some 7], [1, 2]⟩]⟩ : AllocationResult), 5) .empty = .ok p' ∧
      readFromParcel byteNdk .allocationResult (⟨0, [⟨[], [3]⟩]⟩ : AllocationResult)
          ⟨p'.data ++ [.byte 1], 0⟩ =
        .ok ((⟨256, [⟨[some 7], [1, 2]⟩]⟩ : AllocationResult),
          ⟨p'.data ++ [.byte 1], p'.pos⟩) :=
  ⟨⟨_, rfl, @readFromParcel_otherVersion _ _ _ byteNdk .allocationResult .empty _ 1 []
      (.inr rfl) _ _ .empty rfl (by decide) _⟩,
    ⟨_, rfl, @readFromParcel_otherVersion _ _ _ byteNdk .allocationResult .empty _ 2
      [⟨byteMedium.int32, id, fun _ word => word⟩] (.inl (by decide))
      (⟨256, [⟨[some 7], [1, 2]⟩]⟩, 5) _ .empty rfl (by decide) _⟩⟩

/-- What was written at the end of a parcel is read from there, whatever follows it. -/
theorem readFromParcel_writeToParcel (object target : parcelable.Obj Name) (atEnd : p.AtEnd)
    (written : parcelable.writeToParcel ndk object p = .ok p')
    (short : p'.data.length ≤ posMax) (rest : List Cell) :
    parcelable.readFromParcel ndk target ⟨p'.data ++ rest, p.pos⟩ =
      .ok (object, ⟨p'.data ++ rest, p'.pos⟩) ∧ p'.AtEnd ∧ p.data <+: p'.data := by
  rw [writeToParcel_eq] at written
  rw [readFromParcel_eq]
  let codec := (parcelable.layout ndk).codec ndk.medium statusBadValue
  have read := codec.read_written atEnd written short target rest
  obtain ⟨cells, -, rfl, -⟩ := codec.written atEnd written
  exact ⟨read, atEnd.append cells, List.prefix_append ..⟩

theorem readFromParcel_writeToParcel_result :
    ∃ p', writeToParcel byteNdk .allocationResult
        (⟨256, [⟨[some 7], [1, 2]⟩]⟩ : AllocationResult) .empty = .ok p' ∧
      readFromParcel byteNdk .allocationResult (⟨0, [⟨[], [3]⟩]⟩ : AllocationResult)
          ⟨p'.data ++ [.byte 1], 0⟩ =
        .ok ((⟨256, [⟨[some 7], [1, 2]⟩]⟩ : AllocationResult),
          ⟨p'.data ++ [.byte 1], p'.pos⟩) :=
  ⟨_, rfl, (@readFromParcel_writeToParcel _ _ byteNdk .allocationResult .empty _
    (⟨256, [⟨[some 7], [1, 2]⟩]⟩ : AllocationResult) _ .empty rfl (by decide) _).1⟩

/-- Whatever a parcel holds, a parcelable that is accepted has its first fields from within
its size, and what follows is read from where the size says. -/
theorem readFromParcel_accepts {object target : parcelable.Obj Name}
    (h : parcelable.readFromParcel ndk target p = .ok (object, p')) :
    Accepts ndk.medium (parcelable.layout ndk).fields target p object p' := by
  rw [readFromParcel_eq] at h
  exact readParcelable_accepts h

/-- A result that ends behind its stride. -/
theorem readFromParcel_accepts_stride :
    Accepts byteMedium (layout byteNdk .allocationResult).fields
      (⟨0, [⟨[], [3]⟩]⟩ : AllocationResult)
      ⟨(littleEndian 4 8#32 ++ littleEndian 4 256#32).map .byte, 0⟩ ⟨256, [⟨[], [3]⟩]⟩
      ⟨(littleEndian 4 8#32 ++ littleEndian 4 256#32).map .byte, 8⟩ :=
  @readFromParcel_accepts _ _ byteNdk .allocationResult _ _ _ _ rfl

end Parcelable

end GrallocGbmMesa.Aidl
