import Mathlib.Algebra.Ring.Nat

/-!
# Byte streams

Words as little-endian bytes, and a writer that counts what it would have written
when its buffer is too small.
-/

namespace ByteStream

abbrev Byte := BitVec 8

/-! ## Little-endian words -/

/-- The `count` low bytes of a word, lowest first. -/
def littleEndian {w : Nat} : Nat → BitVec w → List Byte
  | 0, _ => []
  | count + 1, value => value.setWidth 8 :: littleEndian count (value >>> 8)

/-- The word with the given bytes, lowest first. -/
def ofLittleEndian (w : Nat) : List Byte → BitVec w
  | [] => 0#w
  | byte :: rest => byte.setWidth w ||| ofLittleEndian w rest <<< 8

@[simp] theorem littleEndian_length {w : Nat} (count : Nat) (value : BitVec w) :
    (littleEndian count value).length = count := by
  induction count generalizing value with
  | zero => rfl
  | succ count ih => simp [littleEndian, ih]

theorem getLsbD_ofLittleEndian {w : Nat} (count : Nat) (value : BitVec w) (i : Nat) :
    (ofLittleEndian w (littleEndian count value)).getLsbD i =
      (decide (i < 8 * count) && value.getLsbD i) := by
  induction count generalizing value i with
  | zero => simp [littleEndian, ofLittleEndian]
  | succ count ih =>
      simp only [littleEndian, ofLittleEndian, BitVec.getLsbD_or, BitVec.getLsbD_setWidth,
        BitVec.getLsbD_shiftLeft, ih, BitVec.getLsbD_ushiftRight]
      by_cases inside : i < w
      · by_cases low : i < 8
        · have below : i < 8 * (count + 1) := by omega
          simp [inside, low, below]
        · have shifted : 8 + (i - 8) = i := by omega
          have same : i - 8 < 8 * count ↔ i < 8 * (count + 1) := by omega
          rw [shifted]
          simp [inside, low, same]
      · have beyond := BitVec.getLsbD_of_ge value i (Nat.not_lt.mp inside)
        simp [inside, beyond]

/-- Enough bytes put a word together again. -/
theorem ofLittleEndian_littleEndian {w count : Nat} (enough : w ≤ 8 * count) (value : BitVec w) :
    ofLittleEndian w (littleEndian count value) = value := by
  apply BitVec.eq_of_getLsbD_eq
  intro i inside
  have below : i < 8 * count := by omega
  simp [getLsbD_ofLittleEndian, below]

/-- The bytes of a word are those of its low bits. -/
theorem littleEndian_congr {w : Nat} {count : Nat} {first second : BitVec w}
    (same : ∀ i < 8 * count, first.getLsbD i = second.getLsbD i) :
    littleEndian count first = littleEndian count second := by
  induction count generalizing first second with
  | zero => rfl
  | succ count ih =>
      have low : first.setWidth 8 = second.setWidth 8 := by
        apply BitVec.eq_of_getLsbD_eq
        intro i inside
        simp only [BitVec.getLsbD_setWidth]
        rw [same i (by omega)]
      have high := @ih (first >>> 8) (second >>> 8) (by
        intro i inside
        simp only [BitVec.getLsbD_ushiftRight]
        exact same (8 + i) (by omega))
      exact congrArg₂ List.cons low high

/-- A word that is put together from enough bytes has these bytes. -/
theorem littleEndian_ofLittleEndian {w : Nat} {bytes : List Byte}
    (enough : 8 * bytes.length ≤ w) :
    littleEndian bytes.length (ofLittleEndian w bytes) = bytes := by
  induction bytes with
  | nil => rfl
  | cons byte rest ih =>
      rw [List.length_cons] at enough
      have low : (ofLittleEndian w (byte :: rest)).setWidth 8 = byte := by
        apply BitVec.eq_of_getLsbD_eq
        intro i inside
        have within : i < w := by omega
        simp [ofLittleEndian, inside, within]
      have high : littleEndian rest.length (ofLittleEndian w (byte :: rest) >>> 8) =
          littleEndian rest.length (ofLittleEndian w rest) := by
        apply littleEndian_congr
        intro i inside
        have within : 8 + i < w := by omega
        have beyond := BitVec.getLsbD_of_ge byte (8 + i) (by omega)
        have above : ¬ 8 + i < 8 := by omega
        simp only [ofLittleEndian, BitVec.getLsbD_ushiftRight, BitVec.getLsbD_or,
          BitVec.getLsbD_setWidth, BitVec.getLsbD_shiftLeft, beyond, within, above,
          Nat.add_sub_cancel_left, decide_true, decide_false, Bool.and_false, Bool.false_or,
          Bool.true_and, Bool.not_false]
      change (ofLittleEndian w (byte :: rest)).setWidth 8 ::
        littleEndian rest.length (ofLittleEndian w (byte :: rest) >>> 8) = byte :: rest
      rw [low, high, ih (by omega)]

/-! ## Writer -/

structure Writer where
  output : List Byte
  /-- what is left of the destination buffer -/
  room : Nat
  /-- the size of all that was to be written, negative after an overflow -/
  desired : Int

namespace Writer

variable {limit failure : Int}

/-- Write one piece; the size must stay within `limit`, or becomes `failure`. -/
def put (limit failure : Int) (writer : Writer) (piece : List Byte) : Writer :=
  if writer.desired < 0 then writer
  else if writer.desired + piece.length > limit then
    { writer with desired := failure, room := 0 }
  else if piece.length > writer.room then
    { writer with desired := writer.desired + piece.length, room := 0 }
  else
    { output := writer.output ++ piece
      room := writer.room - piece.length
      desired := writer.desired + piece.length }

def putAll (limit failure : Int) (writer : Writer) (pieces : List (List Byte)) : Writer :=
  pieces.foldl (put limit failure) writer

/-- Within the limit the size counts every piece, written or not. -/
theorem putAll_desired {writer : Writer} (start : 0 ≤ writer.desired) {pieces : List (List Byte)}
    (fits : writer.desired + pieces.flatten.length ≤ limit) :
    (putAll limit failure writer pieces).desired = writer.desired + pieces.flatten.length := by
  induction pieces generalizing writer with
  | nil => simp [putAll]
  | cons piece rest ih =>
      have total : (piece :: rest).flatten.length = piece.length + rest.flatten.length := by simp
      rw [total, Int.natCast_add] at fits
      have small : ¬ writer.desired + piece.length > limit := by omega
      have counted : (put limit failure writer piece).desired = writer.desired + piece.length := by
        unfold put
        rw [if_neg (Int.not_lt.mpr start), if_neg small]
        split <;> rfl
      change (putAll limit failure (put limit failure writer piece) rest).desired = _
      rw [ih (by omega) (by omega), counted, total, Int.natCast_add, Int.add_assoc]

/-- A buffer that is large enough receives every piece. -/
theorem putAll_output {writer : Writer} (start : 0 ≤ writer.desired) {pieces : List (List Byte)}
    (fits : writer.desired + pieces.flatten.length ≤ limit)
    (enough : pieces.flatten.length ≤ writer.room) :
    (putAll limit failure writer pieces).output = writer.output ++ pieces.flatten := by
  induction pieces generalizing writer with
  | nil => simp [putAll]
  | cons piece rest ih =>
      have total : (piece :: rest).flatten.length = piece.length + rest.flatten.length := by simp
      rw [total, Int.natCast_add] at fits
      rw [total] at enough
      have small : ¬ writer.desired + piece.length > limit := by omega
      have written : put limit failure writer piece =
          { output := writer.output ++ piece
            room := writer.room - piece.length
            desired := writer.desired + piece.length } := by
        unfold put
        rw [if_neg (Int.not_lt.mpr start), if_neg small, if_neg (by omega)]
      change (putAll limit failure (put limit failure writer piece) rest).output = _
      have started : 0 ≤ writer.desired + piece.length := by omega
      have within : writer.desired + piece.length + rest.flatten.length ≤ limit := by omega
      have left : rest.flatten.length ≤ writer.room - piece.length := by omega
      rw [written, ih started within left]
      simp

/-- A writer that has failed puts out nothing more. -/
theorem putAll_failed {writer : Writer} (failed : writer.desired < 0)
    (pieces : List (List Byte)) : putAll limit failure writer pieces = writer := by
  induction pieces with
  | nil => rfl
  | cons piece rest ih =>
      have same : put limit failure writer piece = writer := if_pos failed
      change putAll limit failure (put limit failure writer piece) rest = writer
      rw [same, ih]

/-- Beyond the limit the size is lost. -/
theorem putAll_overflow (negative : failure < 0) {writer : Writer} (start : 0 ≤ writer.desired)
    {pieces : List (List Byte)} (small : writer.desired ≤ limit)
    (beyond : limit < writer.desired + pieces.flatten.length) :
    (putAll limit failure writer pieces).desired = failure := by
  induction pieces generalizing writer with
  | nil =>
      simp only [List.flatten_nil, List.length_nil] at beyond
      omega
  | cons piece rest ih =>
      have total : (piece :: rest).flatten.length = piece.length + rest.flatten.length := by simp
      rw [total, Int.natCast_add] at beyond
      change (putAll limit failure (put limit failure writer piece) rest).desired = failure
      by_cases beyond : writer.desired + piece.length > limit
      · have lost : put limit failure writer piece =
            { writer with desired := failure, room := 0 } := by
          unfold put
          rw [if_neg (Int.not_lt.mpr start), if_pos beyond]
        rw [lost, putAll_failed negative]
      · have counted :
            (put limit failure writer piece).desired = writer.desired + piece.length := by
          unfold put
          rw [if_neg (Int.not_lt.mpr start), if_neg beyond]
          split <;> rfl
        exact ih (by omega) (by omega) (by omega)

/-- A piece is put out as a whole, or the writer puts out nothing from then on. -/
theorem put_cases (writer : Writer) (piece : List Byte) :
    writer.desired < 0 ∨
    (piece.length ≤ writer.room ∧
      (put limit failure writer piece).output = writer.output ++ piece ∧
      (put limit failure writer piece).room = writer.room - piece.length) ∨
    ((put limit failure writer piece).output = writer.output ∧
      (put limit failure writer piece).room = 0) := by
  by_cases failed : writer.desired < 0
  · exact .inl failed
  refine .inr ?_
  unfold put
  rw [if_neg failed]
  by_cases beyond : writer.desired + piece.length > limit
  · rw [if_pos beyond]
    exact .inr ⟨rfl, rfl⟩
  rw [if_neg beyond]
  by_cases large : piece.length > writer.room
  · rw [if_pos large]
    exact .inr ⟨rfl, rfl⟩
  · rw [if_neg large]
    exact .inl ⟨Nat.not_lt.mp large, rfl, rfl⟩

/-- What is put out is the beginning of the pieces, and stays within the buffer. -/
theorem putAll_prefix {writer : Writer} {pieces : List (List Byte)} :
    ∃ written, (putAll limit failure writer pieces).output = writer.output ++ written ∧
      written <+: pieces.flatten ∧ written.length ≤ writer.room := by
  induction pieces generalizing writer with
  | nil => exact ⟨[], (List.append_nil _).symm, List.nil_prefix, Nat.zero_le _⟩
  | cons piece rest ih =>
      obtain ⟨written, same, first, short⟩ := @ih (put limit failure writer piece)
      change (putAll limit failure writer (piece :: rest)).output = _ at same
      rw [List.flatten_cons]
      obtain failed | ⟨enough, output, room⟩ | ⟨output, room⟩ :=
        @put_cases limit failure writer piece
      · rw [putAll_failed failed]
        exact ⟨[], (List.append_nil _).symm, List.nil_prefix, Nat.zero_le _⟩
      · rw [output, List.append_assoc] at same
        rw [room] at short
        refine ⟨piece ++ written, same, (List.prefix_append_right_inj _).mpr first, ?_⟩
        rw [List.length_append]
        omega
      · rw [room] at short
        obtain rfl := List.eq_nil_of_length_eq_zero (Nat.le_zero.mp short)
        rw [output] at same
        exact ⟨[], same, List.nil_prefix, Nat.zero_le _⟩

end Writer

end ByteStream
