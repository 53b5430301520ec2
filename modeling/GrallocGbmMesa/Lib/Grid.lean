import Mathlib.Data.Set.Lattice
import Mathlib.Order.CompletePartialOrder

/-!
# Grids of samples

The addresses of the samples of an image: rows at one distance from each other, and in a
row samples at another.  Two grids are apart if one ends before the other begins, or if
their addresses differ modulo both distances.
-/

namespace Grid

variable {base base' rowStride step width height i i' j j' : ℕ}

/-- The address of a sample. -/
def sample (base rowStride step i j : ℕ) : ℕ := base + rowStride * j + step * i

/-- The addresses of a grid. -/
def bytes (base rowStride step width height : ℕ) : Set ℕ :=
  {address | ∃ i j, i < width ∧ j < height ∧ address = sample base rowStride step i j}

/-- The distance from the first sample to the last. -/
def extent (rowStride step width height : ℕ) : ℕ := rowStride * (height - 1) + step * (width - 1)

theorem sample_mem (column : i < width) (row : j < height) :
    sample base rowStride step i j ∈ bytes base rowStride step width height :=
  ⟨i, j, column, row, rfl⟩

theorem le_of_mem {address : ℕ} (h : address ∈ bytes base rowStride step width height) :
    base ≤ address := by
  obtain ⟨i, j, -, -, rfl⟩ := h
  exact Nat.le_trans (Nat.le_add_right ..) (Nat.le_add_right ..)

theorem le_last_of_mem {address : ℕ} (h : address ∈ bytes base rowStride step width height) :
    address ≤ base + extent rowStride step width height := by
  obtain ⟨i, j, column, row, rfl⟩ := h
  have rows := Nat.mul_le_mul_left rowStride (show j ≤ height - 1 by omega)
  have columns := Nat.mul_le_mul_left step (show i ≤ width - 1 by omega)
  unfold sample extent
  omega

/-- The samples of a grid end before a limit exactly if the last of them does. -/
theorem below_iff (columns : 0 < width) (rows : 0 < height) {limit : ℕ} :
    (∀ address ∈ bytes base rowStride step width height, address < limit) ↔
      base + extent rowStride step width height < limit := by
  constructor
  · intro below
    have last : sample base rowStride step (width - 1) (height - 1) < limit :=
      below _ (sample_mem (Nat.sub_lt columns Nat.one_pos) (Nat.sub_lt rows Nat.one_pos))
    unfold sample at last
    unfold extent
    omega
  · intro last address hmem
    exact Nat.lt_of_le_of_lt (le_last_of_mem hmem) last

/-- Samples without gaps end before the row after the last. -/
theorem extent_lt_rows (columns : 0 < width) (rows : 0 < height) (narrow : width ≤ rowStride) :
    extent rowStride 1 width height < rowStride * height := by
  have last : rowStride * (height - 1) + rowStride = rowStride * height := by
    rw [← Nat.mul_succ, Nat.succ_eq_add_one, Nat.sub_add_cancel rows]
  unfold extent
  omega

theorem disjoint_of_before {rowStride' step' width' height' : ℕ}
    (before : base + extent rowStride step width height < base') :
    Disjoint (bytes base rowStride step width height)
      (bytes base' rowStride' step' width' height') := by
  refine Set.disjoint_left.mpr fun address first second => ?_
  have upper := le_last_of_mem first
  have lower := le_of_mem second
  omega

/-- Interleaved grids do not meet. -/
theorem disjoint_of_mod {d width' height' : ℕ} (rows : d ∣ rowStride) (columns : d ∣ step)
    (apart : base % d ≠ base' % d) :
    Disjoint (bytes base rowStride step width height)
      (bytes base' rowStride step width' height') := by
  have residue (base i j : ℕ) : sample base rowStride step i j % d = base % d := by
    obtain ⟨r, rfl⟩ := rows
    obtain ⟨c, rfl⟩ := columns
    unfold sample
    rw [Nat.mul_assoc, Nat.mul_assoc, Nat.add_mul_mod_self_left, Nat.add_mul_mod_self_left]
  refine Set.disjoint_left.mpr ?_
  rintro _ ⟨i, j, -, -, rfl⟩ ⟨i', j', -, -, same⟩
  apply apart
  rw [← residue base i j, same, residue]

/-- Samples without gaps, repeated from their last row or from further on. -/
theorem disjoint_shift_iff {shift : ℕ} (columns : 0 < width) (rows : 0 < height)
    (later : rowStride * (height - 1) ≤ shift) :
    Disjoint (bytes base rowStride 1 width height)
        (bytes (base + shift) rowStride 1 width height) ↔
      rowStride * (height - 1) + width ≤ shift := by
  constructor
  · intro apart
    by_contra overlap
    -- the first sample of the second grid is one of the last row of the first
    have first : base + shift ∈ bytes (base + shift) rowStride 1 width height :=
      ⟨0, 0, columns, rows, by simp [sample]⟩
    refine Set.disjoint_left.mp apart ⟨shift - rowStride * (height - 1), height - 1, ?_, ?_, ?_⟩
      first
    · omega
    · exact Nat.sub_lt rows Nat.one_pos
    · unfold sample
      omega
  · intro before
    apply disjoint_of_before
    unfold extent
    omega

/-- Rows that are no wider than their distance hold every sample apart. -/
theorem sample_injective (gap : 0 < step) (narrow : step * (width - 1) < rowStride)
    (left : i < width) (right : i' < width)
    (same : sample base rowStride step i j = sample base rowStride step i' j') :
    i = i' ∧ j = j' := by
  have inside {i : ℕ} (column : i < width) : step * i < rowStride :=
    Nat.lt_of_le_of_lt (Nat.mul_le_mul_left step (by omega)) narrow
  have positive : 0 < rowStride := Nat.lt_of_le_of_lt (Nat.zero_le _) narrow
  unfold sample at same
  have offsets : rowStride * j + step * i = rowStride * j' + step * i' := by omega
  have columns := congrArg (fun offset => offset % rowStride) offsets
  have rows := congrArg (fun offset => offset / rowStride) offsets
  simp only [Nat.mul_add_mod, Nat.mod_eq_of_lt (inside left), Nat.mod_eq_of_lt (inside right)]
    at columns
  simp only [Nat.mul_add_div positive, Nat.div_eq_of_lt (inside left),
    Nat.div_eq_of_lt (inside right), Nat.add_zero] at rows
  exact ⟨Nat.eq_of_mul_eq_mul_left gap columns, rows⟩

end Grid
