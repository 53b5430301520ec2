import Mathlib.Algebra.Ring.Nat

/-!
# Flag words

A word of flags is a bit vector.  `Within` says that every flag of one word is
set in another, `Meets` that two words share a flag: the two tests
`(mask & flags) == flags` and `(flags & mask) != 0`.
-/

namespace Bits

variable {w : Nat}

/-- Every flag of `flags` is set in `mask`. -/
def Within (flags mask : BitVec w) : Prop := mask &&& flags = flags

/-- Some flag of `flags` is set in `mask`. -/
def Meets (flags mask : BitVec w) : Prop := flags &&& mask ≠ 0#w

instance (flags mask : BitVec w) : Decidable (Within flags mask) :=
  inferInstanceAs (Decidable (_ = _))

instance (flags mask : BitVec w) : Decidable (Meets flags mask) :=
  inferInstanceAs (Decidable (_ ≠ _))

theorem within_iff_getLsbD {flags mask : BitVec w} :
    Within flags mask ↔ ∀ i, flags.getLsbD i = true → mask.getLsbD i = true := by
  constructor
  · intro h i hi
    have bit : (mask &&& flags).getLsbD i = flags.getLsbD i := by rw [h]
    rw [BitVec.getLsbD_and, hi, Bool.and_true] at bit
    exact bit
  · intro h
    apply BitVec.eq_of_getLsbD_eq
    intro i _
    rw [BitVec.getLsbD_and]
    cases hi : flags.getLsbD i with
    | false => simp
    | true => simp [h i hi]

theorem meets_iff_getLsbD {flags mask : BitVec w} :
    Meets flags mask ↔ ∃ i, flags.getLsbD i = true ∧ mask.getLsbD i = true := by
  constructor
  · intro h
    apply Classical.byContradiction
    intro none
    apply h
    apply BitVec.eq_of_getLsbD_eq
    intro i _
    rw [BitVec.getLsbD_and, BitVec.getLsbD_zero]
    cases hi : flags.getLsbD i with
    | false => simp
    | true =>
        cases hm : mask.getLsbD i with
        | false => rfl
        | true => exact absurd ⟨i, hi, hm⟩ none
  · rintro ⟨i, hi, hm⟩ zero
    have bit : (flags &&& mask).getLsbD i = (0#w).getLsbD i := by rw [zero]
    rw [BitVec.getLsbD_and, hi, hm] at bit
    simp at bit

theorem Within.refl (flags : BitVec w) : Within flags flags := BitVec.and_self

theorem Within.trans {first second third : BitVec w}
    (h : Within first second) (h' : Within second third) : Within first third := by
  rw [within_iff_getLsbD] at *
  exact fun i hi => h' i (h i hi)

/-- Adding flags that are already set changes nothing. -/
theorem Within.or_eq {flags mask : BitVec w} (h : Within flags mask) : mask ||| flags = mask := by
  rw [within_iff_getLsbD] at h
  apply BitVec.eq_of_getLsbD_eq
  intro i _
  rw [BitVec.getLsbD_or]
  cases hi : flags.getLsbD i with
  | false => simp
  | true => simp [h i hi]

theorem Within.or_eq' {flags mask : BitVec w} (h : Within flags mask) : flags ||| mask = mask := by
  rw [BitVec.or_comm]
  exact h.or_eq

theorem Within.meets {flags mask probe : BitVec w} (h : Within flags mask)
    (hm : Meets flags probe) : Meets mask probe := by
  rw [within_iff_getLsbD] at h
  rw [meets_iff_getLsbD] at hm ⊢
  obtain ⟨i, hi, hp⟩ := hm
  exact ⟨i, h i hi, hp⟩

/-- A nonzero word inside a mask shares a flag with it. -/
theorem Within.meets_of_ne_zero {flags mask : BitVec w} (h : Within flags mask)
    (nonzero : flags ≠ 0#w) : Meets flags mask := by
  unfold Meets
  rw [BitVec.and_comm, h]
  exact nonzero

theorem meets_comm {first second : BitVec w} : Meets first second ↔ Meets second first := by
  rw [Meets, Meets, BitVec.and_comm]

theorem meets_or {first second mask : BitVec w} :
    Meets (first ||| second) mask ↔ Meets first mask ∨ Meets second mask := by
  simp only [meets_iff_getLsbD, BitVec.getLsbD_or, Bool.or_eq_true]
  constructor
  · rintro ⟨i, hfirst | hsecond, hm⟩
    · exact .inl ⟨i, hfirst, hm⟩
    · exact .inr ⟨i, hsecond, hm⟩
  · rintro (⟨i, hi, hm⟩ | ⟨i, hi, hm⟩)
    · exact ⟨i, .inl hi, hm⟩
    · exact ⟨i, .inr hi, hm⟩

/-- A flag word to which a guarded flag may have been added. -/
theorem meets_ite_or {guard : Prop} [Decidable guard] {flags added mask : BitVec w} :
    Meets (if guard then flags ||| added else flags) mask ↔
      Meets flags mask ∨ (guard ∧ Meets added mask) := by
  by_cases h : guard <;> simp [h, meets_or]

/-- A flag shared with a narrower mask survives narrowing. -/
theorem Meets.of_setWidth {v : Nat} {flags : BitVec v} {mask : BitVec w}
    (h : Meets flags (mask.setWidth v)) : Meets (flags.setWidth w) mask := by
  rw [meets_iff_getLsbD] at h ⊢
  obtain ⟨i, hi, hm⟩ := h
  rw [BitVec.getLsbD_setWidth, Bool.and_eq_true] at hm
  refine ⟨i, ?_, hm.2⟩
  rw [BitVec.getLsbD_setWidth, hi, Bool.and_true, decide_eq_true_eq]
  exact BitVec.lt_of_getLsbD hm.2

/-- A mask that fits the narrow word is met before and after narrowing. -/
theorem meets_setWidth {v : Nat} {flags : BitVec w} {mask : BitVec v} (narrow : v ≤ w) :
    Meets (flags.setWidth v) mask ↔ Meets flags (mask.setWidth w) := by
  rw [meets_iff_getLsbD, meets_iff_getLsbD]
  constructor
  · rintro ⟨i, hi, hm⟩
    have inside := BitVec.lt_of_getLsbD hm
    refine ⟨i, ?_, ?_⟩
    · rw [BitVec.getLsbD_setWidth, Bool.and_eq_true] at hi
      exact hi.2
    · rw [BitVec.getLsbD_setWidth, hm, Bool.and_true, decide_eq_true_eq]
      exact Nat.lt_of_lt_of_le inside narrow
  · rintro ⟨i, hi, hm⟩
    rw [BitVec.getLsbD_setWidth, Bool.and_eq_true] at hm
    refine ⟨i, ?_, hm.2⟩
    rw [BitVec.getLsbD_setWidth, hi, Bool.and_true, decide_eq_true_eq]
    exact BitVec.lt_of_getLsbD hm.2

/-- Narrowing loses nothing exactly below the bound of the narrow word. -/
theorem setWidth_setWidth_eq_iff {v : Nat} {flags : BitVec w} (narrow : v ≤ w) :
    (flags.setWidth v).setWidth w = flags ↔ flags.toNat < 2 ^ v := by
  have bounds : 2 ^ v ≤ 2 ^ w := Nat.pow_le_pow_right (by decide) narrow
  have low : flags.toNat % 2 ^ v < 2 ^ v := Nat.mod_lt _ (Nat.two_pow_pos v)
  rw [← BitVec.toNat_inj, BitVec.toNat_setWidth, BitVec.toNat_setWidth,
    Nat.mod_eq_of_lt (Nat.lt_of_lt_of_le low bounds)]
  constructor
  · intro same
    rwa [← same]
  · intro fits
    exact Nat.mod_eq_of_lt fits

@[simp] theorem not_meets_zero (mask : BitVec w) : ¬ Meets (0#w) mask := by simp [Meets]

end Bits
