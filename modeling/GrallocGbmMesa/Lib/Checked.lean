import Mathlib.Logic.Basic

/-!
# Computations that may fault

A step of a program with undefined behaviour is a value of `Except`: the error
names the fault, and a fault ends the computation.  The lemmas split a sequence
of such steps at its binds.
-/

namespace Checked

universe u v

variable {ε : Type u} {α β : Type v}

@[simp] theorem ok_bind (value : α) (rest : α → Except ε β) :
    (Except.ok value >>= rest) = rest value := rfl

@[simp] theorem error_bind (fault : ε) (rest : α → Except ε β) :
    ((Except.error fault : Except ε α) >>= rest) = .error fault := rfl

@[simp] theorem pure_eq_ok (value : α) : (pure value : Except ε α) = .ok value := rfl

/-- A sequence has a result exactly when both of its parts have one. -/
theorem bind_eq_ok {first : Except ε α} {rest : α → Except ε β} {result : β} :
    (first >>= rest) = .ok result ↔ ∃ value, first = .ok value ∧ rest value = .ok result := by
  cases first with
  | error fault => simp
  | ok value => simp

theorem map_eq_ok {first : Except ε α} {f : α → β} {result : β} :
    f <$> first = .ok result ↔ ∃ value, first = .ok value ∧ f value = result := by
  cases first with
  | error fault =>
      constructor
      · intro h; cases h
      · rintro ⟨_, h, _⟩; cases h
  | ok value =>
      change (Except.ok (f value) : Except ε β) = .ok result ↔ _
      simp

/-- The computation does not fault. -/
def Defined (computation : Except ε α) : Prop := ∃ value, computation = .ok value

/-- A loop over a list whose body takes the head off what an invariant holds of
drains the list. -/
theorem foldlM_drains {σ : Type v} {P : List α → σ → Prop} {body : σ → α → Except ε σ}
    (hbody : ∀ head rest state, P (head :: rest) state →
      ∃ next, body state head = .ok next ∧ P rest next) (items : List α) :
    ∀ state, P items state → ∃ last, items.foldlM body state = .ok last ∧ P [] last := by
  induction items with
  | nil =>
      intro state h
      exact ⟨state, rfl, h⟩
  | cons head rest ih =>
      intro state h
      obtain ⟨next, hnext, kept⟩ := hbody head rest state h
      rw [List.foldlM_cons, hnext, ok_bind]
      exact ih next kept

end Checked
