import Mathlib.Data.Finset.Card

/-!
# Partial maps and overlays

A partial map is a function into `Option`.  An overlay is a base map shadowed
by a finite list of entries: it is how a table looks once some owner has added
its entries to what was there before.  Adding a fresh key appends an entry,
erasing one filters the list, and an empty list leaves the base.
-/

namespace PartialMap

variable {κ υ : Type*}

/-- `base` shadowed by `entries`. -/
def overlay [DecidableEq κ] (entries : List (κ × υ)) (base : κ → Option υ) : κ → Option υ :=
  fun key => (entries.lookup key).or (base key)

/-- The keys of an entry list. -/
def keys (entries : List (κ × υ)) : List κ := entries.map Prod.fst

/-- `base` has none of the keys of `entries`. -/
def Fresh (entries : List (κ × υ)) (base : κ → Option υ) : Prop :=
  ∀ key ∈ keys entries, base key = none

@[simp] theorem keys_append (first second : List (κ × υ)) :
    keys (first ++ second) = keys first ++ keys second := List.map_append

variable [DecidableEq κ]

/-- What is left of a map from which a key is erased was there before. -/
theorem eq_some_of_erased {table : κ → Option υ} {key other : κ} {value : υ}
    (h : Function.update table key none other = some value) : table other = some value := by
  by_cases same : other = key
  · rw [same, Function.update_self] at h
    cases h
  · rwa [Function.update_of_ne same] at h

/-- What a map has it still has when a key is stored. -/
theorem stored_ne_none {table : κ → Option υ} {key other : κ} {value : υ}
    (h : table other ≠ none) : Function.update table key (some value) other ≠ none := by
  by_cases same : other = key
  · rw [same, Function.update_self]
    exact nofun
  · rwa [Function.update_of_ne same]

theorem lookup_eq_none {entries : List (κ × υ)} {key : κ} :
    entries.lookup key = none ↔ key ∉ keys entries := by
  rw [List.lookup_eq_none_iff]
  constructor
  · intro h hmem
    obtain ⟨entry, hentry, rfl⟩ := List.mem_map.mp hmem
    simpa using h entry hentry
  · intro h entry hentry
    rw [bne_iff_ne]
    rintro rfl
    exact h (List.mem_map.mpr ⟨entry, hentry, rfl⟩)

theorem lookup_mem {entries : List (κ × υ)} {key : κ} {value : υ}
    (h : entries.lookup key = some value) : (key, value) ∈ entries := by
  obtain ⟨before, after, rfl, _⟩ := List.lookup_eq_some_iff.mp h
  simp

omit [DecidableEq κ] in
/-- A table is checked entry by entry. -/
theorem forall_mem_of_all {entries : List (κ × υ)} {P : κ × υ → Prop} [DecidablePred P]
    (h : (entries.all fun entry => decide (P entry)) = true) : ∀ entry ∈ entries, P entry :=
  fun entry hmem => of_decide_eq_true (List.all_eq_true.mp h entry hmem)

theorem lookup_eq_some {entries : List (κ × υ)} (nodup : (keys entries).Nodup) {key : κ}
    {value : υ} (h : (key, value) ∈ entries) : entries.lookup key = some value := by
  induction entries with
  | nil => cases h
  | cons entry rest ih =>
      obtain ⟨first, head⟩ := entry
      simp only [keys, List.map_cons, List.nodup_cons] at nodup
      rw [List.lookup_cons]
      rcases List.mem_cons.mp h with same | inRest
      · cases same
        simp
      · have different : (key == first) = false := by
          rw [beq_eq_false_iff_ne]
          rintro rfl
          exact nodup.1 (List.mem_map.mpr ⟨_, inRest, rfl⟩)
        rw [different]
        exact ih nodup.2 inRest

/-- Off its keys an overlay is its base. -/
theorem overlay_of_not_mem {entries : List (κ × υ)} {key : κ} (base : κ → Option υ)
    (h : key ∉ keys entries) : overlay entries base key = base key := by
  simp [overlay, lookup_eq_none.mpr h]

theorem overlay_of_mem {entries : List (κ × υ)} (nodup : (keys entries).Nodup) {key : κ}
    {value : υ} (base : κ → Option υ) (h : (key, value) ∈ entries) :
    overlay entries base key = some value := by
  simp [overlay, lookup_eq_some nodup h]

theorem overlay_eq_none {entries : List (κ × υ)} {base : κ → Option υ} {key : κ} :
    overlay entries base key = none ↔ key ∉ keys entries ∧ base key = none := by
  unfold overlay
  rw [Option.or_eq_none_iff, lookup_eq_none]

/-- Every entry of an overlay comes from its list or from its base. -/
theorem overlay_eq_some {entries : List (κ × υ)} {base : κ → Option υ} {key : κ} {value : υ}
    (h : overlay entries base key = some value) :
    (key, value) ∈ entries ∨ base key = some value := by
  unfold overlay at h
  rw [Option.or_eq_some_iff] at h
  rcases h with found | ⟨_, found⟩
  · exact .inl (lookup_mem found)
  · exact .inr found

/-- Storing under a fresh key appends an entry. -/
theorem update_overlay {entries : List (κ × υ)} {key : κ} (value : υ) (base : κ → Option υ)
    (h : key ∉ keys entries) :
    Function.update (overlay entries base) key (some value) =
      overlay (entries ++ [(key, value)]) base := by
  funext probe
  by_cases same : probe = key
  · subst same
    rw [Function.update_self]
    simp [overlay, List.lookup_append, lookup_eq_none.mpr h]
  · rw [Function.update_of_ne same]
    have missed : List.lookup probe [(key, value)] = none := by
      rw [List.lookup_cons, beq_false_of_ne same]
      rfl
    simp [overlay, List.lookup_append, missed]

theorem lookup_filter_ne (entries : List (κ × υ)) {key probe : κ} (h : probe ≠ key) :
    (entries.filter fun entry => entry.1 ≠ key).lookup probe = entries.lookup probe := by
  induction entries with
  | nil => rfl
  | cons entry rest ih =>
      obtain ⟨first, value⟩ := entry
      by_cases hit : first = key
      · subst hit
        rw [List.filter_cons_of_neg (by simp), List.lookup_cons, beq_false_of_ne h]
        exact ih
      · rw [List.filter_cons_of_pos (by simpa using hit), List.lookup_cons,
          List.lookup_cons, ih]

/-- Erasing a key the base does not have filters the entries. -/
theorem erase_overlay (entries : List (κ × υ)) {base : κ → Option υ} {key : κ}
    (h : base key = none) :
    Function.update (overlay entries base) key none =
      overlay (entries.filter fun entry => entry.1 ≠ key) base := by
  funext probe
  by_cases same : probe = key
  · subst same
    rw [Function.update_self, overlay_of_not_mem base, h]
    intro hmem
    obtain ⟨entry, hentry, rfl⟩ := List.mem_map.mp hmem
    simp at hentry
  · rw [Function.update_of_ne same]
    unfold overlay
    rw [lookup_filter_ne entries same]

/-- A table without some of its keys. -/
def without (table : κ → Option υ) (dropped : List κ) : κ → Option υ :=
  fun key => if key ∈ dropped then none else table key

theorem without_of_mem (table : κ → Option υ) {dropped : List κ} {key : κ} (h : key ∈ dropped) :
    without table dropped key = none := if_pos h

/-- Entries that a table has are the entries of an overlay of what else it has. -/
theorem overlay_without {entries : List (κ × υ)} {table : κ → Option υ}
    (has : ∀ key value, (key, value) ∈ entries → table key = some value) :
    overlay entries (without table (keys entries)) = table := by
  funext key
  unfold overlay
  cases found : entries.lookup key with
  | none =>
      rw [Option.none_or]
      exact if_neg (lookup_eq_none.mp found)
  | some value =>
      rw [Option.some_or]
      exact (has key value (lookup_mem found)).symm

/-! ## Tables with an owner -/

/-- `table` is `base` with entries added under distinct keys it did not have. -/
structure Overlaid (entries : List (κ × υ)) (base table : κ → Option υ) : Prop where
  eq : table = overlay entries base
  nodup : (keys entries).Nodup
  fresh : Fresh entries base

namespace Overlaid

variable {entries : List (κ × υ)} {base table : κ → Option υ} {key : κ} {value : υ}

theorem refl (base : κ → Option υ) : Overlaid [] base base :=
  ⟨rfl, List.nodup_nil, fun _ hkey => nomatch hkey⟩

theorem eq_base (h : Overlaid [] base table) : table = base := h.eq

theorem of_mem (h : Overlaid entries base table) (hmem : (key, value) ∈ entries) :
    table key = some value := by
  rw [h.eq]
  exact overlay_of_mem h.nodup base hmem

/-- A key that is free becomes an entry. -/
theorem store (h : Overlaid entries base table) (free : table key = none) (value : υ) :
    Overlaid (entries ++ [(key, value)]) base (Function.update table key (some value)) := by
  rw [h.eq, overlay_eq_none] at free
  refine ⟨?_, ?_, ?_⟩
  · rw [h.eq, update_overlay value base free.1]
  · rw [keys_append]
    exact h.nodup.append (List.nodup_singleton key) (List.disjoint_singleton.mpr free.1)
  · intro other hother
    rw [keys_append] at hother
    rcases List.mem_append.mp hother with before | new
    · exact h.fresh other before
    · rw [List.mem_singleton.mp new]
      exact free.2

/-- An entry that is erased is gone. -/
theorem erase (h : Overlaid entries base table) (hkey : key ∈ keys entries) :
    Overlaid (entries.filter fun entry => entry.1 ≠ key) base (Function.update table key none) where
  eq := by rw [h.eq, erase_overlay entries (h.fresh key hkey)]
  nodup := h.nodup.sublist (List.filter_sublist.map Prod.fst)
  fresh other hother := h.fresh other ((List.filter_sublist.map Prod.fst).subset hother)

/-- The first entry leaves the others when it is erased. -/
theorem erase_head (h : Overlaid ((key, value) :: entries) base table) :
    Overlaid entries base (Function.update table key none) := by
  have erased := h.erase (List.mem_cons_self : key ∈ keys ((key, value) :: entries))
  have kept : ((key, value) :: entries).filter (fun entry => entry.1 ≠ key) = entries := by
    rw [List.filter_cons_of_neg (by simp), List.filter_eq_self]
    intro entry hentry
    rw [decide_eq_true_eq]
    rintro rfl
    exact (List.nodup_cons.mp h.nodup).1 (List.mem_map.mpr ⟨entry, hentry, rfl⟩)
  rwa [kept] at erased

/-- What is added to an overlaid table is added to its base. -/
theorem trans {more : List (κ × υ)} {next : κ → Option υ} (h : Overlaid entries base table)
    (h' : Overlaid more table next) : Overlaid (entries ++ more) base next := by
  have split {probe : κ} (hprobe : probe ∈ keys more) :
      probe ∉ keys entries ∧ base probe = none := by
    have free := h'.fresh probe hprobe
    rwa [h.eq, overlay_eq_none] at free
  refine ⟨?_, ?_, ?_⟩
  · funext probe
    rw [h'.eq, h.eq]
    unfold overlay
    rw [List.lookup_append, ← Option.or_assoc]
    by_cases hprobe : probe ∈ keys more
    · rw [lookup_eq_none.mpr (split hprobe).1, (split hprobe).2]
      simp
    · rw [lookup_eq_none.mpr hprobe]
      simp
  · rw [keys_append]
    refine h.nodup.append h'.nodup ?_
    intro probe before after
    exact (split after).1 before
  · intro probe hprobe
    rw [keys_append] at hprobe
    rcases List.mem_append.mp hprobe with before | after
    · exact h.fresh probe before
    · exact (split after).2

end Overlaid

/-! ## Keys in use -/

section Present

variable {candidates owned made : Finset κ} {table : κ → Option υ} {key : κ}

/-- Those of some keys that a table has. -/
def present (candidates : Finset κ) (table : κ → Option υ) : Finset κ :=
  candidates.filter fun key => (table key).isSome

omit [DecidableEq κ] in
theorem mem_present : key ∈ present candidates table ↔ key ∈ candidates ∧ table key ≠ none := by
  unfold present
  rw [Finset.mem_filter, Option.isSome_iff_ne_none]

/-- Keys that are all in use stay the owner's, with those that it has got. -/
theorem present_union (had : ∀ key ∈ owned, table key ≠ none) :
    present (owned ∪ made) table = owned ∪ present made table := by
  ext key
  rw [mem_present, Finset.mem_union, Finset.mem_union, mem_present]
  constructor
  · rintro ⟨before | new, taken⟩
    · exact .inl before
    · exact .inr ⟨new, taken⟩
  · rintro (before | ⟨new, taken⟩)
    · exact ⟨.inl before, had key before⟩
    · exact ⟨.inr new, taken⟩

omit [DecidableEq κ] in
theorem present_eq_empty (free : ∀ key ∈ candidates, table key = none) :
    present candidates table = ∅ := by
  ext key
  rw [mem_present]
  exact iff_of_false (fun ⟨new, taken⟩ => taken (free key new)) (Finset.notMem_empty key)

omit [DecidableEq κ] in
theorem present_eq_self (had : ∀ key ∈ candidates, table key ≠ none) :
    present candidates table = candidates := by
  ext key
  rw [mem_present]
  exact and_iff_left_of_imp (had key)

/-- A key that is stored joins those in use. -/
theorem present_store (had : ∀ key ∈ owned, table key ≠ none) (key : κ) (value : υ) :
    present (owned ∪ {key}) (Function.update table key (some value)) = insert key owned := by
  have stored : ∀ other ∈ ({key} : Finset κ),
      Function.update table key (some value) other ≠ none := by
    intro other hmem
    rw [Finset.mem_singleton.mp hmem, Function.update_self]
    exact nofun
  rw [present_union fun other hmem => stored_ne_none (had other hmem), present_eq_self stored,
    Finset.union_comm]
  rfl

end Present

end PartialMap
