import Mathlib.Logic.Relation

/-!
# Finite runs of labelled transition systems

A system is a set of initial states and a labelled step relation.  A run keeps
the list of its labels, so that a property may speak of the history of a run as
well as of its last state.
-/

namespace TransitionSystem

universe u v

/-- A labelled transition system. -/
structure System (State : Type u) (Label : Type v) where
  initial : State → Prop
  step : State → Label → State → Prop

variable {State : Type u} {Label : Type v} {sys : System State Label}

/-- Finite runs, labels listed from the oldest to the newest. -/
inductive Run (sys : System State Label) (first : State) : List Label → State → Prop where
  | refl : Run sys first [] first
  | tail {labels : List Label} {middle last : State} {label : Label} :
      Run sys first labels middle → sys.step middle label last →
      Run sys first (labels ++ [label]) last

/-- The system whose steps lead from and to states with a property. -/
def System.within (sys : System State Label) (P : State → Prop) : System State Label where
  initial state := sys.initial state ∧ P state
  step state label next := P state ∧ sys.step state label next ∧ P next

/-- The system whose steps meet a guard on the state they are taken in. -/
def System.guarded (sys : System State Label) (Guard : State → Label → Prop) :
    System State Label where
  initial := sys.initial
  step state label next := Guard state label ∧ sys.step state label next

/-- States that some run reaches from an initial state. -/
def Reachable (sys : System State Label) (state : State) : Prop :=
  ∃ first labels, sys.initial first ∧ Run sys first labels state

namespace Run

theorem single {first last : State} {label : Label}
    (hstep : sys.step first label last) : Run sys first [label] last :=
  .tail .refl hstep

theorem trans {first middle last : State} {before after : List Label}
    (hbefore : Run sys first before middle) (hafter : Run sys middle after last) :
    Run sys first (before ++ after) last := by
  induction hafter with
  | refl => simpa using hbefore
  | tail hprefix hstep ih =>
      rw [← List.append_assoc]
      exact .tail ih hstep

/-- A label of a run is that of one of its steps. -/
theorem step_of_mem {first last : State} {labels : List Label} {label : Label}
    (run : Run sys first labels last) (hmem : label ∈ labels) :
    ∃ before state next, Run sys first before state ∧ sys.step state label next := by
  induction run with
  | refl => cases hmem
  | @tail labels middle last newest hprefix hstep ih =>
      rcases List.mem_append.mp hmem with earlier | now
      · exact ih earlier
      · obtain rfl := List.mem_singleton.mp now
        exact ⟨labels, middle, last, hprefix, hstep⟩

theorem of_guarded {Guard : State → Label → Prop} {first last : State} {labels : List Label}
    (run : Run (sys.guarded Guard) first labels last) : Run sys first labels last := by
  induction run with
  | refl => exact .refl
  | tail hprefix hstep ih => exact .tail ih hstep.2

/-- A run takes only guarded steps if the guard asks nothing of its labels. -/
theorem to_guarded {Guard : State → Label → Prop} {first last : State} {labels : List Label}
    (run : Run sys first labels last) (free : ∀ label ∈ labels, ∀ state, Guard state label) :
    Run (sys.guarded Guard) first labels last := by
  induction run with
  | refl => exact .refl
  | tail hprefix hstep ih =>
      have before := ih fun label hmem => free label (List.mem_append_left _ hmem)
      exact before.tail ⟨free _ (by simp) _, hstep⟩

/-- A relation between histories and states holds along a whole run once it
holds of the empty history and survives every step. -/
theorem history_invariant {first last : State} {labels : List Label}
    (run : Run sys first labels last) (Inv : List Label → State → Prop) (base : Inv [] first)
    (keep : ∀ {history state label next}, Inv history state →
      sys.step state label next → Inv (history ++ [label]) next) :
    Inv labels last := by
  induction run with
  | refl => exact base
  | tail hprefix hstep ih => exact keep ih hstep

/-- The invariant rule for runs whose labels all satisfy a guard. -/
theorem guarded_invariant {first last : State} {labels : List Label}
    (run : Run sys first labels last) (Inv : State → Prop) (Guard : Label → Prop)
    (guarded : ∀ label ∈ labels, Guard label) (base : Inv first)
    (keep : ∀ {state label next}, Guard label → Inv state →
      sys.step state label next → Inv next) :
    Inv last := by
  induction run with
  | refl => exact base
  | tail hprefix hstep ih =>
      have before := ih fun label hmem => guarded label (List.mem_append_left _ hmem)
      exact keep (guarded _ (by simp)) before hstep

/-- The invariant rule. -/
theorem invariant {first last : State} {labels : List Label}
    (run : Run sys first labels last) (Inv : State → Prop) (base : Inv first)
    (keep : ∀ {state label next}, Inv state → sys.step state label next → Inv next) :
    Inv last :=
  run.guarded_invariant Inv (fun _ => True) (fun _ _ => trivial) base fun _ => keep

/-- Two guards that agree on the steps from the states of an invariant have the same runs. -/
theorem guarded_iff {Guard Guard' : State → Label → Prop} {first last : State}
    {labels : List Label} (Inv : State → Prop) (base : Inv first)
    (keep : ∀ {state label next}, Inv state → (sys.guarded Guard').step state label next → Inv next)
    (agree : ∀ {state label next}, Inv state → sys.step state label next →
      (Guard state label ↔ Guard' state label)) :
    Run (sys.guarded Guard) first labels last ↔ Run (sys.guarded Guard') first labels last := by
  constructor
  · intro run
    induction run with
    | refl => exact .refl
    | tail hprefix hstep ih =>
        have inv := ih.invariant Inv base keep
        exact ih.tail ⟨(agree inv hstep.2).mp hstep.1, hstep.2⟩
  · intro run
    induction run with
    | refl => exact .refl
    | tail hprefix hstep ih =>
        have inv := hprefix.invariant Inv base keep
        exact ih.tail ⟨(agree inv hstep.2).mpr hstep.1, hstep.2⟩

end Run

namespace Reachable

theorem of_initial {state : State} (h : sys.initial state) : Reachable sys state :=
  ⟨state, [], h, .refl⟩

theorem step {state next : State} {label : Label} (h : Reachable sys state)
    (hstep : sys.step state label next) : Reachable sys next := by
  obtain ⟨first, labels, hfirst, run⟩ := h
  exact ⟨first, labels ++ [label], hfirst, .tail run hstep⟩

/-- An invariant of every reachable state. -/
theorem invariant {state : State} (h : Reachable sys state) (Inv : State → Prop)
    (base : ∀ {first}, sys.initial first → Inv first)
    (keep : ∀ {state label next}, Inv state → sys.step state label next → Inv next) :
    Inv state := by
  obtain ⟨first, labels, hfirst, run⟩ := h
  exact run.invariant Inv (base hfirst) keep

end Reachable

end TransitionSystem
