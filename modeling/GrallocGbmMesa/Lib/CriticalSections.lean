import Mathlib.Data.Nat.Notation
import Mathlib.Logic.Function.Basic
import GrallocGbmMesa.Lib.Run

/-!
# Critical sections

Threads that call, each in its own time, a program that runs under one lock.  The program moves
one step at a time and the threads move in any order; what comes of it is what comes of the calls
one after the other, in the order in which they release the lock.  A call returns as it does so:
what its thread does between the release and the return is its own, and nobody sees it.
-/

namespace CriticalSections

open TransitionSystem

universe u

/-- A program that starts at a place that its arguments name, and at every place goes on at
another one or has a result. -/
structure Program (Shared Args Local Result ε : Type u) where
  start : Args → Local
  step : Local → Shared → Except ε ((Local ⊕ Result) × Shared)

variable {Shared Args Local Result Thread ε : Type u}

section Programs

variable (program : Program Shared Args Local Result ε)

/-- The program gets from one place to another one. -/
inductive Reaches (start : Local) (first : Shared) : Local → Shared → Prop where
  | refl : Reaches start first start first
  | tail {place next : Local} {shared last : Shared} :
      Reaches start first place shared → program.step place shared = .ok (.inl next, last) →
      Reaches start first next last

/-- The program comes to a result, in as many steps. -/
inductive Ends : ℕ → Local → Shared → Result → Shared → Prop where
  | result {place : Local} {shared last : Shared} {result : Result} :
      program.step place shared = .ok (.inr result, last) → Ends 1 place shared result last
  | next {steps : ℕ} {place next : Local} {shared between last : Shared} {result : Result} :
      program.step place shared = .ok (.inl next, between) →
      Ends steps next between result last → Ends (steps + 1) place shared result last

/-- The program comes to a result. -/
def Comes (place : Local) (shared : Shared) (result : Result) (last : Shared) : Prop :=
  ∃ steps, Ends program steps place shared result last

/-- A call of the program. -/
def Returns (args : Args) : Shared → Result → Shared → Prop := Comes program (program.start args)

/-- The calls one after the other. -/
def serial : System Shared (Thread × Args × Result) where
  initial _ := True
  step shared call next := Returns program call.2.1 shared call.2.2 next

end Programs

variable {program : Program Shared Args Local Result ε}

section Steps

variable {place next : Local} {shared between last final : Shared} {result answer : Result}

theorem comes_result (h : program.step place shared = .ok (.inr answer, final)) :
    Comes program place shared result last ↔ answer = result ∧ final = last := by
  constructor
  · rintro ⟨_, stops | ⟨goesOn, _⟩⟩
    · cases h.symm.trans stops
      exact ⟨rfl, rfl⟩
    · cases h.symm.trans goesOn
  · rintro ⟨rfl, rfl⟩
    exact ⟨1, .result h⟩

theorem comes_next (h : program.step place shared = .ok (.inl next, between)) :
    Comes program place shared result last ↔ Comes program next between result last := by
  constructor
  · rintro ⟨_, stops | ⟨goesOn, ends⟩⟩
    · cases h.symm.trans stops
    · cases h.symm.trans goesOn
      exact ⟨_, ends⟩
  · rintro ⟨steps, ends⟩
    exact ⟨steps + 1, .next h ends⟩

theorem not_comes {fault : ε} (h : program.step place shared = .error fault) :
    ¬ Comes program place shared result last := by
  rintro ⟨_, stops | ⟨goesOn, _⟩⟩
  · cases h.symm.trans stops
  · cases h.symm.trans goesOn

theorem Reaches.comes {start : Local} {first : Shared}
    (h : Reaches program start first place shared)
    (comes : Comes program place shared result last) : Comes program start first result last := by
  induction h with
  | refl => exact comes
  | tail _ moved ih => exact ih ((comes_next moved).mpr comes)

end Steps

/-- Whatever is ready takes a step, to a result or nearer to one. -/
def Bounded (program : Program Shared Args Local Result ε) (Ready : Local → Shared → Prop)
    (left : Local → ℕ) : Prop :=
  ∀ place shared, Ready place shared → ∃ outcome last,
    program.step place shared = .ok (outcome, last) ∧
      ∀ next, outcome = .inl next → Ready next last ∧ left next < left place

namespace Bounded

variable {Ready : Local → Shared → Prop} {left : Local → ℕ} {place : Local} {shared : Shared}

theorem reaches {start : Local} {first : Shared} (h : Bounded program Ready left)
    (ready : Ready start first) (run : Reaches program start first place shared) :
    Ready place shared := by
  induction run with
  | refl => exact ready
  | tail _ moved ih =>
      obtain ⟨outcome, last, stepped, goesOn⟩ := h _ _ ih
      cases stepped.symm.trans moved
      exact (goesOn _ rfl).1

theorem ends (h : Bounded program Ready left) (ready : Ready place shared) :
    ∃ steps result last, Ends program steps place shared result last ∧ steps ≤ left place + 1 := by
  generalize fuel : left place = n
  induction n using Nat.strongRecOn generalizing place shared with
  | ind n ih =>
      obtain ⟨outcome, last, stepped, goesOn⟩ := h place shared ready
      cases outcome with
      | inr result => exact ⟨1, result, last, .result stepped, Nat.le_add_left 1 n⟩
      | inl next =>
          obtain ⟨ready, nearer⟩ := goesOn next rfl
          rw [fuel] at nearer
          obtain ⟨steps, result, final, ends, few⟩ := ih (left next) nearer ready rfl
          exact ⟨steps + 1, result, final, .next stepped ends, by omega⟩

end Bounded

/-! ## Threads -/

/-- Where a thread is in its call. -/
inductive Phase (Args Local Result : Type u) where
  | idle
  | waiting (args : Args)
  | inside (args : Args) (place : Local)
  | leaving (args : Args) (result : Result)

namespace Phase

/-- The thread holds the lock. -/
def Holds : Phase Args Local Result → Prop
  | idle | waiting _ => False
  | inside _ _ | leaving _ _ => True

/-- Where a step leaves a call. -/
def moved (args : Args) : Local ⊕ Result → Phase Args Local Result
  | .inl place => inside args place
  | .inr result => leaving args result

theorem holds_moved (args : Args) (outcome : Local ⊕ Result) : (moved args outcome).Holds := by
  cases outcome <;> trivial

end Phase

structure State (Shared Args Local Result Thread : Type u) where
  shared : Shared
  owner : Option Thread
  phase : Thread → Phase Args Local Result

inductive Label (Args Result Thread : Type u) where
  | call (thread : Thread) (args : Args)
  | acquire (thread : Thread)
  | step (thread : Thread)
  | release (thread : Thread) (args : Args) (result : Result)

namespace Label

/-- A call that returns, and what it returns. -/
def returned : Label Args Result Thread → Option (Thread × Args × Result)
  | release thread args result => some (thread, args, result)
  | call .. | acquire _ | step _ => none

end Label

/-- The calls that have returned, in the order in which they released the lock. -/
def returns (history : List (Label Args Result Thread)) : List (Thread × Args × Result) :=
  history.filterMap Label.returned

theorem returns_append (history : List (Label Args Result Thread))
    (label : Label Args Result Thread) :
    returns (history ++ [label]) = returns history ++ label.returned.toList := by
  unfold returns
  rw [List.filterMap_append]
  cases label <;> rfl

/-! ## One thread at a time -/

variable {first : Shared} {history : List (Label Args Result Thread)}
  {state next : State Shared Args Local Result Thread} {label : Label Args Result Thread}
  {thread : Thread} {args : Args}

/-- The thread that has the lock is the one that is inside. -/
def Exclusive (state : State Shared Args Local Result Thread) : Prop :=
  ∀ thread, (state.phase thread).Holds ↔ state.owner = some thread

namespace Exclusive

theorem owner_of_inside (h : Exclusive state) {place : Local}
    (inside : state.phase thread = .inside args place) : state.owner = some thread :=
  (h thread).mp (by rw [inside]; trivial)

theorem owner_of_leaving (h : Exclusive state) {result : Result}
    (leaving : state.phase thread = .leaving args result) : state.owner = some thread :=
  (h thread).mp (by rw [leaving]; trivial)

theorem not_owner_of_idle (h : Exclusive state) (idle : state.phase thread = .idle) :
    state.owner ≠ some thread := by
  intro owner
  have holds := (h thread).mpr owner
  rw [idle] at holds
  exact holds

end Exclusive

/-- Whoever is inside is at a quiet place. -/
def AllQuiet (Quiet : Local → Prop) (state : State Shared Args Local Result Thread) : Prop :=
  ∀ thread args place, state.phase thread = .inside args place → Quiet place

theorem AllQuiet.of_free {Quiet : Local → Prop} (exclusive : Exclusive state)
    (free : state.owner = none) : AllQuiet Quiet state := by
  intro other args place inside
  exact absurd (free.symm.trans (exclusive.owner_of_inside inside)) nofun

variable [DecidableEq Thread]

def State.move (state : State Shared Args Local Result Thread) (thread : Thread)
    (phase : Phase Args Local Result) : State Shared Args Local Result Thread :=
  { state with phase := Function.update state.phase thread phase }

/-- The threads, under a lock that one of them has at a time. -/
def system (program : Program Shared Args Local Result ε) :
    System (State Shared Args Local Result Thread) (Label Args Result Thread) where
  initial state := state.owner = none ∧ ∀ thread, state.phase thread = .idle
  step state label next :=
    match label with
    | .call thread args => state.phase thread = .idle ∧ next = state.move thread (.waiting args)
    | .acquire thread => ∃ args, state.phase thread = .waiting args ∧ state.owner = none ∧
        next = { state.move thread (.inside args (program.start args)) with owner := some thread }
    | .step thread => ∃ args place outcome shared, state.phase thread = .inside args place ∧
        program.step place state.shared = .ok (outcome, shared) ∧
        next = { state.move thread (.moved args outcome) with shared }
    | .release thread args result => state.phase thread = .leaving args result ∧
        next = { state.move thread .idle with owner := none }

namespace Exclusive

theorem initial (h : (system program).initial state) : Exclusive state := by
  obtain ⟨free, idle⟩ := h
  intro thread
  rw [idle thread, free]
  exact iff_of_false id nofun

/-- The lock changes hands only between the thread that moves and nobody. -/
theorem move (h : Exclusive state) {thread : Thread} {phase : Phase Args Local Result}
    {shared : Shared} {owner : Option Thread} (self : phase.Holds ↔ owner = some thread)
    (others : ∀ other, other ≠ thread → (state.owner = some other ↔ owner = some other)) :
    Exclusive { state.move thread phase with shared, owner } := by
  intro other
  by_cases same : other = thread
  · subst same
    simpa only [State.move, Function.update_self] using self
  · simp only [State.move, Function.update_of_ne same]
    exact (h other).trans (others other same)

theorem step (h : Exclusive state) (hstep : (system program).step state label next) :
    Exclusive next := by
  cases label with
  | call thread args =>
      obtain ⟨idle, rfl⟩ := hstep
      exact h.move (iff_of_false id (h.not_owner_of_idle idle)) fun other _ => .rfl
  | acquire thread =>
      obtain ⟨args, -, free, rfl⟩ := hstep
      refine h.move (iff_of_true trivial rfl) fun other different => ?_
      rw [free]
      exact iff_of_false nofun fun same => different (Option.some.inj same).symm
  | step thread =>
      obtain ⟨args, place, outcome, shared, inside, -, rfl⟩ := hstep
      have owner := h.owner_of_inside inside
      exact h.move (iff_of_true (Phase.holds_moved args outcome) owner) fun other _ => .rfl
  | release thread args result =>
      obtain ⟨leaving, rfl⟩ := hstep
      refine h.move (iff_of_false id nofun) fun other different => ?_
      rw [h.owner_of_leaving leaving]
      exact iff_of_false (fun same => different (Option.some.inj same).symm) nofun

end Exclusive

/-! ## Any order is a serial one -/

/-- What the thread that has the lock has done since `before`. -/
def Progress (program : Program Shared Args Local Result ε) (before after : Shared) :
    Phase Args Local Result → Prop
  | .inside args place => Reaches program (program.start args) before place after
  | .leaving args result => Returns program args before result after
  | .idle | .waiting _ => False

/-- The calls that have returned are serial, and one thread at most is beyond them. -/
structure Serialised (program : Program Shared Args Local Result ε) (first : Shared)
    (history : List (Label Args Result Thread)) (state : State Shared Args Local Result Thread) :
    Prop where
  exclusive : Exclusive state
  serial : ∃ before, Run (serial program) first (returns history) before ∧
    (state.owner = none → state.shared = before) ∧
    ∀ thread, state.owner = some thread → Progress program before state.shared (state.phase thread)

namespace Serialised

theorem call (h : Serialised program first history state)
    (hstep : (system program).step state (.call thread args) next) :
    Serialised program first (history ++ [.call thread args]) next := by
  refine ⟨h.exclusive.step hstep, ?_⟩
  obtain ⟨idle, rfl⟩ := hstep
  obtain ⟨before, run, free, held⟩ := h.serial
  refine ⟨before, ?_, free, fun other owner => ?_⟩
  · rw [returns_append]
    simpa [Label.returned] using run
  · have different : other ≠ thread := by
      rintro rfl
      exact h.exclusive.not_owner_of_idle idle owner
    simp only [State.move, Function.update_of_ne different]
    exact held other owner

theorem acquire (h : Serialised program first history state)
    (hstep : (system program).step state (.acquire thread) next) :
    Serialised program first (history ++ [.acquire thread]) next := by
  refine ⟨h.exclusive.step hstep, ?_⟩
  obtain ⟨args, -, free, rfl⟩ := hstep
  obtain ⟨before, run, quiet, -⟩ := h.serial
  refine ⟨before, ?_, nofun, ?_⟩
  · rw [returns_append]
    simpa [Label.returned] using run
  · rintro _ ⟨⟩
    simp only [State.move, Function.update_self, quiet free]
    exact .refl

/-- The thread that has the lock goes on. -/
theorem goOn (h : Serialised program first history state)
    (hstep : (system program).step state (.step thread) next) :
    Serialised program first (history ++ [.step thread]) next := by
  refine ⟨h.exclusive.step hstep, ?_⟩
  obtain ⟨args, place, outcome, shared, inside, steps, rfl⟩ := hstep
  have owner := h.exclusive.owner_of_inside inside
  obtain ⟨before, run, -, held⟩ := h.serial
  have reached := held thread owner
  rw [inside] at reached
  refine ⟨before, ?_, ?_, ?_⟩
  · rw [returns_append]
    simpa [Label.returned] using run
  · intro free
    exact absurd (owner.symm.trans free) nofun
  · intro other same
    obtain rfl := Option.some.inj (owner.symm.trans same)
    simp only [State.move, Function.update_self]
    cases outcome with
    | inl next => exact reached.tail steps
    | inr result => exact reached.comes ((comes_result steps).mpr ⟨rfl, rfl⟩)

/-- A call that returns is the last of the serial ones. -/
theorem release {result : Result} (h : Serialised program first history state)
    (hstep : (system program).step state (.release thread args result) next) :
    Serialised program first (history ++ [.release thread args result]) next := by
  refine ⟨h.exclusive.step hstep, ?_⟩
  obtain ⟨leaving, rfl⟩ := hstep
  obtain ⟨before, run, -, held⟩ := h.serial
  have returned := held thread (h.exclusive.owner_of_leaving leaving)
  rw [leaving] at returned
  refine ⟨state.shared, ?_, fun _ => rfl, nofun⟩
  rw [returns_append]
  exact run.tail returned

theorem step (h : Serialised program first history state)
    (hstep : (system program).step state label next) :
    Serialised program first (history ++ [label]) next := by
  cases label with
  | call thread args => exact h.call hstep
  | acquire thread => exact h.acquire hstep
  | step thread => exact h.goOn hstep
  | release thread args result => exact h.release hstep

end Serialised

section Runs

variable {start last : State Shared Args Local Result Thread}
  {labels : List (Label Args Result Thread)}

theorem run_serialised (exclusive : Exclusive start) (free : start.owner = none)
    (run : Run (system program) start labels last) :
    Serialised program start.shared labels last := by
  refine run.history_invariant (fun history state =>
    Serialised program start.shared history state) ?_ fun h hstep => h.step hstep
  refine ⟨exclusive, start.shared, .refl, fun _ => rfl, fun thread owner => ?_⟩
  exact absurd (free.symm.trans owner) nofun

/-- When nobody is inside, the calls that have returned have made the state, one after the
other. -/
theorem run_serial (initial : (system program).initial start)
    (run : Run (system program) start labels last) (free : last.owner = none) :
    Run (serial program) start.shared (returns labels) last.shared := by
  obtain ⟨before, serial, quiet, -⟩ := (run_serialised (.initial initial) initial.1 run).serial
  rwa [quiet free]

/-! ## What does not change any more -/

/-- No call changes the state. -/
structure Settled (program : Program Shared Args Local Result ε) (shared : Shared)
    (Quiet : Local → Prop) : Prop where
  start : ∀ args, Quiet (program.start args)
  step : ∀ {place outcome last}, Quiet place →
    program.step place shared = .ok (outcome, last) →
      last = shared ∧ ∀ next, outcome = .inl next → Quiet next

theorem AllQuiet.move {Quiet : Local → Prop} (h : AllQuiet Quiet state) {thread : Thread}
    {phase : Phase Args Local Result} {shared : Shared} {owner : Option Thread}
    (quiet : ∀ args place, phase = .inside args place → Quiet place) :
    AllQuiet Quiet { state.move thread phase with shared, owner } := by
  intro other args place inside
  by_cases same : other = thread
  · subst same
    simp only [State.move, Function.update_self] at inside
    exact quiet args place inside
  · simp only [State.move, Function.update_of_ne same] at inside
    exact h other args place inside

theorem Settled.keeps {shared : Shared} {Quiet : Local → Prop}
    (settled : Settled program shared Quiet)
    (h : state.shared = shared ∧ AllQuiet Quiet state)
    (hstep : (system program).step state label next) :
    next.shared = shared ∧ AllQuiet Quiet next := by
  obtain ⟨rfl, quiet⟩ := h
  cases label with
  | call thread args =>
      obtain ⟨-, rfl⟩ := hstep
      exact ⟨rfl, quiet.move nofun⟩
  | acquire thread =>
      obtain ⟨args, -, -, rfl⟩ := hstep
      refine ⟨rfl, quiet.move ?_⟩
      rintro _ _ ⟨⟩
      exact settled.start args
  | step thread =>
      obtain ⟨args, place, outcome, shared, inside, steps, rfl⟩ := hstep
      obtain ⟨rfl, goesOn⟩ := settled.step (quiet thread args place inside) steps
      refine ⟨rfl, quiet.move ?_⟩
      intro _ reached moved
      cases outcome with
      | inl next =>
          cases moved
          exact goesOn reached rfl
      | inr result => cases moved
  | release thread args result =>
      obtain ⟨-, rfl⟩ := hstep
      exact ⟨rfl, quiet.move nofun⟩

theorem Settled.run {Quiet : Local → Prop} (settled : Settled program start.shared Quiet)
    (quiet : AllQuiet Quiet start) (run : Run (system program) start labels last) :
    last.shared = start.shared :=
  (run.invariant (fun state => state.shared = start.shared ∧ AllQuiet Quiet state)
    ⟨rfl, quiet⟩ settled.keeps).1

/-! ## The lock is given back -/

/-- A thread that is inside gives the lock back, if the program comes to a result. -/
theorem gives_back {steps : ℕ} {place : Local} {result : Result} {shared final : Shared}
    (ends : Ends program steps place shared result final) (same : start.shared = shared)
    (inside : start.phase thread = .inside args place) :
    ∃ last, Run (system program) start
        (List.replicate steps (.step thread) ++ [.release thread args result]) last ∧
      last.owner = none ∧ last.shared = final ∧
      ∀ other, other ≠ thread → last.phase other = start.phase other := by
  induction ends generalizing start with
  | result stepped =>
      subst same
      have stops := Run.single (show (system program).step start (.step thread) _ from
        ⟨args, _, _, _, inside, stepped, rfl⟩)
      refine ⟨_, stops.tail ⟨Function.update_self .., rfl⟩, rfl, rfl, fun other different => ?_⟩
      exact (Function.update_of_ne different ..).trans (Function.update_of_ne different ..)
  | @next _ _ further _ between _ _ stepped _ ih =>
      subst same
      have goesOn := Run.single (show (system program).step start (.step thread) _ from
        ⟨args, _, _, _, inside, stepped, rfl⟩)
      obtain ⟨last, run, free, reached, others⟩ :=
        @ih { start.move thread (.inside args further) with shared := between } rfl
          (Function.update_self ..)
      refine ⟨last, goesOn.trans run, free, reached, fun other different => ?_⟩
      exact (others other different).trans (Function.update_of_ne different ..)

/-- Whoever has the lock can give it back, on its own and in a bounded number of steps. -/
theorem owner_gives_back {Ready : Local → Shared → Prop} {left : Local → ℕ} {bound : ℕ}
    (h : Serialised program first labels last) (bounded : Bounded program Ready left)
    (few : ∀ place, left place < bound)
    (ready : ∀ before, Run (serial program) first (returns labels) before →
      ∀ args, Ready (program.start args) before)
    (owner : last.owner = some thread) :
    ∃ steps args result final, steps ≤ bound ∧ Run (system program) last
        (List.replicate steps (.step thread) ++ [.release thread args result]) final ∧
      final.owner = none ∧ ∀ other, other ≠ thread → final.phase other = last.phase other := by
  obtain ⟨before, run, -, held⟩ := h.serial
  have progress := held thread owner
  cases phase : last.phase thread with
  | idle =>
      rw [phase] at progress
      exact progress.elim
  | waiting args =>
      rw [phase] at progress
      exact progress.elim
  | inside args place =>
      rw [phase] at progress
      have reached := bounded.reaches (ready before run args) progress
      obtain ⟨steps, result, _, ends, least⟩ := bounded.ends reached
      obtain ⟨final, further, free, -, others⟩ := gives_back ends rfl phase
      exact ⟨steps, args, result, final, Nat.le_trans least (few place), further, free, others⟩
  | leaving args result =>
      refine ⟨0, args, result, _, Nat.zero_le bound, .single ⟨phase, rfl⟩, rfl, ?_⟩
      exact fun other different => Function.update_of_ne different ..

/-- Whoever waits for the lock can get it. -/
theorem waiter_admitted {Ready : Local → Shared → Prop} {left : Local → ℕ} {bound : ℕ}
    (h : Serialised program first labels last) (bounded : Bounded program Ready left)
    (few : ∀ place, left place < bound)
    (ready : ∀ before, Run (serial program) first (returns labels) before →
      ∀ args, Ready (program.start args) before)
    (waiting : last.phase thread = .waiting args) :
    ∃ further final, further.length ≤ bound + 2 ∧ Run (system program) last further final ∧
      final.owner = some thread := by
  cases owner : last.owner with
  | none =>
      exact ⟨[.acquire thread], _, by simp, .single ⟨args, waiting, owner, rfl⟩, rfl⟩
  | some other =>
      have different : thread ≠ other := by
        rintro rfl
        have holds := (h.exclusive thread).mpr owner
        rw [waiting] at holds
        exact holds
      obtain ⟨steps, args', result, between, least, run, free, others⟩ :=
        owner_gives_back h bounded few ready owner
      have still := (others thread different).trans waiting
      have acquires : (system program).step between (.acquire thread)
          { between.move thread (.inside args (program.start args)) with owner := some thread } :=
        ⟨args, still, free, rfl⟩
      refine ⟨_, _, ?_, run.tail acquires, rfl⟩
      simp only [List.length_append, List.length_replicate, List.length_singleton]
      omega

end Runs

end CriticalSections
