import GrallocGbmMesa.Lib.CriticalSections
import GrallocGbmMesa.Aidl.InterfaceCache

/-!
# Threads that ask for the hash

A proxy guards the hash of the interface by a mutex, and keeps the mutex while it makes the
transaction.
-/

namespace GrallocGbmMesa.Aidl

open Checked CriticalSections Parcels TransitionSystem
open GrallocGbmMesa.Platform

/-! ## The steps of a call -/

/-- A call of `getInterfaceHash`, and what becomes of its transaction. -/
structure HashCall (Name : Type) where
  target : String
  torn : String
  fate : Fate
  locals : StubLocals Name

/-- Where a thread is while it has the mutex. -/
inductive HashPlace (Name AStatus : Type) where
  | testCached (call : HashCall Name)
  | transact (call : HashCall Name)
  | conclude (call : HashCall Name) (reply : Reply AStatus String)

variable {Cell Name AStatus State : Type}

section Program

variable (api : StatusApi Cell AStatus) (ndk : Ndk Cell Name) (driver : Driver Cell)
  (defaultImpl : Option (IAllocator Name AStatus State)) (impl : IAllocator Name AStatus State)

/-- The statements of `BpAllocator::getInterfaceHash` under its `lock_guard`. -/
def hashStep : HashPlace Name AStatus → BpAllocator × State →
    Except Fault ((HashPlace Name AStatus ⊕ (AStatus × String)) × BpAllocator × State)
  | .testCached call, (proxy, s) =>
      .ok (if proxy.cachedHash ≠ "-1" then .inr (api.newOk, proxy.cachedHash)
        else .inl (.transact call), proxy, s)
  | .transact call, (proxy, s) => do
      let (reply, s) ← remoteReply api (driver.binder api ndk impl call.fate call.locals)
        (getInterfaceHashTransaction ndk) call.torn () call.target s
      return (.inl (.conclude call reply), proxy, s)
  | .conclude call reply, (proxy, s) => do
      let (status, hash, s) ←
        concludeCall api (defaultImpl.map (·.getInterfaceHash)) () call.target reply s
      return (.inr (status, hash), proxy.remember .getInterfaceHash reply, s)

def hashProgram :
    Program (BpAllocator × State) (HashCall Name) (HashPlace Name AStatus) (AStatus × String)
      Fault where
  start := .testCached
  step := hashStep api ndk driver defaultImpl impl

end Program

/-- A call of a thread as an event of the proxy. -/
def hashEvent {Thread : Type} (call : Thread × HashCall Name × AStatus × String) :
    RemoteEvent Name AStatus where
  method := .getInterfaceHash
  args := ()
  target := call.2.1.target
  status := call.2.2.1
  value := call.2.2.2
  torn := call.2.1.torn
  fate := call.2.1.fate
  locals := call.2.1.locals

variable {api : StatusApi Cell AStatus} {ndk : Ndk Cell Name} {driver : Driver Cell}
  {defaultImpl : Option (IAllocator Name AStatus State)} {impl : IAllocator Name AStatus State}

/-- A result is the end. -/
theorem comes_answered {place : HashPlace Name AStatus} {memory final last : BpAllocator × State}
    {status status' : AStatus} {hash hash' : String}
    (h : hashStep api ndk driver defaultImpl impl place memory =
      .ok (.inr (status', hash'), final)) :
    Comes (hashProgram api ndk driver defaultImpl impl) place memory (status, hash) last ↔
      (.ok (status', hash', final) : Except Fault _) = .ok (status, hash, last) := by
  refine (comes_result h).trans ⟨?_, ?_⟩
  · rintro ⟨same, rfl⟩
    cases same
    rfl
  · rintro ⟨⟩
    exact ⟨rfl, rfl⟩

/-- The steps are those of the method. -/
theorem returns_hashProgram {call : HashCall Name} {proxy : BpAllocator} {s : State}
    {status : AStatus} {hash : String} {last : BpAllocator × State} :
    Returns (hashProgram api ndk driver defaultImpl impl) call (proxy, s) (status, hash) last ↔
      proxy.call api ndk (driver.binder api ndk impl call.fate call.locals) defaultImpl
        .getInterfaceHash call.torn call.target () s = .ok (status, hash, last) := by
  unfold Returns
  by_cases cached : proxy.cachedHash ≠ "-1"
  · have stops : hashStep api ndk driver defaultImpl impl (.testCached call) (proxy, s) =
        .ok (.inr (api.newOk, proxy.cachedHash), proxy, s) := by
      rw [hashStep, if_pos cached]
    have known : proxy.Remembers .getInterfaceHash proxy.cachedHash := ⟨cached, rfl⟩
    rw [BpAllocator.call_remembered known]
    exact comes_answered stops
  have goesOn : hashStep api ndk driver defaultImpl impl (.testCached call) (proxy, s) =
      .ok (.inl (.transact call), proxy, s) := by
    rw [hashStep, if_neg cached]
  have unknown : ∀ value, ¬ proxy.Remembers .getInterfaceHash value :=
    fun value known => cached known.1
  have asked : proxy.call api ndk (driver.binder api ndk impl call.fate call.locals) defaultImpl
      .getInterfaceHash call.torn call.target () s = (do
        let (reply, s) ← remoteReply api (driver.binder api ndk impl call.fate call.locals)
          (getInterfaceHashTransaction ndk) call.torn () call.target s
        let (status, hash, s) ←
          concludeCall api (defaultImpl.map (·.getInterfaceHash)) () call.target reply s
        return (status, hash, proxy.remember .getInterfaceHash reply, s)) :=
    BpAllocator.call_eq unknown
  rw [asked]
  refine (comes_next goesOn).trans ?_
  cases replied : remoteReply api (driver.binder api ndk impl call.fate call.locals)
      (getInterfaceHashTransaction ndk) call.torn () call.target s with
  | error fault =>
      have faults : hashStep api ndk driver defaultImpl impl (.transact call) (proxy, s) =
          .error fault := by
        simp only [hashStep, replied, error_bind]
      exact iff_of_false (not_comes faults) nofun
  | ok answer =>
      obtain ⟨reply, t⟩ := answer
      have transacted : hashStep api ndk driver defaultImpl impl (.transact call) (proxy, s) =
          .ok (.inl (.conclude call reply), proxy, t) := by
        simp only [hashStep, replied, ok_bind, pure_eq_ok]
      refine (comes_next transacted).trans ?_
      rw [ok_bind]
      dsimp only
      cases concluded : concludeCall api (defaultImpl.map (·.getInterfaceHash)) () call.target
          reply t with
      | error fault =>
          have faults : hashStep api ndk driver defaultImpl impl (.conclude call reply)
              (proxy, t) = .error fault := by
            simp only [hashStep, concluded, error_bind]
          exact iff_of_false (not_comes faults) nofun
      | ok answer =>
          obtain ⟨status', hash', u⟩ := answer
          have stops : hashStep api ndk driver defaultImpl impl (.conclude call reply)
              (proxy, t) =
                .ok (.inr (status', hash'), proxy.remember .getInterfaceHash reply, u) := by
            simp only [hashStep, concluded, ok_bind, pure_eq_ok]
          rw [ok_bind]
          exact comes_answered stops

section Runs

variable {Thread : Type} {calls : List (Thread × HashCall Name × AStatus × String)}
  {first last : BpAllocator × State}

/-- Calls of threads one after the other are calls of the proxy. -/
theorem serial_proxy (run : Run (serial (hashProgram api ndk driver defaultImpl impl)) first calls
      last) :
    Run (proxySystem api ndk driver defaultImpl impl) first (calls.map hashEvent) last := by
  induction run with
  | refl => exact .refl
  | tail _ hstep ih =>
      rw [List.map_append]
      exact ih.tail (returns_hashProgram.mp hstep)

/-- What is remembered is the answer to every call. -/
theorem serial_remembered {hash : String} (known : first.1.Remembers .getInterfaceHash hash)
    (run : Run (serial (hashProgram api ndk driver defaultImpl impl)) first calls last) :
    ∀ call ∈ calls, call.2.2 = (api.newOk, hash) := by
  have answers := run.history_invariant
    (fun calls state => state = first ∧ ∀ call ∈ calls, call.2.2 = (api.newOk, hash))
    ⟨rfl, List.forall_mem_nil _⟩ ?_
  · exact answers.2
  rintro history _ ⟨thread, call, status, value⟩ next ⟨rfl, answers⟩ hstep
  have returned := returns_hashProgram.mp hstep
  rw [BpAllocator.call_remembered known] at returned
  cases returned
  refine ⟨rfl, ?_⟩
  simp only [List.forall_mem_append, List.forall_mem_singleton]
  exact ⟨answers, trivial⟩

/-- A call that is answered from memory does not make a transaction. -/
theorem settled_remembered {memory : BpAllocator × State} {hash : String}
    (known : memory.1.Remembers .getInterfaceHash hash) :
    Settled (hashProgram api ndk driver defaultImpl impl) memory
      (fun place => ∃ call, place = .testCached call) where
  start call := ⟨call, rfl⟩
  step := by
    rintro _ outcome last ⟨call, rfl⟩ stepped
    have stops : hashStep api ndk driver defaultImpl impl (.testCached call) memory =
        .ok (.inr (api.newOk, memory.1.cachedHash), memory) := by
      rw [hashStep, if_pos known.1]
    cases stops.symm.trans stepped
    exact ⟨rfl, nofun⟩

variable [DecidableEq Thread] {version : Word} {hash : String}
  {service : ServiceMethods Name AStatus State}
  {start mid : CriticalSections.State (BpAllocator × State) (HashCall Name)
    (HashPlace Name AStatus) (AStatus × String) Thread}
  {labels : List (Label (HashCall Name) (AStatus × String) Thread)}

/-- Whenever the mutex is free, threads that share a proxy have made the calls of one thread, in
the order in which they released it; and once the proxy remembers a hash, it is the one of the
service, all calls that release it later are answered with it, and nothing changes any more. -/
theorem hashThreads_run
    (initial : (system (hashProgram api ndk driver defaultImpl
      (bnAllocator api version hash service))).initial start)
    (new : start.shared.1 = {})
    (run : Run (system (hashProgram api ndk driver defaultImpl
      (bnAllocator api version hash service))) start labels mid)
    (free : mid.owner = none) :
    Run (proxySystem api ndk driver defaultImpl (bnAllocator api version hash service))
        start.shared ((returns labels).map hashEvent) mid.shared ∧
      ∀ value, mid.shared.1.Remembers .getInterfaceHash value → value = hash ∧
        ∀ further last, Run (system (hashProgram api ndk driver defaultImpl
            (bnAllocator api version hash service))) mid further last →
          last.shared = mid.shared ∧ ∀ call ∈ returns further, call.2.2 = (api.newOk, hash) := by
  have proxied := serial_proxy (run_serial initial run free)
  have unknown : Faithful version hash start.shared.1 := by
    rw [new]
    exact fun _ _ known => absurd known BpAllocator.not_remembers_new
  have faithful := proxied.invariant (fun state => Faithful version hash state.1) unknown
    Faithful.step
  refine ⟨proxied, fun value known => ?_⟩
  obtain rfl : value = hash := faithful .getInterfaceHash value known
  refine ⟨rfl, fun further last later => ?_⟩
  have exclusive := (run_serialised (.initial initial) initial.1 run).exclusive
  refine ⟨(settled_remembered known).run (.of_free exclusive free) later, ?_⟩
  obtain ⟨before, serial, -⟩ := (run_serialised exclusive free later).serial
  exact serial_remembered known serial

end Runs

/-! ## Two threads -/

abbrev TwoCallers := CriticalSections.State (BpAllocator × Unit) (HashCall (BitVec 64))
  (HashPlace (BitVec 64) Word) (Word × String) Bool

def bareHashProgram :
    Program (BpAllocator × Unit) (HashCall (BitVec 64)) (HashPlace (BitVec 64) Word)
      (Word × String) Fault :=
  hashProgram wordApi byteNdk byteDriver none bareService

def deliveredCall : HashCall (BitVec 64) := ⟨"", "", .delivered, bareLocals⟩

def newCallers : TwoCallers where
  shared := ({}, ())
  owner := none
  phase _ := .idle

/-- One thread asks, and the other one waits. -/
def askingCallers : TwoCallers where
  shared := ({}, ())
  owner := some true
  phase
    | true => .inside deliveredCall (.testCached deliveredCall)
    | false => .waiting deliveredCall

theorem askingCallers_run : Run (system bareHashProgram) newCallers
    [.call true deliveredCall, .call false deliveredCall, .acquire true] askingCallers := by
  have called := Run.single (show (system bareHashProgram).step newCallers
    (.call true deliveredCall) _ from ⟨rfl, rfl⟩)
  have both := called.tail (show (system bareHashProgram).step _ (.call false deliveredCall) _ from
    ⟨rfl, rfl⟩)
  refine both.tail ⟨deliveredCall, rfl, rfl, ?_⟩
  unfold askingCallers CriticalSections.State.move
  congr
  funext thread
  cases thread <;> rfl

theorem bareHash_returns : Returns bareHashProgram deliveredCall ({}, ()) (0, "-")
    ({ cachedHash := "-" }, ()) :=
  returns_hashProgram.mpr rfl

/-- The thread that waits is answered with the hash that the other one was given. -/
theorem hashThreads_run_asking : ∃ labels mid,
    Run (system bareHashProgram) newCallers labels mid ∧ mid.phase false = .waiting deliveredCall ∧
      ∀ further last, Run (system bareHashProgram) mid further last →
        ∀ call ∈ returns further, call.2.2 = (0, "-") := by
  obtain ⟨steps, ends⟩ := bareHash_returns
  obtain ⟨mid, further, free, reached, others⟩ := gives_back ends
    (show askingCallers.shared = ({}, ()) from rfl)
    (show askingCallers.phase true = .inside deliveredCall (.testCached deliveredCall) from rfl)
  have run := askingCallers_run.trans further
  have initial : (system (hashProgram wordApi byteNdk byteDriver none (bnAllocator wordApi 2 "-"
      (iAllocatorDefault wordApi).toServiceMethods))).initial newCallers := ⟨rfl, fun _ => rfl⟩
  obtain ⟨-, remembered⟩ := hashThreads_run initial rfl run free
  have known : mid.shared.1.Remembers .getInterfaceHash "-" := by
    rw [reached]
    exact ⟨by decide, rfl⟩
  exact ⟨_, mid, run, others false (by decide), fun further last later =>
    ((remembered "-" known).2 further last later).2⟩

end GrallocGbmMesa.Aidl
