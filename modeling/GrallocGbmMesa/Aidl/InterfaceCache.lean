import GrallocGbmMesa.Aidl.RemoteCalls

/-!
# The remembered version and hash

A proxy asks for the version and the hash of the interface until it has been answered.
-/

namespace GrallocGbmMesa.Aidl

open Checked Parcels TransitionSystem
open GrallocGbmMesa.Platform

variable {Cell Name AStatus State : Type} {api : StatusApi Cell AStatus} {ndk : Ndk Cell Name}
  {driver : Driver Cell} {defaultImpl : Option (IAllocator Name AStatus State)}
  {version : Word} {hash : String} {service : ServiceMethods Name AStatus State}

/-- The value is the version or the hash of the interface. -/
def OfInterface (version : Word) (hash : String) : (method : Method) → method.Returns → Prop
  | .getInterfaceVersion, value => value = version
  | .getInterfaceHash, value => value = hash
  | .allocate, _ | .allocate2, _ | .isSupported, _ | .getIMapperLibrarySuffix, _ => False

theorem ofInterface_answer {proxy : BpAllocator} {method : Method}
    {args : method.Arguments Name} {target value answer : method.Returns} {status : AStatus}
    {s s' : State} (known : proxy.Remembers method value)
    (h : (bnAllocator api version hash service).operation method args target s =
      .ok (status, answer, s')) : OfInterface version hash method answer := by
  cases method with
  | getInterfaceVersion =>
      cases h
      rfl
  | getInterfaceHash =>
      cases h
      rfl
  | allocate => cases known
  | allocate2 => cases known
  | isSupported => cases known
  | getIMapperLibrarySuffix => cases known

/-- What a proxy remembers is what the service answers. -/
def Faithful (version : Word) (hash : String) (proxy : BpAllocator) : Prop :=
  ∀ (method : Method) (value : method.Returns), proxy.Remembers method value →
    OfInterface version hash method value

section Steps

variable {state next : BpAllocator × State} {event : RemoteEvent Name AStatus}

theorem Faithful.step (h : Faithful version hash state.1)
    (hstep : (proxySystem api ndk driver defaultImpl
      (bnAllocator api version hash service)).step state event next) :
    Faithful version hash next.1 := by
  obtain ⟨⟨made, args, target, status, value'⟩, torn, fate, locals⟩ := event
  intro method value known
  rcases BpAllocator.call_cases hstep with
    ⟨-, -, sameProxy, -⟩ | ⟨reply, after, replied, -, learnt⟩
  · rw [sameProxy] at known
    exact h method value known
  · rw [learnt] at known
    rcases BpAllocator.remembers_remember known with before | ⟨returned, rfl, answer⟩
    · exact h method value before
    · rcases remoteReply_cases replied with ⟨-, silent⟩ | ⟨status, value, called, rfl, -⟩
      · cases silent
      · cases answer
        exact ofInterface_answer known called

/-- What is remembered stays, and is answered whatever becomes of a transaction. -/
theorem remembers_step {method : Method} {value : method.Returns}
    (known : state.1.Remembers method value)
    (hstep : (proxySystem api ndk driver defaultImpl
      (bnAllocator api version hash service)).step state event next) :
    next.1.Remembers method value ∧ (event.method = method →
      event.status = api.newOk ∧ event.answer = ⟨method, value⟩ ∧ next = state) := by
  by_cases same : event.method = method
  · obtain ⟨⟨made, args, target, status, value'⟩, torn, fate, locals⟩ := event
    obtain ⟨proxy, s⟩ := state
    obtain ⟨proxy', s'⟩ := next
    cases same
    cases (BpAllocator.call_remembered known).symm.trans hstep
    exact ⟨known, fun _ => ⟨rfl, rfl, rfl⟩⟩
  · refine ⟨?_, fun h => absurd h same⟩
    rcases BpAllocator.call_cases hstep with
      ⟨-, -, sameProxy, -⟩ | ⟨reply, after, -, -, learnt⟩
    · rwa [sameProxy]
    · rw [learnt]
      exact known.remember same reply

end Steps

section Runs

variable {first : State} {last last' : BpAllocator × State}
  {events later : List (RemoteEvent Name AStatus)}

theorem remembers_run {method : Method} {value : method.Returns}
    (known : last.1.Remembers method value)
    (run : Run (proxySystem api ndk driver defaultImpl (bnAllocator api version hash service))
      last later last') :
    last'.1.Remembers method value ∧ ∀ event ∈ later, event.method = method →
      event.status = api.newOk ∧ event.answer = ⟨method, value⟩ := by
  refine run.history_invariant
    (fun events state => state.1.Remembers method value ∧ ∀ event ∈ events,
      event.method = method → event.status = api.newOk ∧ event.answer = ⟨method, value⟩)
    ⟨known, List.forall_mem_nil _⟩ fun ⟨known, answers⟩ hstep => ?_
  obtain ⟨kept, answered⟩ := remembers_step known hstep
  refine ⟨kept, ?_⟩
  simp only [List.forall_mem_append, List.forall_mem_singleton]
  exact ⟨answers, fun same => ⟨(answered same).1, (answered same).2.1⟩⟩

/-- Whatever a default implementation says and whatever becomes of the transactions, a proxy
remembers the version and the hash of the service only, and what it remembers it answers ever
after. -/
theorem interface_run
    (run : Run (proxySystem api ndk driver defaultImpl (bnAllocator api version hash service))
      ({}, first) events last) :
    Faithful version hash last.1 ∧
      ∀ later last', Run (proxySystem api ndk driver defaultImpl
          (bnAllocator api version hash service)) last later last' →
        ∀ (method : Method) (value : method.Returns), last.1.Remembers method value →
          last'.1.Remembers method value ∧ ∀ event ∈ later, event.method = method →
            event.status = api.newOk ∧ event.answer = ⟨method, value⟩ := by
  have faithful := run.invariant (fun state => Faithful version hash state.1)
    (fun _ _ known => absurd known BpAllocator.not_remembers_new) Faithful.step
  exact ⟨faithful, fun later last' further method value known => remembers_run known further⟩

end Runs

theorem interface_run_version : Faithful 2 "-" { cachedVersion := 2 } ∧
    ∀ later last', Run versionSystem ({ cachedVersion := 2 }, ()) later last' →
      ∀ event ∈ later, event.method = .getInterfaceVersion → event.status = 0 := by
  obtain ⟨faithful, remembered⟩ := interface_run version_run
  refine ⟨faithful, fun later last' run event hmem asks => ?_⟩
  exact ((remembered later last' run .getInterfaceVersion (2 : Word) ⟨by decide, rfl⟩).2 event hmem
    asks).1

end GrallocGbmMesa.Aidl
