import GrallocGbmMesa.Lib.Run
import GrallocGbmMesa.Aidl.ParcelFormat
import GrallocGbmMesa.Aidl.Binder

/-!
# Calls from another process

The proxy and the stub with the driver between them.  A call that arrives is one call of the
implementation, and an answer that arrives is what the implementation answered.
-/

namespace GrallocGbmMesa.Aidl

open Checked ByteStream Parcels TransitionSystem
open GrallocGbmMesa.Platform

variable {Cell Name AStatus State Args Return : Type}

/-- What carries transactions between two processes: each begins with a header, and none is
larger than the buffer of the driver. -/
structure Driver (Cell : Type) where
  header : List Cell
  capacity : ℕ
  bounded : capacity ≤ posMax
  tooLarge : BinderError

/-- What becomes of a transaction. -/
inductive Fate where
  | unprepared (error : BinderError)
  /-- the request does not arrive -/
  | refused (error : BinderError)
  /-- the request is served, and the reply does not arrive -/
  | lost (error : BinderError)
  | delivered
  deriving DecidableEq, Repr

namespace Driver

variable (driver : Driver Cell)

def request : Parcel Cell := ⟨driver.header, driver.header.length⟩

theorem request_atEnd : driver.request.AtEnd := rfl

/-- What the proxy gets for what the stub returns. -/
def reply (fate : Fate) (reply : Except BinderError (Parcel Cell)) :
    Except BinderError (Parcel Cell) :=
  match fate with
  | .unprepared error | .refused error | .lost error => .error error
  | .delivered => do
      let out ← reply
      if out.data.length > driver.capacity then .error driver.tooLarge else return out.seek 0

variable (api : StatusApi Cell AStatus) (ndk : Ndk Cell Name)
  (impl : IAllocator Name AStatus State) (fate : Fate) (locals : StubLocals Name)

/-- Serve a request that arrives. -/
def carry (code : ℕ) (inp : Parcel Cell) (s : State) :
    Except Fault (Except BinderError (Parcel Cell) × State) :=
  if inp.data.length > driver.capacity then .ok (.error driver.tooLarge, s)
  else do
    let (reply, s) ←
      onTransact api ndk locals impl code (inp.seek driver.header.length) .empty s
    return (driver.reply fate reply, s)

/-- A binder whose transactions an implementation serves. -/
def binder : AIBinder Cell State where
  prepareTransaction :=
    match fate with
    | .unprepared error => .error error
    | _ => .ok driver.request
  transact code inp s :=
    match fate with
    | .unprepared error | .refused error => .ok (.error error, s)
    | .lost _ | .delivered => driver.carry api ndk impl fate locals code inp s

end Driver

/-! ## What is read is what was written -/

theorem readMessage_written {layout : Layout Cell BinderError Args} {args : Args}
    {p p' : Parcel Cell} (atEnd : p.AtEnd) (written : writeFields layout.fields args p = .ok p')
    (short : p'.data.length ≤ posMax) (target : Args) :
    readMessage layout.fields target (p'.seek p.pos) = .ok (args, p') := by
  obtain ⟨cells, rfl, laid⟩ := writeFields_laid atEnd written
  have ends : p.pos = p.data.length := atEnd
  have read := @readMessage_laid _ _ _ _ _ target _ p.data laid
    (by rwa [← List.length_append]) []
  rw [List.append_nil, layout.covers, ← ends] at read
  exact read

theorem readReply_written {api : StatusApi Cell AStatus} {result : Codec Cell BinderError Return}
    {status : AStatus} {value : Return} {out : Parcel Cell}
    (written : writeReply api result status value .empty = .ok out)
    (short : out.data.length ≤ posMax) (target torn : Return) :
    readReply api result target torn (out.seek 0) =
      if api.isOk status then .returned value else .exception status := by
  obtain ⟨q, header, written⟩ := bind_eq_ok.mp written
  obtain ⟨cells, -, rfl, reads⟩ := api.header.written .empty header
  have atEnd := Parcel.AtEnd.empty.append cells
  unfold readReply
  split at written
  · rename_i ok
    obtain ⟨more, -, rfl, value⟩ := result.written atEnd written
    have first := reads.seek .empty (by
      rw [Parcel.append, List.length_append] at short
      omega) api.newOk more
    have second := value.seek atEnd short target []
    rw [Parcel.append_nil] at second
    change api.header.read _ (Parcel.seek _ 0) = _ at first
    rw [first]
    dsimp only
    rw [if_pos ok, if_neg (not_not_intro ok), second]
  · rename_i failed
    cases written
    have first := reads.seek .empty short api.newOk []
    rw [Parcel.append_nil] at first
    change api.header.read _ (Parcel.seek _ 0) = _ at first
    rw [first]
    dsimp only
    rw [if_neg failed, if_pos failed]

/-! ## One call -/

/-- What a reply says of a call of the implementation, if it says anything. -/
def Reply.Tells (api : StatusApi Cell AStatus) (status : AStatus) (value : Return) :
    Reply AStatus Return → Prop
  | failed _ _ | unknownTransaction => True
  | exception status' => status' = status ∧ api.isOk status = false
  | returned value' => value' = value ∧ api.isOk status = true

/-- The reply is not one of the implementation. -/
def Reply.Silent : Reply AStatus Return → Prop
  | failed _ _ | unknownTransaction => True
  | exception _ | returned _ => False

/-- Without a default implementation a silent reply is a failure. -/
theorem concludeCall_silent {api : StatusApi Cell AStatus} {args : Args} {target value : Return}
    {reply : Reply AStatus Return} {status : AStatus} {s s' : State} (silent : reply.Silent)
    (h : concludeCall api none args target reply s = .ok (status, value, s')) :
    s' = s ∧ ∃ error, status = api.fromError error := by
  cases reply with
  | failed error out =>
      cases h
      exact ⟨rfl, error, rfl⟩
  | unknownTransaction =>
      cases h
      exact ⟨rfl, _, rfl⟩
  | exception status => cases silent
  | returned value => cases silent

theorem concludeCall_tells {api : StatusApi Cell AStatus} {args : Args}
    {target value value' : Return} {reply : Reply AStatus Return} {status status' : AStatus}
    {s s' : State} (tells : reply.Tells api status value)
    (h : concludeCall api none args target reply s = .ok (status', value', s')) :
    s' = s ∧ ((∃ error, status' = api.fromError error) ∨
      if api.isOk status' then api.isOk status ∧ value = value' else status = status') := by
  cases reply with
  | failed error out =>
      cases h
      exact ⟨rfl, .inl ⟨error, rfl⟩⟩
  | unknownTransaction =>
      cases h
      exact ⟨rfl, .inl ⟨_, rfl⟩⟩
  | exception status =>
      cases h
      obtain ⟨rfl, failed⟩ := tells
      exact ⟨rfl, .inr (by rw [failed]; exact rfl)⟩
  | returned value =>
      cases h
      obtain ⟨rfl, ok⟩ := tells
      exact ⟨rfl, .inr (by rw [if_pos api.isOk_newOk]; exact ⟨ok, rfl⟩)⟩

section Calls

variable {api : StatusApi Cell AStatus} {ndk : Ndk Cell Name} {driver : Driver Cell}
  {impl : IAllocator Name AStatus State} {method : Method} {fate : Fate}
  {locals : StubLocals Name} {args : method.Arguments Name} {target torn value : method.Returns}
  {status : AStatus} {s s' : State} {inp out : Parcel Cell}

/-- A request that arrives calls the method with the arguments of the proxy. -/
theorem onTransact_request
    (sent : writeFields (method.transaction ndk).args.fields args driver.request = .ok inp)
    (fits : inp.data.length ≤ driver.capacity) :
    onTransact api ndk locals impl (method.transaction ndk).code
        (inp.seek driver.header.length) .empty s =
      (do
        let (status, value, s) ← impl.operation method args (locals.returned method) s
        return (writeReply api (method.transaction ndk).result status value .empty, s)) := by
  have read := readMessage_written driver.request_atEnd sent
    (Nat.le_trans fits driver.bounded) (locals.args method)
  change readMessage _ _ (inp.seek driver.header.length) = _ at read
  rw [onTransact_method, serveTransaction, read]

theorem readReply_tells
    (h : driver.reply fate
      (writeReply api (method.transaction ndk).result status value .empty) = .ok out) :
    (readReply api (method.transaction ndk).result target torn out).Tells api status value := by
  cases fate with
  | unprepared error => cases h
  | refused error => cases h
  | lost error => cases h
  | delivered =>
      obtain ⟨written, answered, h⟩ := bind_eq_ok.mp h
      split at h
      · cases h
      · rename_i small
        cases h
        rw [readReply_written answered (Nat.le_trans (Nat.not_lt.mp small) driver.bounded)]
        split
        · exact ⟨rfl, ‹_›⟩
        · rename_i failed
          exact ⟨rfl, Bool.not_eq_true _ ▸ failed⟩

/-- The driver calls the method that a request is for, or it says an error. -/
theorem carry_cases {answer : Except BinderError (Parcel Cell)}
    (sent : writeFields (method.transaction ndk).args.fields args driver.request = .ok inp)
    (h : driver.carry api ndk impl fate locals (method.transaction ndk).code inp s =
      .ok (answer, s')) :
    (s' = s ∧ ∃ error, answer = .error error) ∨
      ∃ status value, impl.operation method args (locals.returned method) s =
          .ok (status, value, s') ∧
        answer = driver.reply fate
          (writeReply api (method.transaction ndk).result status value .empty) := by
  unfold Driver.carry at h
  split at h
  · cases h
    exact .inl ⟨rfl, _, rfl⟩
  · rename_i fits
    rw [onTransact_request sent (Nat.not_lt.mp fits)] at h
    obtain ⟨⟨reply, t⟩, called, h⟩ := bind_eq_ok.mp h
    obtain ⟨⟨status, value, u⟩, operation, called⟩ := bind_eq_ok.mp called
    cases called
    cases h
    exact .inr ⟨status, value, operation, rfl⟩

theorem transact_cases {answer : Except BinderError (Parcel Cell)}
    (sent : (do
      let inp ← (driver.binder api ndk impl fate locals).prepareTransaction
      writeFields (method.transaction ndk).args.fields args inp) = .ok inp)
    (h : (driver.binder api ndk impl fate locals).transact (method.transaction ndk).code inp s =
      .ok (answer, s')) :
    (s' = s ∧ ∃ error, answer = .error error) ∨
      ∃ status value, impl.operation method args (locals.returned method) s =
          .ok (status, value, s') ∧
        answer = driver.reply fate
          (writeReply api (method.transaction ndk).result status value .empty) := by
  cases fate with
  | unprepared error => cases sent
  | refused error =>
      cases h
      exact .inl ⟨rfl, error, rfl⟩
  | lost error => exact carry_cases sent h
  | delivered => exact carry_cases sent h

/-- A transaction is not served, or it is one call of the method. -/
theorem remoteReply_cases {reply : Reply AStatus method.Returns}
    (h : remoteReply api (driver.binder api ndk impl fate locals) (method.transaction ndk) torn
      args target s = .ok (reply, s')) :
    (s' = s ∧ reply.Silent) ∨
      ∃ status value, impl.operation method args (locals.returned method) s =
        .ok (status, value, s') ∧ reply.Tells api status value := by
  unfold remoteReply at h
  split at h
  · cases h
    exact .inl ⟨rfl, trivial⟩
  · rename_i inp sent
    obtain ⟨⟨answer, t⟩, transacted, h⟩ := bind_eq_ok.mp h
    rcases transact_cases sent transacted with ⟨rfl, error, rfl⟩ | ⟨status, value, called, rfl⟩
    · cases h
      refine .inl ⟨rfl, ?_⟩
      split <;> trivial
    · dsimp only at h
      split at h
      · cases h
        refine .inr ⟨status, value, called, ?_⟩
        split <;> trivial
      · rename_i out answered
        cases h
        exact .inr ⟨status, value, called, readReply_tells answered⟩

/-- A transaction that arrives with its reply brings what the method returns. -/
theorem remoteReply_delivered
    (sent : writeFields (method.transaction ndk).args.fields args driver.request = .ok inp)
    (fits : inp.data.length ≤ driver.capacity)
    (served : impl.operation method args (locals.returned method) s = .ok (status, value, s'))
    (answered : writeReply api (method.transaction ndk).result status value .empty = .ok out)
    (small : out.data.length ≤ driver.capacity) :
    remoteReply api (driver.binder api ndk impl .delivered locals) (method.transaction ndk) torn
        args target s =
      .ok (if api.isOk status then .returned value else .exception status, s') := by
  have carried : driver.carry api ndk impl .delivered locals (method.transaction ndk).code inp s =
      .ok (.ok (out.seek 0), s') := by
    unfold Driver.carry
    rw [if_neg (Nat.not_lt.mpr fits), onTransact_request sent fits, served]
    simp only [ok_bind, pure_eq_ok, answered, Driver.reply]
    rw [if_neg (Nat.not_lt.mpr small)]
  have requested : (do
      let inp ← (driver.binder api ndk impl .delivered locals).prepareTransaction
      writeFields (method.transaction ndk).args.fields args inp) = .ok inp := sent
  rw [remoteReply, requested]
  change (driver.carry api ndk impl .delivered locals _ inp s >>= _) = _
  rw [carried, ok_bind]
  dsimp only
  rw [readReply_written answered (Nat.le_trans small driver.bounded)]
  rfl

end Calls

/-! ## Every method -/

section Methods

variable {api : StatusApi Cell AStatus} {ndk : Ndk Cell Name} {driver : Driver Cell}
  {impl : IAllocator Name AStatus State} {method : Method}
  {locals : StubLocals Name} {args : method.Arguments Name} {target torn value : method.Returns}
  {status : AStatus} {s s' : State} {inp out : Parcel Cell}

/-- A call from another process whose transaction arrives is the call that the service would
get from its own: with the arguments of the caller, and with its result for the caller. -/
theorem call_delivered (proxy : BpAllocator) (defaultImpl : Option (IAllocator Name AStatus State))
    (unknown : ∀ value, ¬ proxy.Remembers method value)
    (sent : writeFields (method.transaction ndk).args.fields args driver.request = .ok inp)
    (fits : inp.data.length ≤ driver.capacity)
    (served : impl.operation method args (locals.returned method) s = .ok (status, value, s'))
    (answered : writeReply api (method.transaction ndk).result status value .empty = .ok out)
    (small : out.data.length ≤ driver.capacity) :
    BpAllocator.call api ndk (driver.binder api ndk impl .delivered locals) defaultImpl proxy
        method torn target args s =
      .ok (if api.isOk status then
          (api.newOk, value, proxy.remember method (.returned value : Reply AStatus _), s')
        else (status, target, proxy, s')) := by
  rw [BpAllocator.call_eq unknown,
    remoteReply_delivered sent fits served answered small, ok_bind]
  dsimp only
  split
  · rfl
  · cases method <;> rfl

end Methods

/-- Statuses as the exception codes that they have in a parcel. -/
def wordApi : StatusApi ParcelCell Word where
  isOk status := status = 0
  newOk := 0
  fromError _ := -129
  fromServiceSpecificError _ := -8
  header := byteMedium.int32
  isOk_newOk := rfl
  isOk_fromError _ := rfl
  isOk_fromServiceSpecificError _ := rfl

def byteDriver : Driver ParcelCell where
  header := [.byte 1]
  capacity := 4096
  bounded := by decide
  tooLarge := statusBadValue

/-- A service that has methods of its own only where each service has them. -/
def bareService : IAllocator (BitVec 64) Word Unit :=
  bnAllocator wordApi 2 "-" (iAllocatorDefault wordApi).toServiceMethods

def bareLocals : StubLocals (BitVec 64) where
  descriptor := { width := 0, height := 0, layerCount := 0, format := 0, usage := 0,
                  reservedSize := 0, name := 0 }
  count := 0
  supported := false
  version := 0

/-- A service that gives out the file 9 again and again, and counts the buffers. -/
def countingService : IAllocator (BitVec 64) Word Word :=
  bnAllocator wordApi 2 "-"
    { (iAllocatorDefault wordApi).toServiceMethods with
      allocate2 := fun args _ count =>
        .ok (0, ⟨args.descriptor.width, [⟨[some 9], [count]⟩]⟩, count + args.count) }

def oneBufferArgs : Allocate2Args (BitVec 64) where
  descriptor := { width := 64, height := 48, layerCount := 1, format := 1, usage := 3,
                  reservedSize := 0, name := 7 }
  count := 1

theorem call_delivered_allocate2 :
    BpAllocator.call wordApi byteNdk
        (byteDriver.binder wordApi byteNdk countingService .delivered bareLocals) none {}
        .allocate2 ({} : AllocationResult) ({} : AllocationResult) oneBufferArgs 5#32 =
      .ok (0, (⟨64, [⟨[some 9], [5]⟩]⟩ : AllocationResult), {}, 6) := by
  obtain ⟨inp, sent, fits⟩ : ∃ inp, writeFields (Method.allocate2.transaction byteNdk).args.fields
      oneBufferArgs byteDriver.request = .ok inp ∧ inp.data.length ≤ byteDriver.capacity :=
    ⟨_, rfl, by decide +kernel⟩
  obtain ⟨out, answered, small⟩ : ∃ out, writeReply wordApi
      (Method.allocate2.transaction byteNdk).result 0
      (⟨64, [⟨[some 9], [5]⟩]⟩ : AllocationResult) .empty = .ok out ∧
        out.data.length ≤ byteDriver.capacity :=
    ⟨_, rfl, by decide +kernel⟩
  exact call_delivered {} none (fun _ => BpAllocator.not_remembers_new) sent fits rfl answered
    small

/-! ## Runs -/

/-- A call of the service in its own process, with what its out parameter holds at first. -/
structure LocalEvent (Name AStatus : Type) where
  method : Method
  args : method.Arguments Name
  target : method.Returns
  status : AStatus
  value : method.Returns

/-- A call from another process, and what becomes of its transaction. -/
structure RemoteEvent (Name AStatus : Type) extends LocalEvent Name AStatus where
  torn : method.Returns
  fate : Fate
  locals : StubLocals Name

def LocalEvent.request (event : LocalEvent Name AStatus) :
    (method : Method) × method.Arguments Name := ⟨event.method, event.args⟩

def LocalEvent.answer (event : LocalEvent Name AStatus) : (method : Method) × method.Returns :=
  ⟨event.method, event.value⟩

def localSystem (impl : IAllocator Name AStatus State) :
    System State (LocalEvent Name AStatus) where
  initial _ := True
  step s event s' :=
    impl.operation event.method event.args event.target s = .ok (event.status, event.value, s')

/-- Runs of a process that calls a service through a proxy. -/
def proxySystem (api : StatusApi Cell AStatus) (ndk : Ndk Cell Name) (driver : Driver Cell)
    (defaultImpl : Option (IAllocator Name AStatus State)) (impl : IAllocator Name AStatus State) :
    System (BpAllocator × State) (RemoteEvent Name AStatus) where
  initial state := state.1 = {}
  step state event next :=
    state.1.call api ndk (driver.binder api ndk impl event.fate event.locals) defaultImpl
        event.method event.torn event.target event.args state.2 =
      .ok (event.status, event.value, next.1, next.2)

section Runs

variable {api : StatusApi Cell AStatus} {ndk : Ndk Cell Name} {driver : Driver Cell}
  {impl : IAllocator Name AStatus State}

/-- The proxy has the answer of a call of the service. -/
def SameAnswer (api : StatusApi Cell AStatus) (call event : LocalEvent Name AStatus) : Prop :=
  if api.isOk event.status then api.isOk call.status ∧ call.answer = event.answer
  else call.status = event.status

/-- The proxy says that a transaction has failed. -/
def TransportFails (api : StatusApi Cell AStatus) (event : LocalEvent Name AStatus) : Prop :=
  ∃ error, event.status = api.fromError error

/-- The methods whose values a proxy remembers. -/
def Memorable : Method → Prop
  | .getInterfaceVersion | .getInterfaceHash => True
  | .allocate | .allocate2 | .isSupported | .getIMapperLibrarySuffix => False

theorem memorable_of_remembers {proxy : BpAllocator} {method : Method} {value : method.Returns}
    (known : proxy.Remembers method value) : Memorable method := by
  cases method with
  | getInterfaceVersion | getInterfaceHash => exact trivial
  | allocate | allocate2 | isSupported | getIMapperLibrarySuffix => exact known

/-- Which calls of the service the calls of a proxy are, one after the other.  A call that the
service gets has its own answer or none, one that it does not get has none, and one that asks for
what the proxy remembers has the answer that was remembered. -/
inductive Matched (api : StatusApi Cell AStatus) :
    List (RemoteEvent Name AStatus) → List (LocalEvent Name AStatus) → Prop where
  | nil : Matched api [] []
  | unserved {events : List (RemoteEvent Name AStatus)} {served : List (LocalEvent Name AStatus)}
      {event : RemoteEvent Name AStatus} (before : Matched api events served)
      (failed : TransportFails api event.toLocalEvent) :
      Matched api (events ++ [event]) served
  | recalled {events : List (RemoteEvent Name AStatus)} {served : List (LocalEvent Name AStatus)}
      {event : RemoteEvent Name AStatus} {call : LocalEvent Name AStatus}
      (before : Matched api events served) (memorable : Memorable event.method)
      (ok : event.status = api.newOk) (earlier : call ∈ served) (succeeded : api.isOk call.status)
      (same : call.request = event.request) (answer : call.answer = event.answer) :
      Matched api (events ++ [event]) served
  | served {events : List (RemoteEvent Name AStatus)} {served : List (LocalEvent Name AStatus)}
      {event : RemoteEvent Name AStatus} {call : LocalEvent Name AStatus}
      (before : Matched api events served) (same : call.request = event.request)
      (answered : TransportFails api event.toLocalEvent ∨
        SameAnswer api call event.toLocalEvent) :
      Matched api (events ++ [event]) (served ++ [call])

namespace Matched

variable {events : List (RemoteEvent Name AStatus)} {served : List (LocalEvent Name AStatus)}

/-- The service is called at most once for each call of the proxy, in the order of these. -/
theorem once (h : Matched api events served) :
    (served.map LocalEvent.request).Sublist (events.map fun event => event.request) := by
  induction h with
  | nil => exact .slnil
  | unserved before failed ih | recalled before memorable ok earlier succeeded same answer ih =>
      rw [List.map_append]
      exact ih.trans (List.sublist_append_left ..)
  | served before same answered ih =>
      rw [List.map_append, List.map_append]
      refine ih.append ?_
      rw [List.map_singleton, List.map_singleton, same]

/-- Every answer of the proxy is one of the service, or says that a transaction has failed. -/
theorem answered (h : Matched api events served) :
    ∀ event ∈ events, TransportFails api event.toLocalEvent ∨
      ∃ call ∈ served, call.request = event.request ∧
        SameAnswer api call event.toLocalEvent := by
  induction h with
  | nil => exact List.forall_mem_nil _
  | unserved before failed ih =>
      simp only [List.forall_mem_append, List.forall_mem_singleton]
      exact ⟨ih, .inl failed⟩
  | @recalled _ _ event call before memorable ok earlier succeeded same answer ih =>
      simp only [List.forall_mem_append, List.forall_mem_singleton]
      refine ⟨ih, .inr ⟨call, earlier, same, ?_⟩⟩
      have accepted : api.isOk event.status = true := by rw [ok, api.isOk_newOk]
      rw [SameAnswer, if_pos accepted]
      exact ⟨succeeded, answer⟩
  | @served _ _ event call before same answered ih =>
      simp only [List.forall_mem_append, List.forall_mem_singleton]
      refine ⟨fun event hmem => (ih event hmem).imp_right ?_, answered.imp_right fun own => ?_⟩
      · rintro ⟨call, mem, rest⟩
        exact ⟨call, List.mem_append_left _ mem, rest⟩
      · exact ⟨call, List.mem_append_right _ (List.mem_singleton_self _), same, own⟩

end Matched

/-- What the calls of the service have to do with the calls of the proxy. -/
structure Explained (api : StatusApi Cell AStatus) (impl : IAllocator Name AStatus State)
    (Guard : State → Prop) (first : State) (events : List (RemoteEvent Name AStatus))
    (proxy : BpAllocator) (last : State) (served : List (LocalEvent Name AStatus)) : Prop where
  run : Run ((localSystem impl).guarded fun s _ => Guard s) first served last
  matched : Matched api events served
  remembered : ∀ (method : Method) (args : method.Arguments Name) (value : method.Returns),
    proxy.Remembers method value →
      ∃ call ∈ served, api.isOk call.status ∧ call.request = ⟨method, args⟩ ∧
        call.answer = ⟨method, value⟩

/-- The methods whose values are remembered have no arguments. -/
theorem request_eq {proxy : BpAllocator} {method : Method} {value : method.Returns}
    {call : LocalEvent Name AStatus} (known : proxy.Remembers method value)
    (answer : call.answer = ⟨method, value⟩) (args : method.Arguments Name) :
    call.request = ⟨method, args⟩ := by
  obtain ⟨made, given, target, status, value'⟩ := call
  obtain rfl : made = method := congrArg Sigma.fst answer
  cases made with
  | getInterfaceVersion => rfl
  | getInterfaceHash => rfl
  | allocate => cases known
  | allocate2 => cases known
  | isSupported => cases known
  | getIMapperLibrarySuffix => cases known

namespace Explained

variable {first : State} {events : List (RemoteEvent Name AStatus)}
  {state next : BpAllocator × State} {served : List (LocalEvent Name AStatus)}
  {event : RemoteEvent Name AStatus} {proxy : BpAllocator} {last : State}
  {Guard : State → Prop}

/-- A call that the service gets. -/
theorem tail (h : Explained api impl Guard first events proxy last served)
    {call : LocalEvent Name AStatus} {after : State} {proxy' : BpAllocator}
    (guard : Guard last) (hstep : (localSystem impl).step last call after)
    (same : call.request = event.request)
    (answered : TransportFails api event.toLocalEvent ∨ SameAnswer api call event.toLocalEvent)
    (learnt : ∀ (method : Method) (value : method.Returns), proxy'.Remembers method value →
      proxy.Remembers method value ∨
        api.isOk call.status ∧ call.answer = ⟨method, value⟩) :
    Explained api impl Guard first (events ++ [event]) proxy' after (served ++ [call]) where
  run := h.run.tail ⟨guard, hstep⟩
  matched := h.matched.served same answered
  remembered := by
    intro method args value known
    rcases learnt method value known with before | ⟨ok, answer⟩
    · obtain ⟨found, hmem, rest⟩ := h.remembered method args value before
      exact ⟨found, List.mem_append_left _ hmem, rest⟩
    · exact ⟨call, List.mem_append_right _ (List.mem_singleton_self _), ok,
        request_eq known answer args, answer⟩

theorem step (h : Explained api impl Guard first events state.1 state.2 served)
    (guard : Guard state.2)
    (hstep : (proxySystem api ndk driver none impl).step state event next) :
    ∃ more, Explained api impl Guard first (events ++ [event]) next.1 next.2 (served ++ more) := by
  rcases BpAllocator.call_cases hstep with
    ⟨known, status, sameProxy, same⟩ | ⟨reply, after, replied, concluded, learnt⟩
  · obtain ⟨call, hmem, ok, request, answer⟩ := h.remembered event.method event.args _ known
    refine ⟨[], ?_⟩
    rw [List.append_nil, sameProxy, same]
    exact ⟨h.run, h.matched.recalled (memorable_of_remembers known) status hmem ok request answer,
      h.remembered⟩
  · rcases remoteReply_cases replied with ⟨rfl, silent⟩ | ⟨status, value, called, tells⟩
    · obtain ⟨same, failed⟩ := concludeCall_silent silent concluded
      refine ⟨[], ?_⟩
      rw [List.append_nil, learnt, same, BpAllocator.remember_silent]
      · exact ⟨h.run, h.matched.unserved failed, h.remembered⟩
      · rintro value rfl
        cases silent
    · obtain ⟨same, told⟩ := concludeCall_tells tells concluded
      let call : LocalEvent Name AStatus :=
        ⟨event.method, event.args, event.locals.returned event.method, status, value⟩
      refine ⟨[call], h.tail guard (same ▸ called) rfl (told.imp_right fun told => ?_) ?_⟩
      · unfold SameAnswer
        split at told
        · rw [if_pos ‹_›]
          exact ⟨told.1, congrArg (Sigma.mk event.method) told.2⟩
        · rw [if_neg ‹_›]
          exact told
      · intro method value' known
        rw [learnt] at known
        refine (BpAllocator.remembers_remember known).imp_right ?_
        rintro ⟨value, rfl, answer⟩
        obtain ⟨rfl, ok⟩ := tells
        exact ⟨ok, answer⟩

end Explained

/-- The calls of the service happen in the states of the run. -/
theorem explained_run {Guard : State → Prop} {first : State}
    {events : List (RemoteEvent Name AStatus)} {last : BpAllocator × State}
    (run : Run ((proxySystem api ndk driver none impl).guarded fun state _ => Guard state.2)
      ({}, first) events last) :
    ∃ served, Explained api impl Guard first events last.1 last.2 served := by
  refine run.history_invariant (fun events state =>
    ∃ served, Explained api impl Guard first events state.1 state.2 served) ?_ ?_
  · exact ⟨[], .refl, .nil,
      fun _ _ _ known => absurd known BpAllocator.not_remembers_new⟩
  · rintro events state event next ⟨served, h⟩ ⟨guard, hstep⟩
    exact (h.step guard hstep).imp' (served ++ ·) fun _ => id

/-- Whatever becomes of their transactions, the calls of a proxy are calls of the service, each
at most once and in their order, and each has the answer of its own call, or that of an earlier
one that the proxy remembers, or none. -/
theorem remote_run {first : State} {events : List (RemoteEvent Name AStatus)}
    {last : BpAllocator × State}
    (run : Run (proxySystem api ndk driver none impl) ({}, first) events last) :
    ∃ served, Run (localSystem impl) first served last.2 ∧
      (served.map LocalEvent.request).Sublist (events.map fun event => event.request) ∧
      Matched api events served := by
  obtain ⟨served, h⟩ := @explained_run _ _ _ _ _ _ _ _ (fun _ => True) _ _ _
    (run.to_guarded fun _ _ _ => trivial)
  exact ⟨served, h.run.of_guarded, h.matched.once, h.matched⟩

end Runs

/-- A call for the version, whose out parameter holds nine. -/
def versionEvent (fate : Fate) (status value : Word) : RemoteEvent (BitVec 64) Word where
  method := .getInterfaceVersion
  args := ()
  target := (9 : Word)
  status := status
  value := value
  torn := (7 : Word)
  fate := fate
  locals := bareLocals

def versionSystem : System (BpAllocator × Unit) (RemoteEvent (BitVec 64) Word) :=
  proxySystem wordApi byteNdk byteDriver none bareService

/-- Requests and replies that do not arrive, one that does, and one that is not made. -/
theorem version_run : Run versionSystem ({}, ())
    [versionEvent (.refused statusBadValue) (-129) 9, versionEvent (.lost statusBadValue) (-129) 9,
      versionEvent .delivered 0 2, versionEvent (.refused statusBadValue) 0 2]
    ({ cachedVersion := 2 }, ()) := by
  have refused : versionSystem.step ({}, ())
      (versionEvent (.refused statusBadValue) (-129) 9) ({}, ()) := rfl
  have lost : versionSystem.step ({}, ())
      (versionEvent (.lost statusBadValue) (-129) 9) ({}, ()) := rfl
  have delivered : versionSystem.step ({}, ())
      (versionEvent .delivered 0 2) ({ cachedVersion := 2 }, ()) := rfl
  have remembered : versionSystem.step ({ cachedVersion := 2 }, ())
      (versionEvent (.refused statusBadValue) 0 2) ({ cachedVersion := 2 }, ()) := rfl
  exact (((Run.single refused).tail lost).tail delivered).tail remembered

theorem remote_run_version : ∃ served, Run (localSystem bareService) () served () ∧
    (served.map LocalEvent.request).Sublist
      (List.replicate 4 ⟨.getInterfaceVersion, ()⟩) ∧
    Matched wordApi [versionEvent (.refused statusBadValue) (-129) 9,
      versionEvent (.lost statusBadValue) (-129) 9, versionEvent .delivered 0 2,
      versionEvent (.refused statusBadValue) 0 2] served := by
  obtain ⟨served, run, once, matched⟩ := remote_run version_run
  exact ⟨served, run, once, matched⟩

end GrallocGbmMesa.Aidl
