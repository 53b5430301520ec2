import GrallocGbmMesa.Aidl.Parcelables

/-!
# The allocator interface over binder

What the AIDL compiler made of `IAllocator`: the stub that serves transactions and the proxy
that makes them.  What the driver does with a transaction is a parameter.
-/

namespace GrallocGbmMesa.Aidl

open Checked ByteStream Parcels
open GrallocGbmMesa.Platform
open GrallocGbmMesa.Allocator (AllocationError)

def statusUnknownTransaction : BinderError := ⟨-74, by decide⟩

/-- `AStatus`, with the functions that the generated code calls. -/
structure StatusApi (Cell AStatus : Type) where
  isOk : AStatus → Bool
  /-- `AStatus_newOk`, and `AStatus_fromStatus` of `STATUS_OK` -/
  newOk : AStatus
  /-- `AStatus_fromStatus` of a failure -/
  fromError : BinderError → AStatus
  /-- `AStatus_fromServiceSpecificError` -/
  fromServiceSpecificError : AllocationError → AStatus
  /-- `AParcel_readStatusHeader` and `AParcel_writeStatusHeader` -/
  header : Codec Cell BinderError AStatus
  isOk_newOk : isOk newOk = true
  isOk_fromError : ∀ error, isOk (fromError error) = false
  isOk_fromServiceSpecificError : ∀ error, isOk (fromServiceSpecificError error) = false

/-- A method gets what its out parameter holds, and says what it holds afterwards. -/
abbrev Operation (AStatus State Args Return : Type) :=
  Args → Return → State → Except Fault (AStatus × Return × State)

structure AllocateArgs where
  descriptor : List Byte
  count : Word

structure Allocate2Args (Name : Type) where
  descriptor : BufferDescriptorInfo Name
  count : Word

/-- The methods that a service implements itself. -/
structure ServiceMethods (Name AStatus State : Type) where
  allocate : Operation AStatus State AllocateArgs AllocationResult
  allocate2 : Operation AStatus State (Allocate2Args Name) AllocationResult
  isSupported : Operation AStatus State (BufferDescriptorInfo Name) Bool
  getIMapperLibrarySuffix : Operation AStatus State Unit String

structure IAllocator (Name AStatus State : Type) extends ServiceMethods Name AStatus State where
  getInterfaceVersion : Operation AStatus State Unit Word
  getInterfaceHash : Operation AStatus State Unit String

variable {Cell Name AStatus State Args Return : Type}

/-! ## Transactions -/

structure Transaction (Cell Args Return : Type) where
  code : ℕ
  args : Layout Cell BinderError Args
  result : Codec Cell BinderError Return

def firstCallTransaction : ℕ := 1

section Transactions

variable (ndk : Ndk Cell Name)

def noArgs : Layout Cell BinderError Unit where
  fields := []
  covers _ _ := rfl

def allocateTransaction : Transaction Cell AllocateArgs AllocationResult where
  code := firstCallTransaction + 0
  args :=
    { fields :=
        [⟨ndk.bytes, (·.descriptor), fun args descriptor => { args with descriptor }⟩,
          ⟨ndk.medium.int32, (·.count), fun args count => { args with count }⟩]
      covers := fun _ _ => rfl }
  result := ndk.parcelable ((AllocationResult.layout ndk).codec ndk.medium statusBadValue)

def allocate2Transaction : Transaction Cell (Allocate2Args Name) AllocationResult where
  code := firstCallTransaction + 1
  args :=
    { fields :=
        [⟨ndk.parcelable ((BufferDescriptorInfo.layout ndk).codec ndk.medium statusBadValue),
            (·.descriptor), fun args descriptor => { args with descriptor }⟩,
          ⟨ndk.medium.int32, (·.count), fun args count => { args with count }⟩]
      covers := fun _ _ => rfl }
  result := ndk.parcelable ((AllocationResult.layout ndk).codec ndk.medium statusBadValue)

def isSupportedTransaction : Transaction Cell (BufferDescriptorInfo Name) Bool where
  code := firstCallTransaction + 2
  args :=
    { fields :=
        [⟨ndk.parcelable ((BufferDescriptorInfo.layout ndk).codec ndk.medium statusBadValue),
            id, fun _ descriptor => descriptor⟩]
      covers := fun _ _ => rfl }
  result := ndk.bool

def getIMapperLibrarySuffixTransaction : Transaction Cell Unit String where
  code := firstCallTransaction + 3
  args := noArgs
  result := ndk.string

def getInterfaceVersionTransaction : Transaction Cell Unit Word where
  code := firstCallTransaction + 16777214
  args := noArgs
  result := ndk.medium.int32

def getInterfaceHashTransaction : Transaction Cell Unit String where
  code := firstCallTransaction + 16777213
  args := noArgs
  result := ndk.string

end Transactions

/-! ## The stub -/

section Stub

variable (api : StatusApi Cell AStatus)

/-- What a case of `onTransact` writes once the method has returned. -/
def writeReply (result : Codec Cell BinderError Return) (status : AStatus) (returned : Return)
    (out : Parcel Cell) : Except BinderError (Parcel Cell) := do
  let out ← api.header.write status out
  if api.isOk status then result.write returned out else return out

/-- A case of `onTransact`; `locals` and `returned` are its variables. -/
def serveTransaction (transaction : Transaction Cell Args Return) (locals : Args)
    (returned : Return) (operation : Operation AStatus State Args Return)
    (inp out : Parcel Cell) (s : State) :
    Except Fault (Except BinderError (Parcel Cell) × State) :=
  match readMessage transaction.args.fields locals inp with
  | .error error => .ok (.error error, s)
  | .ok (args, _) => do
      let (status, returned, s) ← operation args returned s
      return (writeReply api transaction.result status returned out, s)

/-- The local variables of `onTransact` that have no initial value, and a descriptor as its
class initialises it. -/
structure StubLocals (Name : Type) where
  descriptor : BufferDescriptorInfo Name
  count : Word
  supported : Bool
  version : Word

/-- `_aidl_android_hardware_graphics_allocator_IAllocator_onTransact` -/
def onTransact (ndk : Ndk Cell Name) (locals : StubLocals Name)
    (impl : IAllocator Name AStatus State) (code : ℕ) (inp out : Parcel Cell) (s : State) :
    Except Fault (Except BinderError (Parcel Cell) × State) :=
  if code = firstCallTransaction + 0 then
    serveTransaction api (allocateTransaction ndk) ⟨[], locals.count⟩ {} impl.allocate inp out s
  else if code = firstCallTransaction + 1 then
    serveTransaction api (allocate2Transaction ndk) ⟨locals.descriptor, locals.count⟩ {}
      impl.allocate2 inp out s
  else if code = firstCallTransaction + 2 then
    serveTransaction api (isSupportedTransaction ndk) locals.descriptor locals.supported
      impl.isSupported inp out s
  else if code = firstCallTransaction + 3 then
    serveTransaction api (getIMapperLibrarySuffixTransaction ndk) () ""
      impl.getIMapperLibrarySuffix inp out s
  else if code = firstCallTransaction + 16777214 then
    serveTransaction api (getInterfaceVersionTransaction ndk) () locals.version
      impl.getInterfaceVersion inp out s
  else if code = firstCallTransaction + 16777213 then
    serveTransaction api (getInterfaceHashTransaction ndk) () ""
      impl.getInterfaceHash inp out s
  else .ok (.error statusUnknownTransaction, s)

end Stub

/-! ## The proxy -/

/-- A binder of another process. -/
structure AIBinder (Cell State : Type) where
  prepareTransaction : Except BinderError (Parcel Cell)
  transact : ℕ → Parcel Cell → State → Except Fault (Except BinderError (Parcel Cell) × State)

/-- How a method of the proxy goes on after its transaction. -/
inductive Reply (AStatus Return : Type) where
  /-- `goto _aidl_error`, with what the out parameter holds there -/
  | failed (error : BinderError) (out : Return)
  | unknownTransaction
  | exception (status : AStatus)
  | returned (value : Return)

section Proxy

variable (api : StatusApi Cell AStatus)

/-- Read a reply into `target`; `torn` is what a failed read leaves there. -/
def readReply (result : Codec Cell BinderError Return) (target torn : Return)
    (out : Parcel Cell) : Reply AStatus Return :=
  match api.header.read api.newOk out with
  | .error error => .failed error target
  | .ok (status, out) =>
      if ¬ api.isOk status then .exception status
      else
        match result.read target out with
        | .error error => .failed error torn
        | .ok (value, _) => .returned value

/-- Make a transaction. -/
def remoteReply (binder : AIBinder Cell State) (transaction : Transaction Cell Args Return)
    (torn : Return) (args : Args) (target : Return) (s : State) :
    Except Fault (Reply AStatus Return × State) :=
  match (do
      let inp ← binder.prepareTransaction
      writeFields transaction.args.fields args inp) with
  | .error error => .ok (.failed error target, s)
  | .ok inp => do
      let (reply, s) ← binder.transact transaction.code inp s
      match reply with
      | .error error =>
          return (if error = statusUnknownTransaction then .unknownTransaction
            else .failed error target, s)
      | .ok out => return (readReply api transaction.result target torn out, s)

/-- What a method returns after a reply; `defaultImpl` is that method of the default
implementation. -/
def concludeCall (defaultImpl : Option (Operation AStatus State Args Return)) (args : Args)
    (target : Return) (reply : Reply AStatus Return) (s : State) :
    Except Fault (AStatus × Return × State) :=
  match reply with
  | .failed error out => .ok (api.fromError error, out, s)
  | .unknownTransaction =>
      match defaultImpl with
      | some operation => operation args target s
      | none => .ok (api.fromError statusUnknownTransaction, target, s)
  | .exception status => .ok (status, target, s)
  | .returned value => .ok (api.newOk, value, s)

/-- A method of the proxy. -/
def remoteCall (binder : AIBinder Cell State) (transaction : Transaction Cell Args Return)
    (defaultImpl : Option (Operation AStatus State Args Return)) (torn : Return) :
    Operation AStatus State Args Return := fun args target s => do
  let (reply, s) ← remoteReply api binder transaction torn args target s
  concludeCall api defaultImpl args target reply s

/-- The proxy remembers the version and the hash of the interface. -/
structure BpAllocator where
  cachedVersion : Word := -1
  cachedHash : String := "-1"
  deriving DecidableEq, Repr

namespace BpAllocator

variable (ndk : Ndk Cell Name) (binder : AIBinder Cell State)
  (defaultImpl : Option (IAllocator Name AStatus State))

def allocate (torn : AllocationResult) : Operation AStatus State AllocateArgs AllocationResult :=
  remoteCall api binder (allocateTransaction ndk) (defaultImpl.map (·.allocate)) torn

def allocate2 (torn : AllocationResult) :
    Operation AStatus State (Allocate2Args Name) AllocationResult :=
  remoteCall api binder (allocate2Transaction ndk) (defaultImpl.map (·.allocate2)) torn

def isSupported (torn : Bool) : Operation AStatus State (BufferDescriptorInfo Name) Bool :=
  remoteCall api binder (isSupportedTransaction ndk) (defaultImpl.map (·.isSupported)) torn

def getIMapperLibrarySuffix (torn : String) : Operation AStatus State Unit String :=
  remoteCall api binder (getIMapperLibrarySuffixTransaction ndk)
    (defaultImpl.map (·.getIMapperLibrarySuffix)) torn

/-- The results are the status, the version, and the proxy afterwards. -/
def getInterfaceVersion (proxy : BpAllocator) (torn target : Word) (s : State) :
    Except Fault (AStatus × Word × BpAllocator × State) :=
  if proxy.cachedVersion ≠ -1 then .ok (api.newOk, proxy.cachedVersion, proxy, s)
  else do
    let (reply, s) ←
      remoteReply api binder (getInterfaceVersionTransaction ndk) torn () target s
    let proxy :=
      match reply with
      | .returned version => { proxy with cachedVersion := version }
      | _ => proxy
    let (status, version, s) ←
      concludeCall api (defaultImpl.map (·.getInterfaceVersion)) () target reply s
    return (status, version, proxy, s)

/-- The results are the status, the hash, and the proxy afterwards. -/
def getInterfaceHash (proxy : BpAllocator) (torn target : String) (s : State) :
    Except Fault (AStatus × String × BpAllocator × State) :=
  if proxy.cachedHash ≠ "-1" then .ok (api.newOk, proxy.cachedHash, proxy, s)
  else do
    let (reply, s) ←
      remoteReply api binder (getInterfaceHashTransaction ndk) torn () target s
    let proxy :=
      match reply with
      | .returned hash => { proxy with cachedHash := hash }
      | _ => proxy
    let (status, hash, s) ←
      concludeCall api (defaultImpl.map (·.getInterfaceHash)) () target reply s
    return (status, hash, proxy, s)

end BpAllocator

end Proxy

/-! ## The implementations there are -/

/-- What `BnAllocator` adds to the methods of a service. -/
def bnAllocator (api : StatusApi Cell AStatus) (version : Word) (hash : String)
    (service : ServiceMethods Name AStatus State) : IAllocator Name AStatus State where
  toServiceMethods := service
  getInterfaceVersion _ _ s := .ok (api.newOk, version, s)
  getInterfaceHash _ _ s := .ok (api.newOk, hash, s)

def iAllocatorDefault (api : StatusApi Cell AStatus) : IAllocator Name AStatus State where
  allocate _ target s := .ok (api.fromError statusUnknownTransaction, target, s)
  allocate2 _ target s := .ok (api.fromError statusUnknownTransaction, target, s)
  isSupported _ target s := .ok (api.fromError statusUnknownTransaction, target, s)
  getIMapperLibrarySuffix _ target s := .ok (api.fromError statusUnknownTransaction, target, s)
  getInterfaceVersion _ _ s := .ok (api.newOk, 0, s)
  getInterfaceHash _ _ s := .ok (api.newOk, "", s)

/-! ## All methods -/

inductive Method where
  | allocate
  | allocate2
  | isSupported
  | getIMapperLibrarySuffix
  | getInterfaceVersion
  | getInterfaceHash
  deriving DecidableEq, Repr

namespace Method

abbrev Arguments (Name : Type) : Method → Type
  | allocate => AllocateArgs
  | allocate2 => Allocate2Args Name
  | isSupported => BufferDescriptorInfo Name
  | getIMapperLibrarySuffix | getInterfaceVersion | getInterfaceHash => Unit

abbrev Returns : Method → Type
  | allocate | allocate2 => AllocationResult
  | isSupported => Bool
  | getIMapperLibrarySuffix | getInterfaceHash => String
  | getInterfaceVersion => Word

def transaction (ndk : Ndk Cell Name) :
    (method : Method) → Transaction Cell (method.Arguments Name) method.Returns
  | allocate => allocateTransaction ndk
  | allocate2 => allocate2Transaction ndk
  | isSupported => isSupportedTransaction ndk
  | getIMapperLibrarySuffix => getIMapperLibrarySuffixTransaction ndk
  | getInterfaceVersion => getInterfaceVersionTransaction ndk
  | getInterfaceHash => getInterfaceHashTransaction ndk

end Method

/-- A method of an implementation. -/
def IAllocator.operation (impl : IAllocator Name AStatus State) :
    (method : Method) → Operation AStatus State (method.Arguments Name) method.Returns
  | .allocate => impl.allocate
  | .allocate2 => impl.allocate2
  | .isSupported => impl.isSupported
  | .getIMapperLibrarySuffix => impl.getIMapperLibrarySuffix
  | .getInterfaceVersion => impl.getInterfaceVersion
  | .getInterfaceHash => impl.getInterfaceHash

/-- The variables that the arguments are read into. -/
def StubLocals.args (locals : StubLocals Name) : (method : Method) → method.Arguments Name
  | .allocate => ⟨[], locals.count⟩
  | .allocate2 => ⟨locals.descriptor, locals.count⟩
  | .isSupported => locals.descriptor
  | .getIMapperLibrarySuffix | .getInterfaceVersion | .getInterfaceHash => ()

/-- `_aidl_return` -/
def StubLocals.returned (locals : StubLocals Name) : (method : Method) → method.Returns
  | .allocate | .allocate2 => ({} : AllocationResult)
  | .isSupported => locals.supported
  | .getIMapperLibrarySuffix | .getInterfaceHash => ""
  | .getInterfaceVersion => locals.version

namespace BpAllocator

/-- A method of the proxy.  The results are the status, the value, and the proxy afterwards. -/
def call (api : StatusApi Cell AStatus) (ndk : Ndk Cell Name) (binder : AIBinder Cell State)
    (defaultImpl : Option (IAllocator Name AStatus State)) (proxy : BpAllocator)
    (method : Method) (torn target : method.Returns) (args : method.Arguments Name) (s : State) :
    Except Fault (AStatus × method.Returns × BpAllocator × State) :=
  match method with
  | .allocate => do
      let (status, value, s) ← allocate api ndk binder defaultImpl torn args target s
      return (status, value, proxy, s)
  | .allocate2 => do
      let (status, value, s) ← allocate2 api ndk binder defaultImpl torn args target s
      return (status, value, proxy, s)
  | .isSupported => do
      let (status, value, s) ← isSupported api ndk binder defaultImpl torn args target s
      return (status, value, proxy, s)
  | .getIMapperLibrarySuffix => do
      let (status, value, s) ←
        getIMapperLibrarySuffix api ndk binder defaultImpl torn args target s
      return (status, value, proxy, s)
  | .getInterfaceVersion => getInterfaceVersion api ndk binder defaultImpl proxy torn target s
  | .getInterfaceHash => getInterfaceHash api ndk binder defaultImpl proxy torn target s

/-- What the proxy answers without a transaction. -/
def Remembers (proxy : BpAllocator) : (method : Method) → method.Returns → Prop
  | .getInterfaceVersion, version => proxy.cachedVersion ≠ -1 ∧ proxy.cachedVersion = version
  | .getInterfaceHash, hash => proxy.cachedHash ≠ "-1" ∧ proxy.cachedHash = hash
  | .allocate, _ | .allocate2, _ | .isSupported, _ | .getIMapperLibrarySuffix, _ => False

/-- The proxy after a reply. -/
def remember (proxy : BpAllocator) : (method : Method) → Reply AStatus method.Returns → BpAllocator
  | .getInterfaceVersion, .returned version => { proxy with cachedVersion := version }
  | .getInterfaceHash, .returned hash => { proxy with cachedHash := hash }
  | _, _ => proxy

variable {api : StatusApi Cell AStatus} {ndk : Ndk Cell Name} {binder : AIBinder Cell State}
  {defaultImpl : Option (IAllocator Name AStatus State)} {proxy proxy' : BpAllocator}
  {method : Method} {torn target value : method.Returns} {args : method.Arguments Name}
  {status : AStatus} {s s' : State}

theorem not_remembers_new : ¬ ({} : BpAllocator).Remembers method value := by
  cases method with
  | getInterfaceVersion => exact fun known => known.1 rfl
  | getInterfaceHash => exact fun known => known.1 rfl
  | _ => exact id

/-- A proxy remembers what it did before, and the value that was returned. -/
theorem remembers_remember {reply : Reply AStatus method.Returns} {method' : Method}
    {value' : method'.Returns} (h : (proxy.remember method reply).Remembers method' value') :
    proxy.Remembers method' value' ∨ ∃ value, reply = .returned value ∧
      (⟨method, value⟩ : (method : Method) × method.Returns) = ⟨method', value'⟩ := by
  cases reply with
  | failed error out => cases method <;> exact .inl h
  | unknownTransaction => cases method <;> exact .inl h
  | exception status => cases method <;> exact .inl h
  | returned value =>
      cases method with
      | getInterfaceVersion =>
          cases method' with
          | getInterfaceVersion => exact .inr ⟨value, rfl, congrArg _ h.2⟩
          | _ => exact .inl h
      | getInterfaceHash =>
          cases method' with
          | getInterfaceHash => exact .inr ⟨value, rfl, congrArg _ h.2⟩
          | _ => exact .inl h
      | _ => exact .inl h

theorem remember_silent {reply : Reply AStatus method.Returns}
    (silent : ∀ value, reply ≠ .returned value) : proxy.remember method reply = proxy := by
  cases reply with
  | returned value => exact absurd rfl (silent value)
  | _ => cases method <;> rfl

/-- The replies to other methods do not change what is remembered. -/
theorem Remembers.remember (known : proxy.Remembers method value) {method' : Method}
    (other : method' ≠ method) (reply : Reply AStatus method'.Returns) :
    (proxy.remember method' reply).Remembers method value := by
  cases reply with
  | returned value' =>
      cases method' with
      | getInterfaceVersion =>
          cases method with
          | getInterfaceVersion => exact absurd rfl other
          | getInterfaceHash => exact known
          | _ => cases known
      | getInterfaceHash =>
          cases method with
          | getInterfaceVersion => exact known
          | getInterfaceHash => exact absurd rfl other
          | _ => cases known
      | _ => exact known
  | failed error out => rwa [remember_silent (by rintro value ⟨⟩)]
  | unknownTransaction => rwa [remember_silent (by rintro value ⟨⟩)]
  | exception status => rwa [remember_silent (by rintro value ⟨⟩)]

theorem call_remembered (known : proxy.Remembers method value) :
    call api ndk binder defaultImpl proxy method torn target args s =
      .ok (api.newOk, value, proxy, s) := by
  cases method with
  | getInterfaceVersion =>
      obtain ⟨cached, rfl⟩ := known
      exact if_pos cached
  | getInterfaceHash =>
      obtain ⟨cached, rfl⟩ := known
      exact if_pos cached
  | allocate => cases known
  | allocate2 => cases known
  | isSupported => cases known
  | getIMapperLibrarySuffix => cases known

/-- What the proxy does not remember it asks for. -/
theorem call_eq (unknown : ∀ value, ¬ proxy.Remembers method value) :
    call api ndk binder defaultImpl proxy method torn target args s =
      (do
        let (reply, s) ← remoteReply api binder (method.transaction ndk) torn args target s
        let (status, value, s) ←
          concludeCall api (defaultImpl.map (·.operation method)) args target reply s
        return (status, value, proxy.remember method reply, s)) := by
  cases method with
  | getInterfaceVersion =>
      refine (if_neg fun cached => unknown _ ⟨cached, rfl⟩).trans ?_
      refine bind_congr fun ⟨reply, t⟩ => ?_
      cases reply <;> rfl
  | getInterfaceHash =>
      refine (if_neg fun cached => unknown _ ⟨cached, rfl⟩).trans ?_
      refine bind_congr fun ⟨reply, t⟩ => ?_
      cases reply <;> rfl
  | allocate => exact bind_assoc ..
  | allocate2 => exact bind_assoc ..
  | isSupported => exact bind_assoc ..
  | getIMapperLibrarySuffix => exact bind_assoc ..

/-- A method answers from memory, or makes a transaction. -/
theorem call_cases
    (h : call api ndk binder defaultImpl proxy method torn target args s =
      .ok (status, value, proxy', s')) :
    (proxy.Remembers method value ∧ status = api.newOk ∧ proxy' = proxy ∧ s' = s) ∨
      ∃ reply t,
        remoteReply api binder (method.transaction ndk) torn args target s = .ok (reply, t) ∧
        concludeCall api (defaultImpl.map (·.operation method)) args target reply t =
          .ok (status, value, s') ∧ proxy' = proxy.remember method reply := by
  by_cases unknown : ∀ value, ¬ proxy.Remembers method value
  · rw [call_eq unknown] at h
    obtain ⟨⟨reply, t⟩, replied, h⟩ := bind_eq_ok.mp h
    obtain ⟨⟨_, _, _⟩, concluded, h⟩ := bind_eq_ok.mp h
    cases h
    exact .inr ⟨reply, t, replied, concluded, rfl⟩
  · simp only [not_forall, not_not] at unknown
    obtain ⟨known, remembered⟩ := unknown
    rw [call_remembered remembered] at h
    cases h
    exact .inl ⟨remembered, rfl, rfl, rfl⟩

end BpAllocator

/-- The code of a method leads to its case. -/
theorem onTransact_method (api : StatusApi Cell AStatus) (ndk : Ndk Cell Name)
    (locals : StubLocals Name) (impl : IAllocator Name AStatus State) (method : Method)
    (inp out : Parcel Cell) (s : State) :
    onTransact api ndk locals impl (method.transaction ndk).code inp out s =
      serveTransaction api (method.transaction ndk) (locals.args method)
        (locals.returned method) (impl.operation method) inp out s := by
  cases method <;> rfl

end GrallocGbmMesa.Aidl
