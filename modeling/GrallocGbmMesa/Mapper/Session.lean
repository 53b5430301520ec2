import GrallocGbmMesa.Core.LockSafety
import GrallocGbmMesa.Mapper.ImportFree

/-!
# Sessions of the mapper

A client imports buffers, uses them and frees them, in any order.  A session is
the mapper together with the handles the client has been given and has not yet
freed; a step is a call on one of them, or an import, that returns.
-/

namespace GrallocGbmMesa.Mapper

open ByteStream Checked TransitionSystem
open GrallocGbmMesa.Platform GrallocGbmMesa.Core

/-- A call of the mapper, with the answers it gets from the platform.  The
fence of a lock is a descriptor the client has just received. -/
inductive MapperCall where
  | importBuffer (raw : NativeHandle) (env : ImportBufferEnv)
  | freeBuffer (buffer : Ptr) (errno : Int)
  | lock (buffer : Ptr) (cpuUsage : BitVec 64) (region : ARect) (fence : Option (Fd × FileId))
      (answer : GbmMapResult)
  | unlock (buffer : Ptr)
  | getStandardMetadata (buffer : Ptr) (type : BitVec 64) (outDataSize : Nat)
  | setStandardMetadata (buffer : Ptr) (type : BitVec 64) (metadata : List Byte)

/-- What a call hands back. -/
inductive MapperResult where
  | imported (error : AIMapperError) (handle : Option Ptr)
  | freed (error : AIMapperError)
  | locked (error : AIMapperError) (addr : Option Ptr)
  | unlocked (error : AIMapperError)
  | read (size : Int) (bytes : List Byte)
  | written (error : AIMapperError)
  deriving DecidableEq, Repr

/-- The state in which the client passes its fence on, and the fence. -/
def receiveFence (m : MapperState) : Option (Fd × FileId) → Fd × MapperState
  | none => (-1, m)
  | some (fd, file) => (fd, { m with process := m.process.openFd fd file })

def MapperCall.perform : MapperCall → MapperState → Except Fault (MapperResult × MapperState)
  | importBuffer raw env, m => do
      let (error, handle, m) ← Mapper.importBuffer env m (some raw)
      return (.imported error handle, m)
  | freeBuffer buffer errno, m => do
      let (error, m) ← Mapper.freeBuffer errno m buffer
      return (.freed error, m)
  | lock buffer cpuUsage region fence answer, m => do
      let (fd, m) := receiveFence m fence
      let (error, addr, m) ← Mapper.lock answer m buffer cpuUsage region fd
      return (.locked error addr, m)
  | unlock buffer, m => do
      let (error, _, m) ← Mapper.unlock m buffer
      return (.unlocked error, m)
  | getStandardMetadata buffer type outDataSize, m => do
      let (size, bytes, m) ← Mapper.getStandardMetadata m buffer type outDataSize
      return (.read size bytes, m)
  | setStandardMetadata buffer type metadata, m => do
      let (error, m) ← Mapper.setStandardMetadata m buffer type metadata
      return (.written error, m)

structure MapperEvent where
  call : MapperCall
  result : MapperResult

structure Session where
  mapper : MapperState
  /-- the handles imported and not yet freed, oldest first -/
  outstanding : List Ptr

/-- The client's handles after a call. -/
def MapperEvent.outstanding : MapperEvent → List Ptr → List Ptr
  | ⟨_, .imported .none (some handle)⟩, handles => handles ++ [handle]
  | ⟨.freeBuffer buffer _, .freed .none⟩, handles => handles.filter (· ≠ buffer)
  | _, handles => handles

/-- The raw handle is well formed, the platform answers with what is not in use,
and every other call is made on a handle the client holds. -/
def MapperCall.Admissible (session : Session) : MapperCall → Prop
  | importBuffer raw env => raw.WellFormed ∧ env.Fresh session.mapper.process
  | lock buffer _ _ fence answer =>
      buffer ∈ session.outstanding ∧ answer.Valid ∧
        ∀ fd file, fence = some (fd, file) → 0 ≤ fd.toInt ∧ session.mapper.process.fds fd = none
  | freeBuffer buffer _ | unlock buffer | getStandardMetadata buffer _ _
  | setStandardMetadata buffer _ _ => buffer ∈ session.outstanding

/-- Sessions start with a mapper constructed in an unused process. -/
def mapperSystem : System Session MapperEvent where
  initial session := session.outstanding = [] ∧
    ∃ env s, Unused s ∧ session.mapper = construct env s
  step session event next :=
    event.call.Admissible session ∧
      event.call.perform session.mapper = .ok (event.result, next.mapper) ∧
      next.outstanding = event.outstanding session.outstanding

/-- What a call hands back, if it returns. -/
def Session.result (session : Session) (call : MapperCall) : Option MapperResult :=
  match call.perform session.mapper with
  | .ok (result, _) => some result
  | .error _ => none

/-- The session after a call, for a call that returns. -/
def Session.next (session : Session) (call : MapperCall) : Session :=
  match call.perform session.mapper with
  | .ok (result, mapper) => ⟨mapper, MapperEvent.outstanding ⟨call, result⟩ session.outstanding⟩
  | .error _ => session

theorem Session.result_eq_some {session : Session} {call : MapperCall} {result : MapperResult} :
    session.result call = some result ↔
      ∃ mapper, call.perform session.mapper = .ok (result, mapper) := by
  unfold Session.result
  cases call.perform session.mapper with
  | error fault => simp
  | ok outcome => simp [Prod.ext_iff]

theorem Session.next_step {session : Session} {call : MapperCall} {result : MapperResult}
    (admissible : call.Admissible session) (returns : session.result call = some result) :
    mapperSystem.step session ⟨call, result⟩ (session.next call) := by
  obtain ⟨mapper, performed⟩ := Session.result_eq_some.mp returns
  unfold Session.next
  rw [performed]
  exact ⟨admissible, performed, rfl⟩

end GrallocGbmMesa.Mapper
