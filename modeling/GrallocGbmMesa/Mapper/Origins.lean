import GrallocGbmMesa.Mapper.LedgerSteps

/-!
# Where a handle comes from

A handle that a session holds is a clone of the raw handle it was imported
from: it has descriptors of its own and the same ints for as long as it is held.
-/

namespace GrallocGbmMesa.Mapper

open Checked TransitionSystem
open GrallocGbmMesa.Platform GrallocGbmMesa.Core

/-- The raw handle a handle was last imported from, after an event. -/
def MapperEvent.origin (handle : Ptr) (event : MapperEvent) (last : Option NativeHandle) :
    Option NativeHandle :=
  if event.importedHandle = some handle then
    match event.call with
    | .importBuffer raw _ => some raw
    | _ => none
  else last

/-- The raw handle a handle was last imported from. -/
def origin (handle : Ptr) (history : List MapperEvent) : Option NativeHandle :=
  history.foldl (fun last event => event.origin handle last) none

theorem origin_append (handle : Ptr) (history : List MapperEvent) (event : MapperEvent) :
    origin handle (history ++ [event]) = event.origin handle (origin handle history) := by
  simp [origin, List.foldl_append]

/-- An event that does not import the handle leaves its origin. -/
theorem origin_kept {handle : Ptr} {event : MapperEvent}
    (noImport : event.importedHandle ≠ some handle) (history : List MapperEvent) :
    origin handle (history ++ [event]) = origin handle history := by
  rw [origin_append, MapperEvent.origin, if_neg noImport]

/-- An event that gives out a handle places a clone of a raw handle there. -/
theorem importedHandle_placed {session next : Session} {event : MapperEvent} {handle : Ptr}
    (can : CanImport session.mapper) (hstep : mapperSystem.step session event next)
    (given : event.importedHandle = some handle) :
    ∃ raw env fds, event.call = .importBuffer raw env ∧
      next.mapper.process.handles handle = some { raw with fds } := by
  obtain ⟨call, result⟩ := event
  obtain ⟨admissible, performed, -⟩ := hstep
  cases call with
  | importBuffer raw env =>
      obtain ⟨⟨error, out, m₁⟩, himport, performed⟩ := bind_eq_ok.mp performed
      obtain ⟨rfl, hm⟩ := Prod.mk.inj (Except.ok.inj performed)
      rcases importBuffer_returns can admissible.2 himport with
        ⟨failed, -⟩ | ⟨rfl, -, -, p, fds, new, data, calls, rfl, -, -, -, rfl⟩
      · cases error with
        | none => exact absurd rfl failed
        | _ => cases given
      · cases given
        refine ⟨raw, env, fds, rfl, ?_⟩
        rw [← hm]
        exact cloned_handles ..
  | freeBuffer | lock | unlock | getStandardMetadata | setStandardMetadata =>
      obtain ⟨outcome, -, performed⟩ := bind_eq_ok.mp performed
      cases (Prod.mk.inj (Except.ok.inj performed)).1
      cases given

/-- Every buffer has the ints of the raw handle it was imported from. -/
def Originated (imports : List Import) (history : List MapperEvent) : Prop :=
  ∀ entry ∈ imports, ∃ raw, origin entry.handle history = some raw ∧ raw.ints = entry.ints

namespace Originated

variable {base : Process} {imports imports' : List Import} {session next : Session}
  {history : List MapperEvent} {event : MapperEvent}

theorem kept (h : Originated imports history) (noImport : event.importedHandle = none) :
    Originated imports (history ++ [event]) := by
  intro entry hmem
  rw [origin_kept (by rw [noImport]; exact nofun)]
  exact h entry hmem

theorem step (h : Originated imports history) (ledger : Ledger base imports session.mapper)
    (after : Ledger base imports' next.mapper) (hstep : mapperSystem.step session event next)
    (moved : LedgerStep session.mapper imports event next.mapper imports') :
    Originated imports' (history ++ [event]) := by
  cases moved with
  | kept noImport noWrite metadata => exact h.kept noImport
  | @imported entry given noWrite closed metadata =>
      intro other hother
      rcases List.mem_append.mp hother with before | new
      · have distinct := after.distinctHandles
        rw [List.map_append, List.nodup_append] at distinct
        have different : other.handle ≠ entry.handle :=
          distinct.2.2 _ (List.mem_map_of_mem before) _ (List.mem_singleton_self _)
        rw [origin_kept (by rw [given]; exact fun same => different (Option.some.inj same).symm)]
        exact h other before
      · cases List.mem_singleton.mp new
        obtain ⟨raw, env, fds, hcall, placed⟩ :=
          importedHandle_placed ledger.canImport hstep given
        refine ⟨raw, ?_, ?_⟩
        · rw [origin_append, MapperEvent.origin, if_pos given, hcall]
        · have same := placed.symm.trans (after.native hother)
          exact congrArg NativeHandle.ints (Option.some.inj same)
  | freed hmem noImport noWrite metadata =>
      intro other hother
      exact h.kept noImport other (List.mem_filter.mp hother).1
  | read hmem noImport noWrite metadata => exact h.kept noImport
  | written hmem hcall hresult stored =>
      refine h.kept ?_
      obtain ⟨call, result⟩ := event
      dsimp only at hresult
      rw [hresult]
      rfl

end Originated

end GrallocGbmMesa.Mapper
