import GrallocGbmMesa.Core.Outcome
import GrallocGbmMesa.Gralloc4.Gralloc

/-!
# The allocation device of the gralloc module

The four calls of the module that concern the life of a buffer.  Both kinds of
release are one core function.
-/

namespace GrallocGbmMesa.Gralloc4

open Checked
open GrallocGbmMesa.Platform GrallocGbmMesa.Core

/-- What the platform answers to one call of `gralloc_mod_alloc_alloc`. -/
structure ModuleAllocEnv where
  init : ModuleInitEnv
  alloc : AllocEnv

/-- The descriptor the module makes of the arguments of a call. -/
def moduleDesc (w h format usage : Word) : GrallocBufferDesc where
  width := w
  height := h
  androidFormat := format
  androidUsage := usage
  gbmFormat := grallocGmAndroidFormatToGbmFormat format
  flags := grallocGmGetGbmFlagsFromAndroidUsage usage format

/-- What is stored through `handle` and `stride`, if anything is. -/
structure ModuleAlloc where
  handle : Option Ptr := none
  stride : Option Word := none
  deriving DecidableEq, Repr

def grallocModAllocAlloc (env : ModuleAllocEnv) (mod : GrallocGbmModule) (s : Process)
    (w h format usage : Word) : Except Fault (Int × ModuleAlloc × GrallocGbmModule × Process) := do
  let (err, mod, s) ← grallocModGbmInit env.init mod s
  if err ≠ 0 then .ok (err, {}, mod, s)
  else
    let (err, stored, s) ← grallocAllocate env.alloc s (moduleDesc w h format usage)
    -- `hnd` is `NULL` unless something was stored
    let hnd := (stored.map Prod.snd).getD 0
    .ok (err, { handle := if err = 0 then some hnd else none, stride := stored.map Prod.fst },
      mod, s)

/-- `errno` is the value of the thread's error number on entry. -/
def grallocModAllocFree (errno : Int) (s : Process) (handle : Ptr) :
    Except Fault (Int × Process) :=
  grallocGmBufferFree errno s handle

/-- What the platform answers to one call of `gralloc_mod_register_buffer`. -/
structure ModuleRegisterEnv where
  init : ModuleInitEnv
  gbm : ImportEnv

def grallocModRegisterBuffer (env : ModuleRegisterEnv) (mod : GrallocGbmModule) (s : Process)
    (handle : Ptr) : Except Fault (Int × GrallocGbmModule × Process) := do
  let (err, mod, s) ← grallocModGbmInit env.init mod s
  if err ≠ 0 then .ok (err, mod, s)
  else
    let (err, s) ← grallocGmBufferImport env.gbm s handle
    .ok (err, mod, s)

def grallocModUnregisterBuffer (errno : Int) (s : Process) (handle : Ptr) :
    Except Fault (Int × Process) :=
  grallocGmBufferFree errno s handle

end GrallocGbmMesa.Gralloc4
