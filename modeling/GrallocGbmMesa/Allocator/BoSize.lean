import GrallocGbmMesa.Allocator.Allocator
import GrallocGbmMesa.Core.Outcome
import GrallocGbmMesa.Core.Sizes

/-!
# The size of a BO

Allocation and import round the size of an image up in 32-bit arithmetic, and add the
planes of a YV12 image below each other.  The BO holds the image as long as no rounding
and no sum wraps around.
-/

namespace GrallocGbmMesa.Allocator

open Bits Checked Rounding
open GrallocGbmMesa.Platform GrallocGbmMesa.Core

/-! ## Sizes that fit -/

/-- The image of a descriptor fits into a BO of this size. -/
def HoldsImage (desc : GrallocBufferDesc) (padded : Prop) (width height : Nat) : Prop :=
  if desc.androidFormat = halPixelFormatYv12 then
    32 ∣ 2 * width ∧ desc.width.toNat ≤ 2 * width ∧
      desc.height.toNat + desc.height.toNat ⌈/⌉ 2 ≤ height
  else
    desc.width.toNat ≤ width ∧ desc.height.toNat ≤ height ∧
      (padded → 64 ≤ width ∧ 64 ≤ height ∧ 16 ∣ width ∧ 16 ∣ height)

instance (desc : GrallocBufferDesc) (padded : Prop) [Decidable padded] (width height : Nat) :
    Decidable (HoldsImage desc padded width height) :=
  inferInstanceAs (Decidable (ite ..))

/-- The size is what its formula gives over the numbers. -/
def Unwrapped (desc : GrallocBufferDesc) (padded : Prop) (width height : Nat) : Prop :=
  if desc.androidFormat = halPixelFormatYv12 then
    width = desc.width.toNat ⌈/⌉ 32 * 32 / 2 ∧
      height = desc.height.toNat + desc.height.toNat ⌈/⌉ 2 * 2 / 2
  else
    (padded → width = cursorExtent desc.width.toNat ∧ height = cursorExtent desc.height.toNat) ∧
      (¬ padded → width = desc.width.toNat ∧ height = desc.height.toNat)

instance (desc : GrallocBufferDesc) (padded : Prop) [Decidable padded] (width height : Nat) :
    Decidable (Unwrapped desc padded width height) :=
  inferInstanceAs (Decidable (ite ..))

/-- The BO is large enough, and nothing on the way to its size has wrapped around. -/
def SizeFits (desc : GrallocBufferDesc) (padded : Prop) (width height : Word) : Prop :=
  HoldsImage desc padded width.toNat height.toNat ∧
    Unwrapped desc padded width.toNat height.toNat

instance (desc : GrallocBufferDesc) (padded : Prop) [Decidable padded] (width height : Word) :
    Decidable (SizeFits desc padded width height) :=
  inferInstanceAs (Decidable (_ ∧ _))

/-- There is room for what the rounding and the third plane add. -/
def SizeFitsWhen (desc : GrallocBufferDesc) (padded : Prop) : Prop :=
  if desc.androidFormat = halPixelFormatYv12 then
    desc.width.toNat + 32 ≤ 2 ^ 32 ∧ 3 * desc.height.toNat < 2 ^ 33
  else padded → desc.width.toNat + 16 ≤ 2 ^ 32 ∧ desc.height.toNat + 16 ≤ 2 ^ 32

instance (desc : GrallocBufferDesc) (padded : Prop) [Decidable padded] :
    Decidable (SizeFitsWhen desc padded) :=
  inferInstanceAs (Decidable (ite ..))

/-! ## The two formulas -/

section Formulas

variable {desc : GrallocBufferDesc} {padded : Prop}

theorem sizeFits_planar_iff (planar : desc.androidFormat = halPixelFormatYv12) :
    SizeFits desc padded (align desc.width 32 / 2) (desc.height + align desc.height 2 / 2) ↔
      desc.width.toNat + 32 ≤ 2 ^ 32 ∧ 3 * desc.height.toNat < 2 ^ 33 := by
  have half : desc.height.toNat ⌈/⌉ 2 = (desc.height.toNat + 2 - 1) / 2 :=
    Nat.ceilDiv_eq_add_pred_div ..
  have covers := le_ceilDiv_mul desc.width.toNat (show 0 < 32 by decide)
  have below := (desc.height + align desc.height 2 / 2).isLt
  unfold SizeFits HoldsImage Unwrapped
  rw [if_pos planar, if_pos planar, planarWidth_toNat]
  constructor
  · rintro ⟨⟨-, width, height⟩, -⟩
    refine ⟨?_, by omega⟩
    by_contra full
    rw [if_neg full] at width
    omega
  · rintro ⟨width, height⟩
    rw [if_pos width, planarHeight_toNat height, Nat.mul_div_cancel _ (by decide)]
    exact ⟨⟨by omega, by omega, Nat.le_refl _⟩, rfl, rfl⟩

theorem sizeFits_padded_iff (packed : desc.androidFormat ≠ halPixelFormatYv12) (padding : padded) :
    SizeFits desc padded (cursorSize desc.width) (cursorSize desc.height) ↔
      desc.width.toNat + 16 ≤ 2 ^ 32 ∧ desc.height.toNat + 16 ≤ 2 ^ 32 := by
  unfold SizeFits HoldsImage Unwrapped
  rw [if_neg packed, if_neg packed, ← cursorSize_eq_extent_iff, ← cursorSize_eq_extent_iff]
  constructor
  · rintro ⟨-, exact, -⟩
    exact exact padding
  · rintro ⟨width, height⟩
    rw [width, height]
    obtain ⟨wide, least, step⟩ := cursorExtent_bounds desc.width.toNat
    obtain ⟨tall, least', step'⟩ := cursorExtent_bounds desc.height.toNat
    exact ⟨⟨wide, tall, fun _ => ⟨least, least', step, step'⟩⟩, fun _ => ⟨rfl, rfl⟩,
      fun plain => absurd padding plain⟩

theorem sizeFits_plain (packed : desc.androidFormat ≠ halPixelFormatYv12) (plain : ¬ padded) :
    SizeFits desc padded desc.width desc.height := by
  unfold SizeFits HoldsImage Unwrapped
  rw [if_neg packed, if_neg packed]
  exact ⟨⟨Nat.le_refl _, Nat.le_refl _, fun padding => absurd padding plain⟩,
    fun padding => absurd padding plain, fun _ => ⟨rfl, rfl⟩⟩

/-- The formula of both functions, for their own notion of a padded buffer. -/
theorem sizeFits_iff (desc : GrallocBufferDesc) (padded : Prop) [Decidable padded] :
    SizeFits desc padded
        (if desc.androidFormat = halPixelFormatYv12 then align desc.width 32 / 2
          else if padded then cursorSize desc.width else desc.width)
        (if desc.androidFormat = halPixelFormatYv12 then desc.height + align desc.height 2 / 2
          else if padded then cursorSize desc.height else desc.height) ↔
      SizeFitsWhen desc padded := by
  unfold SizeFitsWhen
  by_cases planar : desc.androidFormat = halPixelFormatYv12
  · simp only [if_pos planar]
    exact sizeFits_planar_iff planar
  simp only [if_neg planar]
  by_cases padding : padded
  · simp only [if_pos padding]
    exact (sizeFits_padded_iff planar padding).trans (imp_iff_right padding).symm
  · simp only [if_neg padding]
    exact iff_of_true (sizeFits_plain planar padding) fun padded => absurd padded padding

end Formulas

/-! ## The sizes that reach gbm -/

/-- The allocation calls `gbm_bo_create` with these arguments. -/
def CreatesWith (env : AllocEnv) (s : Process) (desc : GrallocBufferDesc) (args : CreateArgs) :
    Prop :=
  ∃ ret stored s' dev, grallocAllocate env s desc = .ok (ret, stored, s') ∧
    s'.calls = .gbmBoCreate dev args :: (deviceProcess env s).calls

/-- The import calls `gbm_bo_import` with this layout, possibly after it has created a device. -/
def ImportCalls (env : ImportEnv) (t : Process) (p : Ptr) (data : ImportData) : Prop :=
  ∃ ret t' dev calls, grallocGmBufferImport env t p = .ok (ret, t') ∧
    t'.calls = .gbmBoImport dev data :: calls ∧ t.calls.length ≤ calls.length

theorem createsWith_args {env : AllocEnv} {s : Process} {desc : GrallocBufferDesc}
    {args : CreateArgs} (creates : CreatesWith env s desc args) :
    args = createArgs (createdHandle env desc) := by
  obtain ⟨ret, stored, s', dev, returns, calls⟩ := creates
  cases grallocAllocate_returns returns with
  | refused denied => exact absurd (congrArg List.length calls) (by simp)
  | noBo asks answer | made asks answer =>
      cases calls
      rfl

/-- The creation of a device is no import. -/
theorem not_imported {t t' : Process} {dev : Ptr} {data : ImportData} {calls : List Call}
    (quiet : t'.calls = t.calls ∨ ∃ fd, t'.calls = .gbmCreateDevice fd :: t.calls)
    (log : t'.calls = .gbmBoImport dev data :: calls) : ¬ t.calls.length ≤ calls.length := by
  rcases quiet with same | ⟨fd, created⟩
  · have longer := congrArg List.length (same.symm.trans log)
    rw [List.length_cons] at longer
    omega
  · cases created.symm.trans log

theorem importCalls_layout {env : ImportEnv} {t : Process} {p : Ptr} {handle : GrallocHandle}
    {data : ImportData} (placed : t.handles p = some handle.native)
    (imports : ImportCalls env t p data) :
    data = importLayout handle (grallocGmAndroidFormatToGbmFormat handle.format) := by
  obtain ⟨ret, t', dev, calls, returns, log, longer⟩ := imports
  have kept := grallocGbmDeviceCreate_handles env.createdDevice t t.gbmDevFd
  have quiet : (grallocGbmDeviceCreate env.createdDevice t t.gbmDevFd).2.2.calls = t.calls ∨
      ∃ fd, (grallocGbmDeviceCreate env.createdDevice t t.gbmDevFd).2.2.calls =
        .gbmCreateDevice fd :: t.calls :=
    (grallocGbmDeviceCreate_calls env.createdDevice t t.gbmDevFd).imp_right fun created =>
      ⟨_, created⟩
  unfold grallocGmBufferImport at returns
  generalize grallocGbmDeviceCreate env.createdDevice t t.gbmDevFd = created at kept quiet returns
  obtain ⟨created, stored, s⟩ := created
  dsimp only at kept quiet returns
  have hhandle : s.handle p = .ok handle.native :=
    Process.handle_eq_ok.mpr ((congrFun kept p).trans placed)
  split at returns
  · cases returns
    exact absurd longer (not_imported (.inl rfl) log)
  split at returns
  · cases returns
    exact absurd longer (not_imported (.inl rfl) log)
  split at returns
  · cases returns
    exact absurd longer (not_imported quiet log)
  rw [hhandle, ok_bind] at returns
  unfold importBo at returns
  rw [GrallocHandle.native_primeFd, ok_bind] at returns
  split at returns
  · cases returns
    exact absurd longer (not_imported quiet log)
  rw [GrallocHandle.native_format, ok_bind] at returns
  simp only [importData_native, ok_bind] at returns
  split at returns
  · cases returns
    exact absurd longer (not_imported quiet log)
  split at returns
  · cases returns
  · have logged := gbmBoImport_calls env s p (stored.getD 0)
      (importLayout handle (grallocGmAndroidFormatToGbmFormat handle.format))
    rw [Except.ok.inj returns, log] at logged
    cases logged
    rfl

/-- Allocation pads what it flags as a cursor. -/
def CreatePadded (desc : GrallocBufferDesc) : Prop :=
  Meets (grallocGmGetGbmFlagsFromAndroidUsage desc.androidUsage desc.androidFormat) gbmBoUseCursor

instance (desc : GrallocBufferDesc) : Decidable (CreatePadded desc) :=
  inferInstanceAs (Decidable (Meets _ _))

/-- Import pads whatever has the usage of a cursor. -/
def ImportPadded (desc : GrallocBufferDesc) : Prop := Meets desc.androidUsage grallocUsageCursor

instance (desc : GrallocBufferDesc) : Decidable (ImportPadded desc) :=
  inferInstanceAs (Decidable (Meets _ _))

theorem createPadded_iff (desc : GrallocBufferDesc) :
    CreatePadded desc ↔ Meets desc.androidUsage grallocUsageCursor ∧
      desc.androidFormat = halPixelFormatBgra8888 := by
  unfold CreatePadded
  rw [flags_cursor_iff, gbmFormat_eq_argb8888]

/-- The sizes that allocation asks for fit exactly when there is room for its own padding, and
the sizes of an import of the handle when there is room for that of the usage. -/
theorem boSize_fits_iff (desc : GrallocBufferDesc) :
    (∀ {env : AllocEnv} {s : Process} {args : CreateArgs}, CreatesWith env s desc args →
        (SizeFits desc (CreatePadded desc) args.width args.height ↔
          SizeFitsWhen desc (Meets desc.androidUsage grallocUsageCursor ∧
            desc.androidFormat = halPixelFormatBgra8888))) ∧
      ∀ {env : AllocEnv} {s s' : Process} {stride : Word} {handle : Ptr} {native : NativeHandle}
        {importEnv : ImportEnv} {t : Process} {p : Ptr} {fd : Fd} {data : ImportData},
        grallocAllocate env s desc = .ok (0, some (stride, handle), s') →
        s'.handles handle = some native → Clone native fd t p →
        ImportCalls importEnv t p data →
        (SizeFits desc (ImportPadded desc) data.width data.height ↔
          SizeFitsWhen desc (Meets desc.androidUsage grallocUsageCursor)) := by
  constructor
  · intro env s args creates
    have args_eq := createsWith_args creates
    rw [createArgs_eq] at args_eq
    rw [createPadded_iff, args_eq]
    exact sizeFits_iff desc _
  · intro env s s' stride handle native importEnv t p fd data allocated hnative clone imports
    obtain ⟨-, new, dev, rest, made, -, placed, -⟩ := grallocAllocate_success allocated
    rw [hnative] at placed
    cases placed
    -- the clone holds the words of the allocated handle
    have cloned : t.handles p =
        some { allocatedHandle env new desc with primeFd := fd }.native := clone.2
    rw [importCalls_layout cloned imports]
    exact sizeFits_iff desc _

/-- A request for one layer of this size. -/
def sizedInfo (width height format : Word) (usage : BitVec 64) : BufferDescriptorInfo where
  width := width
  height := height
  layerCount := 1
  format := format
  usage := usage
  reservedSize := 0

/-- A YV12 buffer whose planes need 2 to the power of 32 and 2 rows. -/
def tallInfo : BufferDescriptorInfo := sizedInfo 64 2863311532 halPixelFormatYv12 0x100

/-- A cursor that is 8 pixels short of the largest width. -/
def wideInfo : BufferDescriptorInfo :=
  sizedInfo 0xfffffff8 64 halPixelFormatBgra8888 (grallocUsageCursor.setWidth 64)

/-- A BO of two rows is created for the tall buffer, and one of no width for the wide cursor. -/
theorem boSize_wraps :
    convertToGBMDesc tallInfo {} = (.ok, gbmDesc tallInfo) ∧
      (∃ args, CreatesWith cursorEnv readyProcess (gbmDesc tallInfo) args ∧ args.height = 2 ∧
        ¬ SizeFits (gbmDesc tallInfo) (CreatePadded (gbmDesc tallInfo)) args.width args.height) ∧
      convertToGBMDesc wideInfo {} = (.ok, gbmDesc wideInfo) ∧
      ∃ args, CreatesWith cursorEnv readyProcess (gbmDesc wideInfo) args ∧ args.width = 0 ∧
        ¬ SizeFits (gbmDesc wideInfo) (CreatePadded (gbmDesc wideInfo)) args.width args.height := by
  refine ⟨rfl, ⟨_, ⟨_, _, _, _, rfl, rfl⟩, ?_, ?_⟩, rfl, ⟨_, ⟨_, _, _, _, rfl, rfl⟩, ?_, ?_⟩⟩
  all_goals decide +kernel

/-- The sizes of a texture fit, allocated and imported. -/
theorem boSize_fits_iff_texture :
    (∃ args, CreatesWith cursorEnv readyProcess textureDesc args ∧
        SizeFits textureDesc (CreatePadded textureDesc) args.width args.height) ∧
      ∃ data, ImportCalls ⟨0, none⟩ (cloneProcess textureDesc) 48 data ∧
        SizeFits textureDesc (ImportPadded textureDesc) data.width data.height := by
  obtain ⟨create, imported⟩ := boSize_fits_iff textureDesc
  have creates : CreatesWith cursorEnv readyProcess textureDesc
      (createArgs (createdHandle cursorEnv textureDesc)) := ⟨_, _, _, _, rfl, rfl⟩
  refine ⟨⟨_, creates, (create creates).mpr (by decide +kernel)⟩, ?_⟩
  obtain ⟨s', native, data, allocated, hnative, clone, imports⟩ : ∃ s' native data,
      grallocAllocate cursorEnv readyProcess textureDesc = .ok (0, some (256#32, 16), s') ∧
        s'.handles 16 = some native ∧ Clone native 7#32 (cloneProcess textureDesc) 48 ∧
        ImportCalls ⟨0, none⟩ (cloneProcess textureDesc) 48 data :=
    ⟨_, _, _, rfl, rfl, ⟨by decide, rfl⟩, ⟨_, _, _, _, rfl, rfl, Nat.le_refl _⟩⟩
  exact ⟨data, imports, (imported allocated hnative clone imports).mpr (by decide +kernel)⟩

end GrallocGbmMesa.Allocator
