import GrallocGbmMesa.Core.Device

/-!
# The owner of the gbm device

The core library creates the device, keeps it for the whole process and destroys
it when it is unloaded.  Each of its functions keeps one device at most, provided
that nothing is created while a device is live.
-/

namespace GrallocGbmMesa.Core

open Checked
open GrallocGbmMesa.Platform

/-- `gbm_device_destroy`; the descriptor of the device stays open. -/
def gbmDeviceDestroy (s : Process) (dev : Ptr) : Except Fault Process :=
  match s.devices dev with
  | some _ => .ok { s with devices := Function.update s.devices dev none }
  | none => .error .invalidPointer

/-- `_cleanup_all` -/
def cleanupAll (s : Process) : Except Fault Process :=
  let s := { s with gbmDevFd := -1 }
  if s.gbmDev ≠ 0 then do
    let s ← gbmDeviceDestroy s s.gbmDev
    return { s with gbmDev := 0 }
  else .ok s

theorem gbmDeviceDestroy_eq_ok {s s' : Process} {dev : Ptr} :
    gbmDeviceDestroy s dev = .ok s' ↔
      s.devices dev ≠ none ∧ s' = { s with devices := Function.update s.devices dev none } := by
  unfold gbmDeviceDestroy
  cases s.devices dev with
  | none => simp
  | some fd => simp [eq_comm]

/-! ## What each function does -/

section Functions

variable {s : Process} {created : Ptr} {fd : Fd} {env : DeviceInitEnv}

/-- The device is one that `gralloc_gbm_device_create` returns again. -/
def Reused (s : Process) : Prop := 0 < s.gbmDevFd.toInt ∧ s.gbmDev ≠ 0

theorem grallocGbmDeviceCreate_reused (reused : Reused s) :
    grallocGbmDeviceCreate created s fd = (0, some s.gbmDev, s) := if_pos reused

theorem grallocGbmDeviceCreate_refused (new : ¬ Reused s) (invalid : fd.toInt < 0) :
    grallocGbmDeviceCreate created s fd = (-einval, none, s) := by
  unfold grallocGbmDeviceCreate
  exact (if_neg new).trans (if_pos invalid)

theorem grallocGbmDeviceCreate_failed (new : ¬ Reused s) (valid : 0 ≤ fd.toInt) :
    grallocGbmDeviceCreate 0 s fd =
      (-einval, none, { s.log (.gbmCreateDevice fd) with gbmDev := 0, gbmDevFd := -1 }) := by
  unfold grallocGbmDeviceCreate
  exact (if_neg new).trans ((if_neg (Int.not_lt.mpr valid)).trans (if_pos rfl))

theorem grallocGbmDeviceCreate_made (new : ¬ Reused s) (valid : 0 ≤ fd.toInt)
    (nonNull : created ≠ 0) :
    grallocGbmDeviceCreate created s fd =
      (0, some created,
        { s.log (.gbmCreateDevice fd) with
          gbmDev := created
          gbmDevFd := fd
          devices := Function.update s.devices created (some fd) }) := by
  unfold grallocGbmDeviceCreate
  exact (if_neg new).trans ((if_neg (Int.not_lt.mpr valid)).trans (if_neg nonNull))

theorem grallocGbmDeviceInit_unopened (failed : env.fd.toInt < 0) :
    grallocGbmDeviceInit env s = (-einval, s) := if_pos failed

theorem grallocGbmDeviceInit_opened (opened : 0 ≤ env.fd.toInt) :
    grallocGbmDeviceInit env s =
      match grallocGbmDeviceCreate env.created (s.openFd env.fd env.file) env.fd with
      | (ret, _, s) => if ret ≠ 0 then (-einval, s) else (s.gbmDevFd.toInt, s) :=
  if_neg (Int.not_lt.mpr opened)

theorem grallocGbmDeviceInit_reused (opened : 0 ≤ env.fd.toInt) (reused : Reused s) :
    grallocGbmDeviceInit env s = (s.gbmDevFd.toInt, s.openFd env.fd env.file) := by
  have again : Reused (s.openFd env.fd env.file) := reused
  rw [grallocGbmDeviceInit_opened opened, grallocGbmDeviceCreate_reused again]
  rfl

theorem grallocGbmDeviceInit_failed (opened : 0 ≤ env.fd.toInt) (new : ¬ Reused s)
    (failed : env.created = 0) :
    grallocGbmDeviceInit env s =
      (-einval,
        { (s.openFd env.fd env.file).log (.gbmCreateDevice env.fd) with
          gbmDev := 0
          gbmDevFd := -1 }) := by
  have still : ¬ Reused (s.openFd env.fd env.file) := new
  rw [grallocGbmDeviceInit_opened opened, failed, grallocGbmDeviceCreate_failed still opened]
  rfl

theorem grallocGbmDeviceInit_made (opened : 0 ≤ env.fd.toInt) (new : ¬ Reused s)
    (nonNull : env.created ≠ 0) :
    grallocGbmDeviceInit env s =
      (env.fd.toInt,
        { (s.openFd env.fd env.file).log (.gbmCreateDevice env.fd) with
          gbmDev := env.created
          gbmDevFd := env.fd
          devices := Function.update s.devices env.created (some env.fd) }) := by
  have still : ¬ Reused (s.openFd env.fd env.file) := new
  rw [grallocGbmDeviceInit_opened opened, grallocGbmDeviceCreate_made still opened nonNull]
  rfl

/-- What an initialisation returns is an `int`. -/
theorem grallocGbmDeviceInit_word (env : DeviceInitEnv) (s : Process) :
    ∃ fd : Fd, (grallocGbmDeviceInit env s).1 = fd.toInt := by
  unfold grallocGbmDeviceInit
  split
  · exact ⟨BitVec.ofInt 32 (-einval), rfl⟩
  · simp only
    split
    · exact ⟨BitVec.ofInt 32 (-einval), rfl⟩
    · exact ⟨_, rfl⟩

/-- No device goes by an attempt to create one. -/
theorem grallocGbmDeviceCreate_live {p : Ptr} (live : s.devices p ≠ none) :
    (grallocGbmDeviceCreate created s fd).2.2.devices p ≠ none := by
  unfold grallocGbmDeviceCreate
  split
  · exact live
  split
  · exact live
  simp only
  split
  · exact live
  · change Function.update s.devices created (some fd) p ≠ none
    by_cases same : p = created
    · rw [same, Function.update_self]
      exact nofun
    · rwa [Function.update_of_ne same]

end Functions

/-! ## One device -/

/-- At most one device is created and not yet destroyed. -/
def AtMostOneDevice (s : Process) : Prop :=
  ∀ p q, s.devices p ≠ none → s.devices q ≠ none → p = q

theorem erased_live {devices : Ptr → Option Fd} {dev p : Ptr} {fd : Fd}
    (live : Function.update devices dev none p = some fd) : p ≠ dev ∧ devices p = some fd := by
  by_cases same : p = dev
  · rw [same, Function.update_self] at live
    cases live
  · exact ⟨same, (Function.update_of_ne same ..).symm.trans live⟩

theorem AtMostOneDevice.erase {s t : Process} (h : AtMostOneDevice s) {dev : Ptr}
    (erased : t.devices = Function.update s.devices dev none) : AtMostOneDevice t := by
  intro p q hp hq
  obtain ⟨fd, hp⟩ := Option.ne_none_iff_exists'.mp hp
  obtain ⟨fd', hq⟩ := Option.ne_none_iff_exists'.mp hq
  rw [erased] at hp hq
  exact h p q (by rw [(erased_live hp).2]; exact nofun) (by rw [(erased_live hq).2]; exact nofun)

/-- The device of the library is live, and its descriptor is open. -/
def CurrentDevice (s : Process) : Prop :=
  s.gbmDev ≠ 0 → ∃ fd, s.devices s.gbmDev = some fd ∧ s.fds fd ≠ none

/-- When an initialisation returns, the descriptor it has opened is that of a live device
or closed. -/
def InitAccounted (env : DeviceInitEnv) (s : Process) : Prop :=
  0 ≤ env.fd.toInt →
    (grallocGbmDeviceInit env s).2.fds env.fd = none ∨
      ∃ dev, (grallocGbmDeviceInit env s).2.devices dev = some env.fd

/-- What is opened or created is new. -/
structure DeviceInitEnv.Fresh (env : DeviceInitEnv) (s : Process) : Prop where
  fd : 0 ≤ env.fd.toInt → s.fds env.fd = none
  created : env.created ≠ 0 → s.devices env.created = none

/-- Nothing is opened, or a device is created where there is none. -/
def InitInOrder (env : DeviceInitEnv) (s : Process) : Prop :=
  env.fd.toInt < 0 ∨ ((∀ p, s.devices p = none) ∧ env.created ≠ 0)

/-- What the library keeps true of its globals.  A device that it has lost is one on
descriptor 0, which it takes for none. -/
structure DeviceInv (s : Process) : Prop where
  unique : AtMostOneDevice s
  nonNull : s.devices 0 = none
  current : s.gbmDev ≠ 0 → s.devices s.gbmDev = some s.gbmDevFd
  reset : s.gbmDev = 0 → s.gbmDevFd = -1
  opened : ∀ p fd, s.devices p = some fd → s.fds fd ≠ none
  valid : ∀ p fd, s.devices p = some fd → 0 ≤ fd.toInt
  lost : ∀ p fd, s.devices p = some fd → p ≠ s.gbmDev → fd = 0

namespace DeviceInv

variable {s : Process} {env : DeviceInitEnv} {created : Ptr}

theorem currentDevice (h : DeviceInv s) : CurrentDevice s := fun nonNull =>
  ⟨s.gbmDevFd, h.current nonNull, h.opened _ _ (h.current nonNull)⟩

/-- A device that is live is the one of the library, or lost. -/
theorem live_cases (h : DeviceInv s) {p : Ptr} {fd : Fd} (live : s.devices p = some fd) :
    (s.gbmDev ≠ 0 ∧ fd = s.gbmDevFd) ∨ fd = 0 := by
  by_cases same : p = s.gbmDev
  · have nonNull : s.gbmDev ≠ 0 := by
      intro null
      rw [same, null, h.nonNull] at live
      cases live
    rw [same, h.current nonNull] at live
    exact .inl ⟨nonNull, (Option.some.inj live).symm⟩
  · exact .inr (h.lost p fd live same)

theorem not_reused_of_none (h : DeviceInv s) (none : ∀ p, s.devices p = none) : ¬ Reused s := by
  rintro ⟨-, nonNull⟩
  have live := h.current nonNull
  rw [none] at live
  cases live

/-! ### Initialisation -/

theorem init (h : DeviceInv s) (order : InitInOrder env s) :
    DeviceInv (grallocGbmDeviceInit env s).2 := by
  by_cases failed : env.fd.toInt < 0
  · rw [grallocGbmDeviceInit_unopened failed]
    exact h
  obtain ⟨none, nonNull⟩ := order.resolve_left failed
  have opened := Int.not_lt.mp failed
  rw [grallocGbmDeviceInit_made opened (h.not_reused_of_none none) nonNull]
  have only {p : Ptr} {fd : Fd}
      (live : Function.update s.devices env.created (some env.fd) p = some fd) :
      p = env.created ∧ fd = env.fd := by
    by_cases same : p = env.created
    · rw [same, Function.update_self] at live
      exact ⟨same, (Option.some.inj live).symm⟩
    · rw [Function.update_of_ne same, none] at live
      cases live
  refine ⟨?_, ?_, fun _ => Function.update_self .., fun null => absurd null nonNull, ?_, ?_, ?_⟩
  · intro p q hp hq
    obtain ⟨fd, hp⟩ := Option.ne_none_iff_exists'.mp hp
    obtain ⟨fd', hq⟩ := Option.ne_none_iff_exists'.mp hq
    exact (only hp).1.trans (only hq).1.symm
  · exact (Function.update_of_ne nonNull.symm ..).trans (none 0)
  · intro p fd live
    rw [(only live).2]
    change Function.update s.fds env.fd (some env.file) env.fd ≠ _
    rw [Function.update_self]
    exact nofun
  · intro p fd live
    rw [(only live).2]
    exact opened
  · intro p fd live other
    exact absurd (only live).1 other

/-- A descriptor that was not open is that of no live device. -/
theorem not_device_of_closed (h : DeviceInv s) {fd : Fd} (closed : s.fds fd = none) (dev : Ptr) :
    s.devices dev ≠ some fd := fun live => h.opened dev fd live closed

/-- An initialisation that is out of order loses its descriptor, or makes a second device. -/
theorem initInOrder_iff (h : DeviceInv s) (fresh : env.Fresh s) :
    InitInOrder env s ↔ InitAccounted env s ∧ AtMostOneDevice (grallocGbmDeviceInit env s).2 := by
  constructor
  · intro order
    refine ⟨fun opened => .inr ?_, (h.init order).unique⟩
    obtain ⟨none, nonNull⟩ := order.resolve_left (Int.not_lt.mpr opened)
    rw [grallocGbmDeviceInit_made opened (h.not_reused_of_none none) nonNull]
    exact ⟨env.created, Function.update_self ..⟩
  · rintro ⟨accounted, unique⟩
    by_cases failed : env.fd.toInt < 0
    · exact .inl failed
    have opened := Int.not_lt.mp failed
    have closed := fresh.fd opened
    have isOpen : (s.openFd env.fd env.file).fds env.fd ≠ none := by
      change Function.update s.fds env.fd (some env.file) env.fd ≠ none
      rw [Function.update_self]
      exact nofun
    by_cases reused : Reused s
    · unfold InitAccounted at accounted
      rw [grallocGbmDeviceInit_reused opened reused] at accounted
      rcases accounted opened with lost | ⟨dev, live⟩
      · exact absurd lost isOpen
      · exact absurd live (h.not_device_of_closed closed dev)
    by_cases null : env.created = 0
    · unfold InitAccounted at accounted
      rw [grallocGbmDeviceInit_failed opened reused null] at accounted
      rcases accounted opened with lost | ⟨dev, live⟩
      · exact absurd lost isOpen
      · exact absurd live (h.not_device_of_closed closed dev)
    refine .inr ⟨fun p => ?_, null⟩
    by_contra live
    rw [grallocGbmDeviceInit_made opened reused null] at unique
    have different : p ≠ env.created := by
      rintro rfl
      exact live (fresh.created null)
    refine different (unique p env.created ?_ ?_)
    · change Function.update s.devices env.created (some env.fd) p ≠ none
      rwa [Function.update_of_ne different]
    · change Function.update s.devices env.created (some env.fd) env.created ≠ none
      rw [Function.update_self]
      exact nofun

/-! ### Creation and destruction -/

/-- On its own descriptor the library finds its device, unless that is descriptor 0. -/
theorem create (h : DeviceInv s) (order : s.gbmDevFd ≠ 0 ∨ created = 0) :
    DeviceInv (grallocGbmDeviceCreate created s s.gbmDevFd).2.2 := by
  by_cases reused : Reused s
  · rw [grallocGbmDeviceCreate_reused reused]
    exact h
  by_cases null : s.gbmDev = 0
  · have invalid : s.gbmDevFd.toInt < 0 := by
      rw [h.reset null]
      decide
    rw [grallocGbmDeviceCreate_refused reused invalid]
    exact h
  have valid := h.valid _ _ (h.current null)
  have zero : s.gbmDevFd = 0 := by
    refine BitVec.eq_of_toInt_eq (Int.le_antisymm ?_ valid)
    exact Int.not_lt.mp fun positive => reused ⟨positive, null⟩
  obtain rfl := order.resolve_left (not_not_intro zero)
  rw [grallocGbmDeviceCreate_failed reused valid]
  refine ⟨h.unique, h.nonNull, fun nonNull => absurd rfl nonNull, fun _ => rfl, h.opened, h.valid,
    fun p fd live _ => ?_⟩
  rcases h.live_cases live with ⟨-, same⟩ | lost
  · exact same.trans zero
  · exact lost

theorem create_inOrder_iff (h : DeviceInv s) (fresh : created ≠ 0 → s.devices created = none) :
    (s.gbmDevFd ≠ 0 ∨ created = 0) ↔
      AtMostOneDevice (grallocGbmDeviceCreate created s s.gbmDevFd).2.2 := by
  constructor
  · exact fun order => (h.create order).unique
  · intro unique
    by_contra out
    obtain ⟨zero, nonNull⟩ := not_or.mp out
    have zero := not_not.mp zero
    have device : s.gbmDev ≠ 0 := by
      intro null
      rw [h.reset null] at zero
      exact absurd zero (by decide)
    have new : ¬ Reused s := by
      rintro ⟨positive, -⟩
      rw [zero] at positive
      exact absurd positive (by decide)
    have live := h.current device
    rw [grallocGbmDeviceCreate_made new (h.valid _ _ live) nonNull] at unique
    have different : s.gbmDev ≠ created := by
      intro same
      rw [same, fresh nonNull] at live
      cases live
    refine different (unique s.gbmDev created ?_ ?_)
    · change Function.update s.devices created _ s.gbmDev ≠ none
      rw [Function.update_of_ne different, live]
      exact nofun
    · change Function.update s.devices created _ created ≠ none
      rw [Function.update_self]
      exact nofun

/-- A device that is not that of the library may go. -/
theorem destroyOther (h : DeviceInv s) {dev : Ptr} (other : dev ≠ s.gbmDev) :
    DeviceInv { s with devices := Function.update s.devices dev none } := by
  refine ⟨h.unique.erase rfl, ?_, ?_, h.reset, fun p fd live => h.opened p fd (erased_live live).2,
    fun p fd live => h.valid p fd (erased_live live).2,
    fun p fd live => h.lost p fd (erased_live live).2⟩
  · by_contra live
    obtain ⟨fd, live⟩ := Option.ne_none_iff_exists'.mp live
    cases h.nonNull.symm.trans (erased_live live).2
  · intro nonNull
    exact (Function.update_of_ne other.symm ..).trans (h.current nonNull)

/-- The library destroys its own device, and never fails to. -/
theorem cleanup (h : DeviceInv s) : ∃ s', cleanupAll s = .ok s' ∧ DeviceInv s' := by
  by_cases null : s.gbmDev = 0
  · refine ⟨{ s with gbmDevFd := -1 }, if_neg (not_not_intro null), ?_⟩
    exact ⟨h.unique, h.nonNull, fun nonNull => absurd null nonNull, fun _ => rfl, h.opened, h.valid,
      h.lost⟩
  have destroyed := (@gbmDeviceDestroy_eq_ok { s with gbmDevFd := -1 } _ s.gbmDev).mpr
    ⟨by rw [h.current null]; exact nofun, rfl⟩
  have cleaned : cleanupAll s = .ok
      { s with
        gbmDevFd := -1
        gbmDev := 0
        devices := Function.update s.devices s.gbmDev none } := by
    unfold cleanupAll
    simp only [if_pos null, destroyed, ok_bind]
    rfl
  refine ⟨_, cleaned, h.unique.erase rfl, ?_, fun nonNull => absurd rfl nonNull, fun _ => rfl,
    fun p fd live => h.opened p fd (erased_live live).2,
    fun p fd live => h.valid p fd (erased_live live).2, fun p fd live _ => ?_⟩
  · exact (Function.update_of_ne (Ne.symm null) ..).trans h.nonNull
  · obtain ⟨other, live⟩ := erased_live live
    exact h.lost p fd live other

/-- A descriptor other than that of the device may be closed. -/
theorem closeOther (h : DeviceInv s) {fd : Fd} (nonZero : fd ≠ 0)
    (other : s.gbmDev = 0 ∨ fd ≠ s.gbmDevFd) : DeviceInv (s.close fd) := by
  refine ⟨h.unique, h.nonNull, h.current, h.reset, ?_, h.valid, h.lost⟩
  intro p devFd live
  have different : devFd ≠ fd := by
    rintro rfl
    rcases h.live_cases live with ⟨nonNull, same⟩ | lost
    · exact other.resolve_left nonNull same
    · exact nonZero lost
  change Function.update s.fds fd none devFd ≠ none
  rw [Function.update_of_ne different]
  exact h.opened p devFd live

end DeviceInv

end GrallocGbmMesa.Core
