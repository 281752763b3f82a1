import Mathlib

/-!
The two ACPI PM1 register blocks of the sources: `AcpiPm` of
core/device/acpi/acpi_pm.cpp and `LegacyAcpiPm` of device/acpi/acpi_pm.cpp. Each
keeps `pm1_sts_`, `pm1_en_`, `pm1_cnt_` and whether its callbacks are installed; a
callback invocation is an event of the access that made it. `kSlpTypS5` comes from
acpi_pm.h, which is not among the sources, so it is a parameter. A run is a list of
port accesses, and its trace records per access the value read, the callbacks
invoked and the three registers afterwards.
-/

namespace Tenbox

/-- Modelled from the spec: `kResetValue`, declared in the missing acpi_pm.h; the spec
names the RESET_REG sentinel `0x06`. -/
def kResetValue : BitVec 32 := 0x06

inductive PmEvent where
  | shutdown
  | reset
  | sci
  deriving DecidableEq, Repr

inductive PioAccess where
  | read (offset : BitVec 16) (size : BitVec 8)
  | write (offset : BitVec 16) (size : BitVec 8) (value : BitVec 32)
  deriving DecidableEq, Repr

structure Pm1Regs where
  pm1Sts : BitVec 16
  pm1En : BitVec 16
  pm1Cnt : BitVec 16
  deriving DecidableEq, Repr

structure PmStep where
  read : Option (BitVec 32)
  events : List PmEvent
  regs : Pm1Regs
  deriving DecidableEq, Repr

structure AcpiPm where
  regs : Pm1Regs
  shutdownCb : Bool
  resetCb : Bool
  sciCb : Bool

structure LegacyAcpiPm where
  regs : Pm1Regs
  shutdownCb : Bool

section Variants
variable (kSlpTypS5 : BitVec 8)

-- The PM1_CNT write both variants share: SCI_EN stays set, and SLP_EN with SLP_TYP
-- equal to `kSlpTypS5` calls the shutdown callback if there is one.
def writePm1Cnt (shutdownCb : Bool) (value : BitVec 32) : BitVec 16 × List PmEvent :=
  let cnt := value.setWidth 16 ||| 1
  let slpTyp := ((value >>> 10) &&& 7).setWidth 8
  if value &&& (1 <<< 13) ≠ 0 ∧ slpTyp = kSlpTypS5 ∧ shutdownCb then (cnt, [.shutdown]) else (cnt, [])

namespace AcpiPm

def raiseSci (pm : AcpiPm) : List PmEvent :=
  if pm.regs.pm1Sts &&& pm.regs.pm1En ≠ 0 ∧ pm.sciCb then [.sci] else []

def pioRead (pm : AcpiPm) (offset : BitVec 16) (size : BitVec 8) : BitVec 32 :=
  if offset = 0 then
    if size = 4 then pm.regs.pm1Sts.setWidth 32 ||| (pm.regs.pm1En.setWidth 32 <<< 16)
    else pm.regs.pm1Sts.setWidth 32
  else if offset = 2 then pm.regs.pm1En.setWidth 32
  else if offset = 4 then pm.regs.pm1Cnt.setWidth 32
  else if offset = 8 then 0
  else 0

def pioWrite (pm : AcpiPm) (offset : BitVec 16) (size : BitVec 8) (value : BitVec 32) :
    AcpiPm × List PmEvent :=
  if offset = 0 then
    let sts := pm.regs.pm1Sts &&& ~~~(value.setWidth 16)
    let en := if size = 4 then (value >>> 16).setWidth 16 else pm.regs.pm1En
    ({ pm with regs := { pm.regs with pm1Sts := sts, pm1En := en } }, [])
  else if offset = 2 then ({ pm with regs := { pm.regs with pm1En := value.setWidth 16 } }, [])
  else if offset = 4 then
    let (cnt, events) := writePm1Cnt kSlpTypS5 pm.shutdownCb value
    ({ pm with regs := { pm.regs with pm1Cnt := cnt } }, events)
  else if offset = 8 then
    (pm, if value &&& 0xFF = kResetValue ∧ pm.resetCb then [.reset] else [])
  else (pm, [])

def step (pm : AcpiPm) : PioAccess → AcpiPm × PmStep
  | .read offset size => (pm, ⟨some (pm.pioRead offset size), [], pm.regs⟩)
  | .write offset size value =>
      let (next, events) := pm.pioWrite kSlpTypS5 offset size value
      (next, ⟨none, events, next.regs⟩)

def trace (pm : AcpiPm) : List PioAccess → List PmStep
  | [] => []
  | access :: rest => (pm.step kSlpTypS5 access).2 :: trace (pm.step kSlpTypS5 access).1 rest

end AcpiPm

namespace LegacyAcpiPm

def pioRead (pm : LegacyAcpiPm) (offset : BitVec 16) (_size : BitVec 8) : BitVec 32 :=
  if offset = 0 then pm.regs.pm1Sts.setWidth 32
  else if offset = 2 then pm.regs.pm1En.setWidth 32
  else if offset = 4 then pm.regs.pm1Cnt.setWidth 32
  else 0

def pioWrite (pm : LegacyAcpiPm) (offset : BitVec 16) (_size : BitVec 8) (value : BitVec 32) :
    LegacyAcpiPm × List PmEvent :=
  if offset = 0 then ({ pm with regs := { pm.regs with pm1Sts := pm.regs.pm1Sts &&& ~~~(value.setWidth 16) } }, [])
  else if offset = 2 then ({ pm with regs := { pm.regs with pm1En := value.setWidth 16 } }, [])
  else if offset = 4 then
    let (cnt, events) := writePm1Cnt kSlpTypS5 pm.shutdownCb value
    ({ pm with regs := { pm.regs with pm1Cnt := cnt } }, events)
  else (pm, [])

def step (pm : LegacyAcpiPm) : PioAccess → LegacyAcpiPm × PmStep
  | .read offset size => (pm, ⟨some (pm.pioRead offset size), [], pm.regs⟩)
  | .write offset size value =>
      let (next, events) := pm.pioWrite kSlpTypS5 offset size value
      (next, ⟨none, events, next.regs⟩)

def trace (pm : LegacyAcpiPm) : List PioAccess → List PmStep
  | [] => []
  | access :: rest => (pm.step kSlpTypS5 access).2 :: trace (pm.step kSlpTypS5 access).1 rest

end LegacyAcpiPm

/-! The two variants agree on every access but a 4-byte one at PM1_STS, and apart from
the reset register. -/

def PioAccess.isWideStatus : PioAccess → Bool
  | .read offset size => offset = 0 ∧ size = 4
  | .write offset size _ => offset = 0 ∧ size = 4

def PioAccess.isS5Write : PioAccess → Bool
  | .write offset _ value =>
      offset = 4 ∧ value &&& (1 <<< 13) ≠ 0 ∧ ((value >>> 10) &&& 7).setWidth 8 = kSlpTypS5
  | .read _ _ => false

def PioAccess.isResetWrite : PioAccess → Bool
  | .write offset _ value => offset = 8 ∧ value &&& 0xFF = kResetValue
  | .read _ _ => false

def PmStep.dropReset (step : PmStep) : PmStep := { step with events := step.events.filter (· ≠ .reset) }

theorem AcpiPm.step_callbacks (pm : AcpiPm) (access : PioAccess) :
    (pm.step kSlpTypS5 access).1.shutdownCb = pm.shutdownCb ∧
      (pm.step kSlpTypS5 access).1.resetCb = pm.resetCb := by
  cases access with
  | read => exact ⟨rfl, rfl⟩
  | write offset size value =>
      simp only [AcpiPm.step, AcpiPm.pioWrite, apply_ite Prod.fst, apply_ite AcpiPm.shutdownCb,
        apply_ite AcpiPm.resetCb]
      simp

theorem LegacyAcpiPm.step_callbacks (pm : LegacyAcpiPm) (access : PioAccess) :
    (pm.step kSlpTypS5 access).1.shutdownCb = pm.shutdownCb := by
  cases access with
  | read => rfl
  | write offset size value =>
      simp only [LegacyAcpiPm.step, LegacyAcpiPm.pioWrite, apply_ite Prod.fst, apply_ite LegacyAcpiPm.shutdownCb]
      simp

theorem writePm1Cnt_ne_reset (shutdownCb : Bool) (value : BitVec 32) :
    ∀ event ∈ (writePm1Cnt kSlpTypS5 shutdownCb value).2, event ≠ .reset := by
  unfold writePm1Cnt
  dsimp only
  split <;> simp

-- One access: the same read, the same registers, the same callbacks but reset.
theorem step_agree (core : AcpiPm) (legacy : LegacyAcpiPm) (regs : core.regs = legacy.regs)
    (callback : core.shutdownCb = legacy.shutdownCb) (access : PioAccess) (narrow : access.isWideStatus = false) :
    (core.step kSlpTypS5 access).2.dropReset = (legacy.step kSlpTypS5 access).2 := by
  obtain ⟨coreRegs, shutdownCb, resetCb, sciCb⟩ := core
  obtain ⟨legacyRegs, legacyCb⟩ := legacy
  cases regs
  cases callback
  cases access with
  | read offset size =>
      simp only [PioAccess.isWideStatus, decide_eq_false_iff_not, not_and] at narrow
      simp only [AcpiPm.step, LegacyAcpiPm.step, PmStep.dropReset, AcpiPm.pioRead, LegacyAcpiPm.pioRead]
      by_cases status : offset = 0
      · have narrow := narrow status
        subst status
        simp only [BitVec.ofNat_eq_ofNat] at narrow
        simp [narrow]
      · simp only [BitVec.ofNat_eq_ofNat] at status
        simp [status]
  | write offset size value =>
      simp only [PioAccess.isWideStatus, decide_eq_false_iff_not, not_and] at narrow
      simp only [AcpiPm.step, LegacyAcpiPm.step, PmStep.dropReset, AcpiPm.pioWrite, LegacyAcpiPm.pioWrite]
      by_cases status : offset = 0
      · have narrow := narrow status
        subst status
        simp only [BitVec.ofNat_eq_ofNat] at narrow
        simp [narrow]
      by_cases reset : offset = 8
      · subst reset
        simp
      simp only [status, reset, ↓reduceIte]
      split_ifs
      · simp
      · simpa [apply_ite Prod.snd] using writePm1Cnt_ne_reset kSlpTypS5 shutdownCb value
      · simp

theorem AcpiPm.step_regs (pm : AcpiPm) (access : PioAccess) :
    (pm.step kSlpTypS5 access).2.regs = (pm.step kSlpTypS5 access).1.regs := by
  cases access <;> rfl

theorem LegacyAcpiPm.step_regs (pm : LegacyAcpiPm) (access : PioAccess) :
    (pm.step kSlpTypS5 access).2.regs = (pm.step kSlpTypS5 access).1.regs := by
  cases access <;> rfl

-- The callbacks an access of the core variant invokes.
theorem AcpiPm.step_events (pm : AcpiPm) (access : PioAccess) :
    (pm.step kSlpTypS5 access).2.events =
      (if access.isS5Write kSlpTypS5 && pm.shutdownCb then [.shutdown] else []) ++
        (if access.isResetWrite && pm.resetCb then [.reset] else []) := by
  cases access with
  | read => rfl
  | write offset size value =>
      simp only [AcpiPm.step, AcpiPm.pioWrite, writePm1Cnt, PioAccess.isS5Write, PioAccess.isResetWrite]
      by_cases control : offset = 4
      · subst control
        simp [apply_ite Prod.snd, and_assoc]
      by_cases reset : offset = 8
      · subst reset
        simp
      simp only [BitVec.ofNat_eq_ofNat] at control reset
      simp [control, reset, apply_ite Prod.snd]

theorem trace_agree (core : AcpiPm) (legacy : LegacyAcpiPm) (regs : core.regs = legacy.regs)
    (callback : core.shutdownCb = legacy.shutdownCb) (accesses : List PioAccess)
    (narrow : ∀ access ∈ accesses, access.isWideStatus = false) :
    (core.trace kSlpTypS5 accesses).map PmStep.dropReset = legacy.trace kSlpTypS5 accesses := by
  induction accesses generalizing core legacy with
  | nil => rfl
  | cons access rest ih =>
      have head := step_agree kSlpTypS5 core legacy regs callback access (narrow access (by simp))
      have nextRegs : (core.step kSlpTypS5 access).1.regs = (legacy.step kSlpTypS5 access).1.regs := by
        rw [← AcpiPm.step_regs, ← LegacyAcpiPm.step_regs, ← head]
        rfl
      have nextCallback : (core.step kSlpTypS5 access).1.shutdownCb = (legacy.step kSlpTypS5 access).1.shutdownCb := by
        rw [(AcpiPm.step_callbacks kSlpTypS5 core access).1, LegacyAcpiPm.step_callbacks, callback]
      simp only [AcpiPm.trace, LegacyAcpiPm.trace, List.map_cons, head,
        ih _ _ nextRegs nextCallback (fun other mem => narrow other (by simp [mem]))]

theorem trace_events (core : AcpiPm) (accesses : List PioAccess) :
    (core.trace kSlpTypS5 accesses).map (fun step => decide (PmEvent.shutdown ∈ step.events)) =
        accesses.map (fun access => access.isS5Write kSlpTypS5 && core.shutdownCb) ∧
      (core.trace kSlpTypS5 accesses).map (fun step => decide (PmEvent.reset ∈ step.events)) =
        accesses.map (fun access => access.isResetWrite && core.resetCb) := by
  induction accesses generalizing core with
  | nil => exact ⟨rfl, rfl⟩
  | cons access rest ih =>
      obtain ⟨shutdownKept, resetKept⟩ := AcpiPm.step_callbacks kSlpTypS5 core access
      obtain ⟨shutdowns, resets⟩ := ih (core.step kSlpTypS5 access).1
      rw [shutdownKept] at shutdowns
      rw [resetKept] at resets
      simp only [AcpiPm.trace, List.map_cons, shutdowns, resets, AcpiPm.step_events, List.mem_append,
        List.mem_ite_nil_right, List.mem_singleton, and_true, reduceCtorEq, and_false, or_false, false_or,
        decide_eq_true_eq, Bool.decide_eq_true]

/-- From equal PM1 registers and the same shutdown callback, the two variants answer every
run free of 4-byte PM1_STS accesses alike: the same values read, the same registers after
every access and the same shutdown calls, which are exactly the S5 writes to PM1_CNT. The
core variant's only extra is the reset callback on writes of `kResetValue` to RESET_REG. -/
theorem acpi_variants_agree (core : AcpiPm) (legacy : LegacyAcpiPm) (regs : core.regs = legacy.regs)
    (callback : core.shutdownCb = legacy.shutdownCb) (accesses : List PioAccess)
    (narrow : ∀ access ∈ accesses, access.isWideStatus = false) :
    (core.trace kSlpTypS5 accesses).map PmStep.dropReset = legacy.trace kSlpTypS5 accesses ∧
      (core.trace kSlpTypS5 accesses).map (fun step => decide (PmEvent.shutdown ∈ step.events)) =
        accesses.map (fun access => access.isS5Write kSlpTypS5 && core.shutdownCb) ∧
      (core.trace kSlpTypS5 accesses).map (fun step => decide (PmEvent.reset ∈ step.events)) =
        accesses.map (fun access => access.isResetWrite && core.resetCb) :=
  ⟨trace_agree kSlpTypS5 core legacy regs callback accesses narrow, trace_events kSlpTypS5 core accesses⟩

end Variants

-- Scenario S1 of the spec with `kSlpTypS5 = 5`: an S5 write, a read back and a reset write.
theorem acpi_variants_agree_on_s5 :
    let core : AcpiPm := ⟨⟨0, 0, 1⟩, true, true, false⟩
    let legacy : LegacyAcpiPm := ⟨⟨0, 0, 1⟩, true⟩
    let accesses : List PioAccess := [.write 4 2 0x3400, .read 4 2, .write 8 1 0x06]
    core.regs = legacy.regs ∧ core.shutdownCb = legacy.shutdownCb ∧
      (∀ access ∈ accesses, access.isWideStatus = false) ∧
      (core.trace 5 accesses).map PmStep.dropReset = legacy.trace 5 accesses ∧
      (core.trace 5 accesses).map (fun step => decide (PmEvent.shutdown ∈ step.events)) =
        accesses.map (fun access => access.isS5Write 5 && core.shutdownCb) ∧
      (core.trace 5 accesses).map (fun step => decide (PmEvent.reset ∈ step.events)) =
        accesses.map (fun access => access.isResetWrite && core.resetCb) :=
  ⟨rfl, rfl, by decide, acpi_variants_agree 5 _ _ rfl rfl _ (by decide)⟩

/-! Nothing in the core variant sets a PM1_STS bit: a write at offset 0 clears the bits it
writes and every other access leaves PM1_STS alone. -/

section Status
variable (kSlpTypS5 : BitVec 8)

-- The device after a run of accesses.
def AcpiPm.run (pm : AcpiPm) (accesses : List PioAccess) : AcpiPm :=
  accesses.foldl (fun pm access => (pm.step kSlpTypS5 access).1) pm

theorem AcpiPm.pm1Sts_step (pm : AcpiPm) (access : PioAccess) :
    (pm.step kSlpTypS5 access).1.regs.pm1Sts &&& pm.regs.pm1Sts = (pm.step kSlpTypS5 access).1.regs.pm1Sts := by
  cases access with
  | read => exact BitVec.and_self
  | write offset size value =>
      by_cases status : offset = 0
      · simp only [AcpiPm.step, AcpiPm.pioWrite, if_pos status]
        rw [BitVec.and_assoc, BitVec.and_comm _ pm.regs.pm1Sts, ← BitVec.and_assoc, BitVec.and_self]
      · simp only [AcpiPm.step, AcpiPm.pioWrite, if_neg status, writePm1Cnt]
        split_ifs <;> exact BitVec.and_self

-- Along a run PM1_STS keeps only bits it had at the start.
theorem AcpiPm.pm1Sts_run (pm : AcpiPm) (accesses : List PioAccess) :
    (pm.run kSlpTypS5 accesses).regs.pm1Sts &&& pm.regs.pm1Sts = (pm.run kSlpTypS5 accesses).regs.pm1Sts := by
  induction accesses generalizing pm with
  | nil => exact BitVec.and_self
  | cons access rest ih =>
      have later := ih (pm.step kSlpTypS5 access).1
      simp only [AcpiPm.run, List.foldl_cons] at later ⊢
      rw [← later, BitVec.and_assoc, AcpiPm.pm1Sts_step]

/-- Along any run, from any state, PM1_STS keeps only bits it had at the start; so from
PM1_STS = 0, whatever the guest writes, PM1_STS stays 0 and `RaiseSci` never invokes the
SCI callback, whatever PM1_EN holds. -/
theorem sci_never_raised (core : AcpiPm) (accesses : List PioAccess) :
    (core.run kSlpTypS5 accesses).regs.pm1Sts &&& core.regs.pm1Sts = (core.run kSlpTypS5 accesses).regs.pm1Sts ∧
      (core.regs.pm1Sts = 0 →
        (core.run kSlpTypS5 accesses).regs.pm1Sts = 0 ∧ (core.run kSlpTypS5 accesses).raiseSci = []) := by
  refine ⟨AcpiPm.pm1Sts_run kSlpTypS5 core accesses, fun quiet => ?_⟩
  have cleared : (core.run kSlpTypS5 accesses).regs.pm1Sts = 0 := by
    rw [← AcpiPm.pm1Sts_run, quiet]
    exact BitVec.and_zero
  exact ⟨cleared, by simp [AcpiPm.raiseSci, cleared]⟩

end Status

-- Every status bit enabled, bit 0 cleared, then an S5 request, with `kSlpTypS5 = 5`: from
-- PM1_STS = 0x0101 only bit 8 is left, and from PM1_STS = 0 nothing is.
theorem sci_never_raised_after_enabling :
    let busy : AcpiPm := ⟨⟨0x0101, 0, 1⟩, true, true, true⟩
    let core : AcpiPm := ⟨⟨0, 0, 1⟩, true, true, true⟩
    let accesses : List PioAccess := [.write 2 2 0xFFFF, .write 0 4 0xFFFF0001, .write 4 2 0x3400]
    (busy.run 5 accesses).regs.pm1Sts = 0x0100 ∧
      (busy.run 5 accesses).regs.pm1Sts &&& busy.regs.pm1Sts = (busy.run 5 accesses).regs.pm1Sts ∧
      core.regs.pm1Sts = 0 ∧
      (core.run 5 accesses).regs.pm1Sts = 0 ∧ (core.run 5 accesses).raiseSci = [] :=
  ⟨rfl, (sci_never_raised 5 _ _).1, rfl, (sci_never_raised 5 _ _).2 rfl⟩

end Tenbox
