import Mathlib

/-!
The I/O APIC of core/device/irq/ioapic.cpp together with `Vm::InjectIrq` of
vmm/vm.cpp. `IoApic` holds `index_`, `id_` and `redir_table_`; the mutex is not
modelled, since every method runs under it. `MmioRead` and `MmioWrite` take the
`offset` and `size` of the access, which the code forwards unchanged and never
checks. A run is a list of guest accesses and injections, and only writes change
the state: `MmioRead` and `GetRedirEntry` read it.
-/

namespace Tenbox

def kMaxRedirEntries : Nat := 24

def kRegId : BitVec 32 := 0x00
def kRegVer : BitVec 32 := 0x01
def kRegArb : BitVec 32 := 0x02
def kRegRedTbl : BitVec 32 := 0x10

structure IoApic where
  index : BitVec 32
  id : BitVec 32
  redirTable : Fin kMaxRedirEntries → BitVec 64

namespace IoApic

-- `IoApic()` runs `ResetRedirTable`, which masks every entry.
def reset : IoApic := ⟨0, 0, fun _ => 0x0000000000010000⟩

def lowHalf (rte : BitVec 64) : BitVec 32 := rte.setWidth 32

def highHalf (rte : BitVec 64) : BitVec 32 := (rte >>> 32).setWidth 32

def half (rte : BitVec 64) (high : Bool) : BitVec 32 := if high then highHalf rte else lowHalf rte

-- The entry and half that `ReadRegister` and `WriteRegister` both derive from `index_`.
def redirSlot (index : BitVec 32) : Option (Fin kMaxRedirEntries × Bool) :=
  if kRegRedTbl ≤ index ∧ index < kRegRedTbl + BitVec.ofNat 32 (kMaxRedirEntries * 2) then
    let entryIdx := (index - kRegRedTbl) / 2
    let high := (index - kRegRedTbl) % 2 ≠ 0
    if fits : entryIdx.toNat < kMaxRedirEntries then some (⟨entryIdx.toNat, fits⟩, high) else none
  else none

def writeHalf (rte : BitVec 64) (high : Bool) (value : BitVec 32) : BitVec 64 :=
  if high then (rte &&& 0x00000000FFFFFFFF) ||| (value.setWidth 64 <<< 32)
  else (rte &&& 0xFFFFFFFF00000000) ||| value.setWidth 64

def readRegister (apic : IoApic) : BitVec 32 :=
  if apic.index = kRegId then apic.id <<< 24
  else if apic.index = kRegVer then 0x00170020
  else if apic.index = kRegArb then 0
  else match redirSlot apic.index with
    | some (entry, high) => half (apic.redirTable entry) high
    | none => 0

def writeRegister (apic : IoApic) (value : BitVec 32) : IoApic :=
  if apic.index = kRegId then { apic with id := (value >>> 24) &&& 0x0F }
  else match redirSlot apic.index with
    | some (entry, high) =>
        let rte := writeHalf (apic.redirTable entry) high value
        { apic with redirTable := Function.update apic.redirTable entry rte }
    | none => apic

-- One iteration of the EOI loop: clear Remote IRR (bit 14) when the vector matches.
def eoiEntry (vector : BitVec 32) (rte : BitVec 64) : BitVec 64 :=
  if rte &&& 0xFF = vector.setWidth 64 then rte &&& ~~~((1 : BitVec 64) <<< 14) else rte

def mmioRead (apic : IoApic) (offset : BitVec 64) (_size : BitVec 8) : BitVec 64 :=
  if offset = 0x00 then apic.index.setWidth 64
  else if offset = 0x10 then apic.readRegister.setWidth 64
  else 0

def mmioWrite (apic : IoApic) (offset : BitVec 64) (_size : BitVec 8) (value : BitVec 64) : IoApic :=
  if offset = 0x00 then { apic with index := value.setWidth 32 &&& 0xFF }
  else if offset = 0x10 then apic.writeRegister (value.setWidth 32)
  else if offset = 0x40 then
    { apic with redirTable := fun entry => eoiEntry (value.setWidth 32 &&& 0xFF) (apic.redirTable entry) }
  else apic

def getRedirEntry (apic : IoApic) (irq : BitVec 8) : Option (BitVec 64) :=
  if fits : irq.toNat < kMaxRedirEntries then some (apic.redirTable ⟨irq.toNat, fits⟩) else none

end IoApic

/-! `WHV_INTERRUPT_CONTROL` as `Vm::InjectIrq` fills it. -/

inductive InterruptType where
  | fixed
  deriving DecidableEq, Repr

inductive DestinationMode where
  | physical
  | logical
  deriving DecidableEq, Repr

inductive TriggerMode where
  | edge
  | level
  deriving DecidableEq, Repr

structure InterruptControl where
  type : InterruptType
  destinationMode : DestinationMode
  triggerMode : TriggerMode
  destination : BitVec 32
  vector : BitVec 32
  deriving DecidableEq, Repr

-- `Vm::InjectIrq`: `none` is a return before `WHvRequestInterrupt`.
def injectIrq (apic : IoApic) (irq : BitVec 8) : Option InterruptControl :=
  match apic.getRedirEntry irq with
  | none => none
  | some rte =>
      let masked := (rte >>> 16) &&& 1 ≠ 0
      let vector := (rte &&& 0xFF).setWidth 32
      if masked then none
      else if vector = 0 then none
      else some { type := .fixed
                  destinationMode := if (rte >>> 11) &&& 1 ≠ 0 then .logical else .physical
                  triggerMode := if (rte >>> 15) &&& 1 ≠ 0 then .level else .edge
                  destination := (rte >>> 56).setWidth 32
                  vector := vector }

inductive Access where
  | read (offset : BitVec 64) (size : BitVec 8)
  | write (offset : BitVec 64) (size : BitVec 8) (value : BitVec 64)
  | inject (irq : BitVec 8)
  deriving DecidableEq, Repr

namespace IoApic

def step (apic : IoApic) : Access → IoApic
  | .write offset size value => apic.mmioWrite offset size value
  | .read _ _ => apic
  | .inject _ => apic

def run (apic : IoApic) (accesses : List Access) : IoApic := accesses.foldl step apic

@[simp] theorem run_nil (apic : IoApic) : apic.run [] = apic := rfl

@[simp] theorem run_cons (apic : IoApic) (access : Access) (rest : List Access) :
    apic.run (access :: rest) = (apic.step access).run rest := rfl

/-! Bit facts about the two halves of a redirection entry. -/

section Halves
variable (rte : BitVec 64) (value : BitVec 32)

theorem testBit_lowMask (i : Nat) : Nat.testBit 0x00000000FFFFFFFF i = decide (i < 32) :=
  Nat.testBit_two_pow_sub_one 32 i

theorem testBit_highMask (i : Nat) :
    Nat.testBit 0xFFFFFFFF00000000 i = (decide (32 ≤ i) && decide (i < 64)) := by
  rw [show 0xFFFFFFFF00000000 = (2 ^ 32 - 1) <<< 32 from rfl, Nat.testBit_shiftLeft,
    Nat.testBit_two_pow_sub_one]
  by_cases h : 32 ≤ i <;> simp [h]
  omega

theorem lowHalf_writeHalf_low : lowHalf (writeHalf rte false value) = value := by
  apply BitVec.eq_of_getLsbD_eq
  intro i
  simp [lowHalf, writeHalf, i.isLt, BitVec.getLsbD_ofNat, testBit_highMask]

theorem highHalf_writeHalf_low : highHalf (writeHalf rte false value) = highHalf rte := by
  apply BitVec.eq_of_getLsbD_eq
  intro i
  simp [highHalf, writeHalf, i.isLt, BitVec.getLsbD_ofNat, testBit_highMask]
  omega

theorem lowHalf_writeHalf_high : lowHalf (writeHalf rte true value) = lowHalf rte := by
  apply BitVec.eq_of_getLsbD_eq
  intro i
  simp [lowHalf, writeHalf, i.isLt, BitVec.getLsbD_ofNat, testBit_lowMask]

theorem highHalf_writeHalf_high : highHalf (writeHalf rte true value) = value := by
  apply BitVec.eq_of_getLsbD_eq
  intro i
  have below := i.isLt
  simp [highHalf, writeHalf, BitVec.getLsbD_ofNat, testBit_lowMask,
    show 32 + (i : Nat) < 64 by omega, show ¬ 32 + (i : Nat) < 32 by omega, Nat.add_sub_cancel_left,
    show (i : Nat) < 64 by omega]

-- A write replaces its own half and leaves the other one alone.
theorem half_writeHalf (high other : Bool) :
    half (writeHalf rte high value) other = if other = high then value else half rte other := by
  cases high <;> cases other <;>
    simp [half, lowHalf_writeHalf_low, highHalf_writeHalf_low, lowHalf_writeHalf_high,
      highHalf_writeHalf_high]

end Halves

-- Two 32-bit halves that agree in every bit but Remote IRR (bit 14).
def EqOffRemoteIrr (x y : BitVec 32) : Prop := ∀ i, i ≠ 14 → x.getLsbD i = y.getLsbD i

theorem EqOffRemoteIrr.refl (x : BitVec 32) : EqOffRemoteIrr x x := fun _ _ => rfl

theorem EqOffRemoteIrr.trans {x y z : BitVec 32} (first : EqOffRemoteIrr x y)
    (second : EqOffRemoteIrr y z) : EqOffRemoteIrr x z :=
  fun i off => (first i off).trans (second i off)

theorem getLsbD_eoiEntry (vector : BitVec 32) (rte : BitVec 64) (i : Nat) :
    (eoiEntry vector rte).getLsbD i =
      (rte.getLsbD i && !(decide (i = 14) && decide (rte &&& 0xFF = vector.setWidth 64))) := by
  unfold eoiEntry
  split
  · next same =>
    simp only [BitVec.getLsbD_and, BitVec.getLsbD_not, BitVec.getLsbD_shiftLeft, BitVec.getLsbD_one, same]
    by_cases remote : i = 14
    · simp [remote]
    · by_cases inRange : i < 64
      · simp [remote, inRange]
        omega
      · simp [remote, inRange, BitVec.getLsbD_ge rte i (by omega)]
  · simp_all

theorem highHalf_eoiEntry (vector : BitVec 32) (rte : BitVec 64) :
    highHalf (eoiEntry vector rte) = highHalf rte := by
  apply BitVec.eq_of_getLsbD_eq
  intro i
  simp [highHalf, getLsbD_eoiEntry]
  omega

theorem lowHalf_eoiEntry (vector : BitVec 32) (rte : BitVec 64) :
    EqOffRemoteIrr (lowHalf (eoiEntry vector rte)) (lowHalf rte) := by
  intro i off
  simp [lowHalf, getLsbD_eoiEntry, off]

/-! `index_` values that select a redirection half. -/

def rteIndex (entry : Fin kMaxRedirEntries) (high : Bool) : BitVec 32 :=
  BitVec.ofNat 32 (0x10 + 2 * entry.val + if high then 1 else 0)

theorem redirSlot_eq_some (index : BitVec 32) (entry : Fin kMaxRedirEntries) (high : Bool) :
    redirSlot index = some (entry, high) ↔ index = rteIndex entry high := by
  have bound := entry.isLt
  simp only [kMaxRedirEntries] at bound
  unfold redirSlot rteIndex
  by_cases inRange : kRegRedTbl ≤ index ∧ index < kRegRedTbl + BitVec.ofNat 32 (kMaxRedirEntries * 2)
  · rw [if_pos inRange]
    simp only [kRegRedTbl, kMaxRedirEntries] at inRange ⊢
    rw [dif_pos (by simp only [bv_toNat, Nat.reducePow, Nat.reduceMod] at *; omega)]
    simp only [Option.some.injEq, Prod.mk.injEq, Fin.ext_iff]
    cases high <;> simp <;> simp only [bv_toNat, Nat.reducePow, Nat.reduceMod] at * <;> omega
  · rw [if_neg inRange]
    simp only [kRegRedTbl, kMaxRedirEntries] at inRange
    simp only [reduceCtorEq, false_iff]
    cases high <;> simp <;> simp only [bv_toNat, Nat.reducePow, Nat.reduceMod] at * <;> omega

theorem redirSlot_rteIndex (entry : Fin kMaxRedirEntries) (high : Bool) :
    redirSlot (rteIndex entry high) = some (entry, high) :=
  (redirSlot_eq_some _ _ _).mpr rfl

theorem rteIndex_inj {entry other : Fin kMaxRedirEntries} {high side : Bool}
    (same : rteIndex entry high = rteIndex other side) : entry = other ∧ high = side := by
  have slot := redirSlot_rteIndex entry high
  rw [same, redirSlot_rteIndex] at slot
  simpa [eq_comm] using slot

theorem le_rteIndex (entry : Fin kMaxRedirEntries) (high : Bool) : 16 ≤ (rteIndex entry high).toNat := by
  have bound := entry.isLt
  simp only [kMaxRedirEntries] at bound
  cases high <;> simp [rteIndex] <;> omega

-- Indices below 0x10 select no redirection half.
theorem redirSlot_of_lt {index : BitVec 32} (below : index.toNat < 16) : redirSlot index = none := by
  cases slot : redirSlot index with
  | none => rfl
  | some found =>
      have := le_rteIndex found.1 found.2
      rw [← (redirSlot_eq_some _ _ _).mp slot] at this
      omega

theorem rteIndex_ne_kRegId (entry : Fin kMaxRedirEntries) (high : Bool) : rteIndex entry high ≠ kRegId :=
  fun same => by have := le_rteIndex entry high; rw [same] at this; simp [kRegId] at this

/-! `Vm::InjectIrq` reads the entry only through its two halves. -/

-- The request the injector builds from an entry's low and high halves.
def requestOf (low high : BitVec 32) : Option InterruptControl :=
  if low.getLsbD 16 then none
  else if low &&& 0xFF = 0 then none
  else some { type := .fixed
              destinationMode := if low.getLsbD 11 then .logical else .physical
              triggerMode := if low.getLsbD 15 then .level else .edge
              destination := high >>> 24
              vector := low &&& 0xFF }

theorem shift_and_one_ne_zero (rte : BitVec 64) (k : Nat) :
    (rte >>> k) &&& 1 ≠ 0 ↔ rte.getLsbD k = true := by
  simp only [ne_eq, BitVec.toNat_eq, BitVec.toNat_and, BitVec.toNat_ushiftRight, BitVec.ofNat_eq_ofNat,
    BitVec.toNat_ofNat, Nat.reducePow, Nat.reduceMod, Nat.and_one_is_mod, BitVec.getLsbD,
    Nat.testBit_to_div_mod, Nat.shiftRight_eq_div_pow, decide_eq_true_iff]
  omega

theorem vector_eq_lowHalf (rte : BitVec 64) : (rte &&& 0xFF).setWidth 32 = lowHalf rte &&& 0xFF := by
  apply BitVec.eq_of_getLsbD_eq
  intro i
  simp [lowHalf]

theorem destination_eq_highHalf (rte : BitVec 64) : (rte >>> 56).setWidth 32 = highHalf rte >>> 24 := by
  apply BitVec.eq_of_getLsbD_eq
  intro i
  simp [highHalf, Nat.add_comm, ← Nat.add_assoc]
  intro bit
  have := BitVec.lt_of_getLsbD bit
  omega

theorem injectIrq_eq_requestOf (apic : IoApic) (irq : BitVec 8) :
    injectIrq apic irq =
      (apic.getRedirEntry irq).bind fun rte => requestOf (lowHalf rte) (highHalf rte) := by
  unfold injectIrq
  cases apic.getRedirEntry irq with
  | none => rfl
  | some rte =>
      have bit (k : Nat) (below : k < 32) : (lowHalf rte).getLsbD k = rte.getLsbD k := by
        simp [lowHalf, below]
      simp only [shift_and_one_ne_zero, vector_eq_lowHalf, destination_eq_highHalf, Option.some_bind,
        requestOf, bit 16 (by omega), bit 11 (by omega), bit 15 (by omega)]

-- Remote IRR is not among the bits the injector reads.
theorem requestOf_congr {low low' : BitVec 32} (high : BitVec 32) (agree : EqOffRemoteIrr low low') :
    requestOf low high = requestOf low' high := by
  have vector : low &&& 0xFF = low' &&& 0xFF := by
    apply BitVec.eq_of_getLsbD_eq
    intro i
    by_cases below : (i : Nat) < 8
    · simp [agree i (by omega)]
    · simp [BitVec.getLsbD_ofNat, below, show Nat.testBit 255 i = decide ((i : Nat) < 8) from
        Nat.testBit_two_pow_sub_one 8 i]
  simp only [requestOf, agree 16 (by omega), agree 11 (by omega), agree 15 (by omega), vector]

/-! Remote IRR (bit 14) over a run of accesses. -/

def remoteIrr (apic : IoApic) (entry : Fin kMaxRedirEntries) : Bool := (apic.redirTable entry).getLsbD 14

theorem getLsbD_writeHalf_low_bit (rte : BitVec 64) (high : Bool) (value : BitVec 32) {i : Nat}
    (below : i < 32) : (writeHalf rte high value).getLsbD i = if high then rte.getLsbD i else value.getLsbD i := by
  cases high <;> simp [writeHalf, BitVec.getLsbD_ofNat, testBit_lowMask, testBit_highMask, below,
    show i < 64 by omega, show ¬ 32 ≤ i by omega]

-- What one access does to Remote IRR: an IOWIN write to the entry's low half copies
-- bit 14 of the written value, an EOI with the entry's vector clears it, and nothing
-- else touches it. In particular no injection sets it.
theorem remoteIrr_step (apic : IoApic) (access : Access) (entry : Fin kMaxRedirEntries) :
    remoteIrr (apic.step access) entry =
      match access with
      | .write offset _ value =>
          if offset = 0x00 then remoteIrr apic entry
          else if offset = 0x10 then
            if apic.index = rteIndex entry false then value.getLsbD 14 else remoteIrr apic entry
          else if offset = 0x40 then
            remoteIrr apic entry &&
              !decide (apic.redirTable entry &&& 0xFF = (value.setWidth 32 &&& 0xFF).setWidth 64)
          else remoteIrr apic entry
      | .read _ _ => remoteIrr apic entry
      | .inject _ => remoteIrr apic entry := by
  cases access with
  | read => rfl
  | inject => rfl
  | write offset size value =>
      dsimp only [step]
      unfold mmioWrite
      by_cases zero : offset = 0x00
      · rw [if_pos zero, if_pos zero]
        rfl
      rw [if_neg zero, if_neg zero]
      by_cases window : offset = 0x10
      · rw [if_pos window, if_pos window, writeRegister]
        by_cases selectsId : apic.index = kRegId
        · rw [if_pos selectsId, if_neg (selectsId ▸ (rteIndex_ne_kRegId entry false).symm)]
          rfl
        rw [if_neg selectsId]
        cases slot : redirSlot apic.index with
        | none =>
            have other : apic.index ≠ rteIndex entry false := fun same => by
              simp [same, redirSlot_rteIndex] at slot
            rw [if_neg other]
        | some found =>
            obtain ⟨target, high⟩ := found
            have index := (redirSlot_eq_some _ _ _).mp slot
            dsimp only
            by_cases sameEntry : target = entry
            · subst sameEntry
              simp only [remoteIrr, Function.update_same, getLsbD_writeHalf_low_bit _ _ _ (by omega : 14 < 32),
                index]
              cases high
              · simp
              · have halves : rteIndex target true ≠ rteIndex target false := fun same =>
                  Bool.noConfusion (rteIndex_inj same).2
                simp [halves]
            · have other : apic.index ≠ rteIndex entry false := fun same =>
                sameEntry (rteIndex_inj (index.symm.trans same)).1
              simp [remoteIrr, other, Function.update_noteq (Ne.symm sameEntry)]
      rw [if_neg window, if_neg window]
      by_cases eoi : offset = 0x40
      · rw [if_pos eoi, if_pos eoi]
        simp [remoteIrr, getLsbD_eoiEntry]
      · rw [if_neg eoi, if_neg eoi]

theorem level_injection_leaves_remote_irr_clear :
    let apic := IoApic.reset.run [.write 0x00 4 0x10, .write 0x10 4 0x8021]
    injectIrq apic 0 = some ⟨.fixed, .physical, .level, 0, 0x21⟩ ∧
      remoteIrr (apic.step (.inject 0)) ⟨0, by decide⟩ = false := by
  decide

end IoApic

end Tenbox
