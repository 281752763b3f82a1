import Tenbox.Device.IoApic

/-!
The register file the I/O APIC presents to the guest through its index/window
pair. `RegisterWindow` keeps IOREGSEL and, for every register index, the last
32-bit value written at offset 0x10 while IOREGSEL held that index. A read of a
redirection half returns that value or the half's reset value, index 0 returns the
ID field of the last ID write, index 1 the version, and every other index 0.
`Refines` relates `IoApic` to this file: equal everywhere except Remote IRR, which
the EOI register clears behind the guest's back.
-/

namespace Tenbox

structure RegisterWindow where
  select : BitVec 32
  written : BitVec 32 → Option (BitVec 32)

namespace RegisterWindow

def reset : RegisterWindow := ⟨0, fun _ => none⟩

def resetHalf (high : Bool) : BitVec 32 := if high then 0 else 0x00010000

def half (window : RegisterWindow) (entry : Fin kMaxRedirEntries) (high : Bool) : BitVec 32 :=
  (window.written (IoApic.rteIndex entry high)).getD (resetHalf high)

def read (window : RegisterWindow) : BitVec 32 :=
  if window.select = 0 then ((((window.written 0).getD 0) >>> 24) &&& 0xF) <<< 24
  else if window.select = 1 then 0x00170020
  else match IoApic.redirSlot window.select with
    | some (_, high) => (window.written window.select).getD (resetHalf high)
    | none => 0

def mmioRead (window : RegisterWindow) (offset : BitVec 64) : BitVec 64 :=
  if offset = 0x00 then window.select.setWidth 64
  else if offset = 0x10 then window.read.setWidth 64
  else 0

def step (window : RegisterWindow) : Access → RegisterWindow
  | .write offset _ value =>
      if offset = 0x00 then { window with select := value.setWidth 32 &&& 0xFF }
      else if offset = 0x10 then
        { window with written := Function.update window.written window.select (some (value.setWidth 32)) }
      else window
  | .read _ _ => window
  | .inject _ => window

def run (window : RegisterWindow) (accesses : List Access) : RegisterWindow := accesses.foldl step window

-- An injection requests an interrupt exactly when the entry exists, is unmasked and
-- has a nonzero vector; the request is read off the entry's two halves.
def injectIrq (window : RegisterWindow) (irq : BitVec 8) : Option InterruptControl :=
  if fits : irq.toNat < kMaxRedirEntries then
    IoApic.requestOf (window.half ⟨irq.toNat, fits⟩ false) (window.half ⟨irq.toNat, fits⟩ true)
  else none

def LowHalfSelected (select : BitVec 32) : Prop := ∃ entry, IoApic.redirSlot select = some (entry, false)

end RegisterWindow

open IoApic RegisterWindow

def Refines (apic : IoApic) (window : RegisterWindow) : Prop :=
  apic.index = window.select ∧
  apic.id = ((window.written 0).getD 0 >>> 24) &&& 0x0F ∧
  ∀ entry, highHalf (apic.redirTable entry) = window.half entry true ∧
    EqOffRemoteIrr (lowHalf (apic.redirTable entry)) (window.half entry false)

theorem refines_reset : Refines IoApic.reset RegisterWindow.reset :=
  ⟨rfl, rfl, fun _ => ⟨show highHalf 0x0000000000010000 = resetHalf true by decide, fun i _ => by
    show (lowHalf 0x0000000000010000).getLsbD i = (resetHalf false).getLsbD i
    rfl⟩⟩

namespace RegisterWindow

theorem half_update_rteIndex (window : RegisterWindow) (value index : BitVec 32)
    (entry target : Fin kMaxRedirEntries) (side high : Bool) (slot : index = rteIndex target high) :
    half { window with written := Function.update window.written index (some value) }
        entry side = if entry = target ∧ side = high then value else window.half entry side := by
  subst slot
  by_cases hit : entry = target ∧ side = high
  · obtain ⟨rfl, rfl⟩ := hit
    simp [half]
  · have other : rteIndex entry side ≠ rteIndex target high := fun same => hit (rteIndex_inj same)
    simp [half, hit, Function.update_noteq other]

theorem half_update_other (window : RegisterWindow) (value : BitVec 32) (index : BitVec 32)
    (entry : Fin kMaxRedirEntries) (side : Bool) (other : rteIndex entry side ≠ index) :
    half { window with written := Function.update window.written index (some value) } entry side =
      window.half entry side := by
  simp [half, Function.update_noteq other]

end RegisterWindow

theorem refines_writeRegister {apic : IoApic} {window : RegisterWindow} (rel : Refines apic window)
    (value : BitVec 32) :
    Refines (apic.writeRegister value)
      { window with written := Function.update window.written window.select (some value) } := by
  obtain ⟨index, id, table⟩ := rel
  unfold writeRegister
  by_cases selectsId : apic.index = kRegId
  · have selectZero : window.select = 0 := index ▸ selectsId
    rw [if_pos selectsId]
    refine ⟨index, ?_, fun entry => ?_⟩
    · show (value >>> 24) &&& 0x0F = ((Function.update window.written window.select (some value) 0).getD 0 >>> 24) &&& 0x0F
      rw [selectZero, Function.update_same]
      rfl
    have apart (side : Bool) : rteIndex entry side ≠ window.select :=
      selectZero ▸ rteIndex_ne_kRegId entry side
    simpa only [half_update_other _ _ _ _ _ (apart _)] using table entry
  rw [if_neg selectsId]
  have idKept : (Function.update window.written window.select (some value) 0).getD 0 =
      (window.written 0).getD 0 := by
    rw [Function.update_noteq]
    exact fun same => selectsId (index.trans same.symm)
  cases slot : redirSlot apic.index with
  | none =>
      refine ⟨index, id.trans (by rw [idKept]), fun entry => ?_⟩
      have apart (side : Bool) : rteIndex entry side ≠ window.select := fun same => by
        rw [index, ← same, redirSlot_rteIndex] at slot
        cases slot
      simpa only [half_update_other _ _ _ _ _ (apart _)] using table entry
  | some found =>
      obtain ⟨target, high⟩ := found
      have selectIs : window.select = rteIndex target high := index ▸ (redirSlot_eq_some _ _ _).mp slot
      refine ⟨index, id.trans (by rw [idKept]), fun entry => ?_⟩
      dsimp only
      rw [half_update_rteIndex _ _ _ _ _ _ _ selectIs, half_update_rteIndex _ _ _ _ _ _ _ selectIs]
      by_cases same : entry = target
      · subst same
        rw [Function.update_same]
        cases high
        · simpa [highHalf_writeHalf_low, lowHalf_writeHalf_low] using
            ⟨(table entry).1, EqOffRemoteIrr.refl value⟩
        · simpa [highHalf_writeHalf_high, lowHalf_writeHalf_high] using (table entry).2
      · simpa [same, Function.update_noteq same] using table entry

theorem refines_step {apic : IoApic} {window : RegisterWindow} (rel : Refines apic window)
    (access : Access) : Refines (apic.step access) (window.step access) := by
  cases access with
  | read => exact rel
  | inject => exact rel
  | write offset size value =>
      obtain ⟨index, id, table⟩ := rel
      dsimp only [IoApic.step, RegisterWindow.step]
      unfold mmioWrite
      by_cases zero : offset = 0x00
      · rw [if_pos zero, if_pos zero]
        exact ⟨rfl, id, table⟩
      rw [if_neg zero, if_neg zero]
      by_cases window' : offset = 0x10
      · rw [if_pos window', if_pos window']
        exact refines_writeRegister ⟨index, id, table⟩ _
      rw [if_neg window', if_neg window']
      by_cases eoi : offset = 0x40
      · rw [if_pos eoi]
        refine ⟨index, id, fun entry => ⟨?_, ?_⟩⟩
        · exact (highHalf_eoiEntry _ _).trans (table entry).1
        · exact (lowHalf_eoiEntry _ _).trans (table entry).2
      · rw [if_neg eoi]
        exact ⟨index, id, table⟩

theorem refines_run {apic : IoApic} {window : RegisterWindow} (rel : Refines apic window)
    (accesses : List Access) : Refines (apic.run accesses) (window.run accesses) := by
  induction accesses generalizing apic window with
  | nil => exact rel
  | cons access rest ih => exact ih (refines_step rel access)

theorem readRegister_refines {apic : IoApic} {window : RegisterWindow} (rel : Refines apic window)
    (i : Nat) (off : LowHalfSelected window.select → i ≠ 14) :
    apic.readRegister.getLsbD i = window.read.getLsbD i := by
  obtain ⟨index, id, table⟩ := rel
  unfold readRegister RegisterWindow.read
  simp only [index, kRegId, kRegVer, kRegArb]
  by_cases selectsId : window.select = 0
  · rw [if_pos selectsId, if_pos selectsId, id]
  rw [if_neg selectsId, if_neg selectsId]
  by_cases selectsVer : window.select = 1
  · rw [if_pos selectsVer, if_pos selectsVer]
  rw [if_neg selectsVer, if_neg selectsVer]
  by_cases selectsArb : window.select = 2
  · rw [if_pos selectsArb, selectsArb, redirSlot_of_lt (by decide)]
  rw [if_neg selectsArb]
  cases slot : redirSlot window.select with
  | none => rfl
  | some found =>
      obtain ⟨entry, high⟩ := found
      have written : (window.written window.select).getD (resetHalf high) = window.half entry high := by
        rw [RegisterWindow.half, ← (redirSlot_eq_some _ _ _).mp slot]
      dsimp only
      rw [written]
      cases high
      · exact (table entry).2 i (off ⟨entry, slot⟩)
      · exact congrArg (·.getLsbD i) (table entry).1

theorem mmioRead_refines {apic : IoApic} {window : RegisterWindow} (rel : Refines apic window)
    (offset : BitVec 64) (size : BitVec 8) (i : Nat)
    (off : offset = 0x10 → LowHalfSelected window.select → i ≠ 14) :
    (apic.mmioRead offset size).getLsbD i = (window.mmioRead offset).getLsbD i := by
  unfold IoApic.mmioRead RegisterWindow.mmioRead
  by_cases zero : offset = 0x00
  · rw [if_pos zero, if_pos zero, rel.1]
  rw [if_neg zero, if_neg zero]
  by_cases window' : offset = 0x10
  · rw [if_pos window', if_pos window', BitVec.getLsbD_setWidth, BitVec.getLsbD_setWidth,
      readRegister_refines rel i (off window')]
  · rw [if_neg window', if_neg window']

theorem injectIrq_refines {apic : IoApic} {window : RegisterWindow} (rel : Refines apic window)
    (irq : BitVec 8) : injectIrq apic irq = window.injectIrq irq := by
  rw [injectIrq_eq_requestOf]
  unfold getRedirEntry RegisterWindow.injectIrq
  split
  · rename_i fits
    rw [Option.some_bind, (rel.2.2 ⟨irq.toNat, fits⟩).1]
    exact requestOf_congr _ (rel.2.2 ⟨irq.toNat, fits⟩).2
  · rfl

-- An IOWIN write sets the selected half and leaves the other half and every other entry alone.
theorem mmioWrite_window_frame (apic : IoApic) (size : BitVec 8) (value : BitVec 64)
    {entry : Fin kMaxRedirEntries} {high : Bool} (slot : redirSlot apic.index = some (entry, high)) :
    let next := apic.mmioWrite 0x10 size value
    IoApic.half (next.redirTable entry) high = value.setWidth 32 ∧
      IoApic.half (next.redirTable entry) (!high) = IoApic.half (apic.redirTable entry) (!high) ∧
      ∀ other, other ≠ entry → next.redirTable other = apic.redirTable other := by
  have notId : apic.index ≠ kRegId := fun same => by
    rw [same, redirSlot_of_lt (by decide)] at slot
    cases slot
  simp only [IoApic.mmioWrite, writeRegister, if_neg notId, slot]
  refine ⟨?_, ?_, fun other apart => Function.update_noteq apart _ _⟩
  · simp [half_writeHalf]
  · simp [half_writeHalf]

/-- From reset, along every run of accesses, the I/O APIC answers every read and every
injection as the register file `RegisterWindow` does, except Remote IRR in a selected low
half, and an IOWIN write changes only the half IOREGSEL selects. -/
theorem run_refines_register_window (accesses : List Access) :
    let apic := IoApic.reset.run accesses
    let window := RegisterWindow.reset.run accesses
    (∀ offset size i, (offset = 0x10 → LowHalfSelected window.select → i ≠ 14) →
      (apic.mmioRead offset size).getLsbD i = (window.mmioRead offset).getLsbD i) ∧
    (∀ irq, injectIrq apic irq = window.injectIrq irq) ∧
    (∀ size value entry high, redirSlot apic.index = some (entry, high) →
      let next := apic.mmioWrite 0x10 size value
      IoApic.half (next.redirTable entry) high = value.setWidth 32 ∧
        IoApic.half (next.redirTable entry) (!high) = IoApic.half (apic.redirTable entry) (!high) ∧
        ∀ other, other ≠ entry → next.redirTable other = apic.redirTable other) := by
  have rel := refines_run refines_reset accesses
  exact ⟨fun offset size i off => mmioRead_refines rel offset size i off,
    fun irq => injectIrq_refines rel irq,
    fun size value _ _ slot => mmioWrite_window_frame _ size value slot⟩

end Tenbox
