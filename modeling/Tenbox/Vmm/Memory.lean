import Mathlib

/-!
The guest RAM layout of `Vm::AllocateMemory` in vmm/vm.cpp. The allocation is one block
of `alloc` bytes; its first `low_size` bytes back guest physical addresses from 0 up, and
what is left above `kMmioGapStart` backs addresses from `kMmioGapEnd` up, so that nothing
is mapped in the MMIO gap between them. `kMmioGapStart`, `kMmioGapEnd`, `kPageSize` and
`AlignUp` are declared in headers the tree lacks, so the gap's ends are parameters and
`alloc`, the page-aligned size, is the input. The model assumes that `VirtualAlloc` and
both `MapMemory` calls succeed.
-/

namespace Tenbox.Vmm

structure GuestMemory where
  allocSize : BitVec 64
  lowSize : BitVec 64
  highSize : BitVec 64
  highBase : BitVec 64
  deriving DecidableEq, Repr

-- One `MapMemory(gpa, base + hostOffset, size, flags)` call.
structure GpaMapping where
  gpa : BitVec 64
  hostOffset : BitVec 64
  size : BitVec 64
  deriving DecidableEq, Repr

def GpaMapping.MapsGpa (mapping : GpaMapping) (gpa : Nat) : Prop :=
  mapping.gpa.toNat ≤ gpa ∧ gpa < mapping.gpa.toNat + mapping.size.toNat

def GpaMapping.MapsHost (mapping : GpaMapping) (offset : Nat) : Prop :=
  mapping.hostOffset.toNat ≤ offset ∧ offset < mapping.hostOffset.toNat + mapping.size.toNat

section Layout
variable (kMmioGapStart kMmioGapEnd : BitVec 64)

-- The layout `AllocateMemory` stores in `mem_`, and the ranges it maps, in order.
def allocateMemory (alloc : BitVec 64) : GuestMemory × List GpaMapping :=
  let lowSize := if kMmioGapStart < alloc then kMmioGapStart else alloc
  let highSize := if alloc > kMmioGapStart then alloc - kMmioGapStart else 0
  let highBase := if highSize ≠ 0 then kMmioGapEnd else 0
  (⟨alloc, lowSize, highSize, highBase⟩,
    ⟨0, 0, lowSize⟩ :: if highSize ≠ 0 then [⟨kMmioGapEnd, lowSize, highSize⟩] else [])

-- RAM that fits below the gap is mapped in one piece.
theorem allocateMemory_of_le {alloc : BitVec 64} (below : alloc ≤ kMmioGapStart) :
    allocateMemory kMmioGapStart kMmioGapEnd alloc = (⟨alloc, alloc, 0, 0⟩, [⟨0, 0, alloc⟩]) := by
  have notAbove : ¬kMmioGapStart < alloc := by bv_omega
  simp [allocateMemory, notAbove]

-- RAM that reaches the gap is split at it.
theorem allocateMemory_of_lt {alloc : BitVec 64} (above : kMmioGapStart < alloc) :
    allocateMemory kMmioGapStart kMmioGapEnd alloc =
      (⟨alloc, kMmioGapStart, alloc - kMmioGapStart, kMmioGapEnd⟩,
        [⟨0, 0, kMmioGapStart⟩, ⟨kMmioGapEnd, kMmioGapStart, alloc - kMmioGapStart⟩]) := by
  have split : alloc - kMmioGapStart ≠ 0 := by bv_omega
  simp only [allocateMemory, if_pos above, gt_iff_lt, if_pos split]

/-- When the gap's start is at most its end, no mapped guest physical address lies in the
MMIO gap, the guest physical ranges do not overlap, and every byte of the allocation backs
exactly one mapping while no mapping reaches past it. -/
theorem guest_ram_avoids_mmio_gap (ordered : kMmioGapStart ≤ kMmioGapEnd) (alloc : BitVec 64) :
    (∀ mapping ∈ (allocateMemory kMmioGapStart kMmioGapEnd alloc).2, ∀ gpa, mapping.MapsGpa gpa →
      gpa < kMmioGapStart.toNat ∨ kMmioGapEnd.toNat ≤ gpa) ∧
    (∀ gpa, ∀ first ∈ (allocateMemory kMmioGapStart kMmioGapEnd alloc).2,
      ∀ second ∈ (allocateMemory kMmioGapStart kMmioGapEnd alloc).2,
        first.MapsGpa gpa → second.MapsGpa gpa → first = second) ∧
    (∀ offset < alloc.toNat, ∃! mapping, mapping ∈ (allocateMemory kMmioGapStart kMmioGapEnd alloc).2 ∧
      mapping.MapsHost offset) ∧
    ∀ mapping ∈ (allocateMemory kMmioGapStart kMmioGapEnd alloc).2,
      mapping.hostOffset.toNat + mapping.size.toNat ≤ alloc.toNat := by
  rw [BitVec.le_def] at ordered
  have zero : (0 : BitVec 64).toNat = 0 := rfl
  by_cases above : kMmioGapStart < alloc
  · rw [allocateMemory_of_lt _ _ above]
    rw [BitVec.lt_def] at above
    have high : (alloc - kMmioGapStart).toNat = alloc.toNat - kMmioGapStart.toNat :=
      BitVec.toNat_sub_of_le (by rw [BitVec.le_def]; omega)
    simp only [List.mem_cons, List.mem_singleton, List.not_mem_nil, or_false, GpaMapping.MapsGpa,
      GpaMapping.MapsHost]
    refine ⟨?_, ?_, ?_, ?_⟩
    · rintro mapping (rfl | rfl) gpa ⟨lower, upper⟩
      all_goals simp only [zero, high] at lower upper
      all_goals omega
    · rintro gpa first (rfl | rfl) second (rfl | rfl) ⟨lower, upper⟩ ⟨lower', upper'⟩
      all_goals simp only [zero, high] at lower upper lower' upper' ⊢
      all_goals omega
    · intro offset inside
      by_cases below : offset < kMmioGapStart.toNat
      · refine ⟨_, ⟨.inl rfl, by simp only [zero]; omega⟩, ?_⟩
        rintro mapping ⟨rfl | rfl, lower, upper⟩
        · rfl
        · simp only at lower
          omega
      · refine ⟨_, ⟨.inr rfl, by simp only [high]; omega⟩, ?_⟩
        rintro mapping ⟨rfl | rfl, lower, upper⟩
        · simp only [zero] at upper
          omega
        · rfl
    · rintro mapping (rfl | rfl)
      · simp only [zero]
        omega
      · simp only [high]
        omega
  · rw [allocateMemory_of_le _ _ (by bv_omega)]
    rw [BitVec.lt_def] at above
    simp only [List.mem_singleton, GpaMapping.MapsGpa, GpaMapping.MapsHost]
    refine ⟨?_, ?_, ?_, ?_⟩
    · rintro mapping rfl gpa ⟨-, upper⟩
      simp only [zero] at upper
      exact .inl (by omega)
    · rintro gpa first rfl second rfl - -
      rfl
    · intro offset inside
      exact ⟨_, ⟨rfl, by simp only [zero]; omega⟩, fun mapping found => found.1⟩
    · rintro mapping rfl
      simp only [zero, Nat.zero_add, le_refl]

end Layout

-- Four GiB of RAM around a gap from 3 GiB up to 4 GiB: one GiB is mapped above it.
theorem guest_ram_avoids_mmio_gap_at_four_gib :
    let gapStart : BitVec 64 := 0xC0000000
    let gapEnd : BitVec 64 := 0x100000000
    let alloc : BitVec 64 := 0x100000000
    gapStart ≤ gapEnd ∧
    (∀ mapping ∈ (allocateMemory gapStart gapEnd alloc).2, ∀ gpa, mapping.MapsGpa gpa →
      gpa < gapStart.toNat ∨ gapEnd.toNat ≤ gpa) ∧
    (∀ gpa, ∀ first ∈ (allocateMemory gapStart gapEnd alloc).2,
      ∀ second ∈ (allocateMemory gapStart gapEnd alloc).2,
        first.MapsGpa gpa → second.MapsGpa gpa → first = second) ∧
    (∀ offset < alloc.toNat, ∃! mapping, mapping ∈ (allocateMemory gapStart gapEnd alloc).2 ∧
      mapping.MapsHost offset) ∧
    ∀ mapping ∈ (allocateMemory gapStart gapEnd alloc).2,
      mapping.hostOffset.toNat + mapping.size.toNat ≤ alloc.toNat :=
  ⟨by decide, guest_ram_avoids_mmio_gap 0xC0000000 0x100000000 (by decide) 0x100000000⟩

end Tenbox.Vmm
