import ClimateBus.Proofs.Controls
import ClimateBus.Simulation
import Mathlib

/-!
The register map of the simulated adapter.

Blocks lie side by side, so storing one leaves every other as it was. A unit is seen through two of
its blocks, the holding block it was sent and the status block it reports: a holding write that
succeeds replaces the one and updates the other, a write that fails and any read change neither.
-/
namespace ClimateBus

namespace BlockKind

/-- The register belongs to the block of a slot. -/
def Covers (k : BlockKind) (slot : UInt8) (a : UInt16) : Prop := (a - k.address slot).toNat < k.size

theorem toNat_address (k : BlockKind) (slot : UInt8) :
    (k.address slot).toNat = k.base.toNat + slot.toNat * k.size := by
  have hslot := slot.toNat_lt
  cases k <;>
    simp only [address, base, size, UInt16.toNat_add, UInt16.toNat_mul, UInt8.toNat_toUInt16,
      UInt16.toNat_ofNat, UInt16.reduceOfNat] <;>
    omega

theorem covers_iff (k : BlockKind) (slot : UInt8) (a : UInt16) :
    k.Covers slot a ↔ k.base.toNat + slot.toNat * k.size ≤ a.toNat ∧
      a.toNat < k.base.toNat + slot.toNat * k.size + k.size := by
  have haddress := k.toNat_address slot
  have hslot := slot.toNat_lt
  have ha := a.toNat_lt
  rw [Covers, UInt16.toNat_sub, haddress]
  cases k <;> simp only [base, size, UInt16.reduceToNat] <;> omega

/-- Different blocks of one table have no register in common; the system block is there once. -/
theorem Covers.apart {k l : BlockKind} {i j : UInt8} {a : UInt16} (hk : k.Covers i a)
    (hl : l.Covers j a) (htable : k.table = l.table) (hi : k = .system → i = 0)
    (hj : l = .system → j = 0) : k = l ∧ i = j := by
  rw [covers_iff] at hk hl
  have hi' := i.toNat_lt
  have hj' := j.toNat_lt
  have hi0 : k = .system → i.toNat = 0 := fun h => by rw [hi h]; rfl
  have hj0 : l = .system → j.toNat = 0 := fun h => by rw [hj h]; rfl
  have hkl : k = l := by
    cases k <;> cases l <;> simp only [table, reduceCtorEq] at htable ⊢ <;>
      simp only [base, size, UInt16.reduceToNat, forall_const] at hk hl hi0 hj0 <;> omega
  subst hkl
  refine ⟨rfl, UInt8.toNat_inj.mp ?_⟩
  cases k <;> simp only [base, size, UInt16.reduceToNat] at hk hl <;> omega

end BlockKind

namespace Simulation

variable {s s' : Simulation} {k : BlockKind} {slot : UInt8}

theorem getElem?_words_block (s : Simulation) (k : BlockKind) (slot : UInt8) {i : Nat}
    (hi : i < k.size) :
    (s.block k slot).words[i]? = some (s.registers k.table (k.address slot + UInt16.ofNat i)) := by
  simp [block, load, Image.ofFn, hi]

theorem covers_offset (k : BlockKind) (slot : UInt8) {i : Nat} (hi : i < k.size) :
    k.Covers slot (k.address slot + UInt16.ofNat i) := by
  have hsize : k.size ≤ 9 := by cases k <;> decide
  have hoffset : k.address slot + UInt16.ofNat i - k.address slot = UInt16.ofNat i := by grind
  rw [BlockKind.Covers, hoffset, UInt16.toNat_ofNat_of_lt' (by simp only [UInt16.size]; omega)]
  exact hi

/-- A block depends on its own registers alone. -/
theorem block_congr (h : ∀ a, k.Covers slot a → s'.registers k.table a = s.registers k.table a) :
    s'.block k slot = s.block k slot := by
  ext1
  apply List.ext_getElem?
  intro i
  by_cases hi : i < k.size
  · rw [getElem?_words_block _ _ _ hi, getElem?_words_block _ _ _ hi, h _ (covers_offset k slot hi)]
  · have hnone (s : Simulation) : (s.block k slot).words[i]? = none := by
      rw [List.getElem?_eq_none_iff, (s.block k slot).length_eq]
      omega
    rw [hnone, hnone]

/-- A block tells all of its registers. -/
theorem registers_of_block (h : s'.block k slot = s.block k slot) {a : UInt16}
    (ha : k.Covers slot a) : s'.registers k.table a = s.registers k.table a := by
  have hword := congrArg (fun m => m.words[(a - k.address slot).toNat]?) h
  simp only [getElem?_words_block _ _ _ ha, UInt16.ofNat_toNat] at hword
  have haddress : k.address slot + (a - k.address slot) = a := by grind
  rwa [haddress, Option.some.injEq] at hword

theorem registers_setBlock_of_not_covers (m : Image k.size) {t : Table} {a : UInt16}
    (h : ¬ (t = k.table ∧ k.Covers slot a)) :
    (s.setBlock k slot m).registers t a = s.registers t a := by
  simp only [setBlock, store]
  split_ifs with ht
  · have hnone : m.words[(a - k.address slot).toNat]? = none := by
      rw [List.getElem?_eq_none_iff, m.length_eq]
      exact not_lt.mp fun hlt => h ⟨ht, hlt⟩
    simp only [overlay, hnone]
  · rfl

theorem block_setBlock_self (m : Image k.size) : (s.setBlock k slot m).block k slot = m := by
  have hsize : k.size ≤ 9 := by cases k <;> decide
  ext1
  apply List.ext_getElem?
  intro i
  by_cases hi : i < k.size
  · obtain ⟨w, hword⟩ : ∃ w, m.words[i]? = some w :=
      ⟨_, List.getElem?_eq_getElem (m.length_eq.symm ▸ hi)⟩
    have hoffset : k.address slot + UInt16.ofNat i - k.address slot = UInt16.ofNat i := by grind
    have hnat : (UInt16.ofNat i).toNat = i :=
      UInt16.toNat_ofNat_of_lt' (by simp only [UInt16.size]; omega)
    rw [getElem?_words_block _ _ _ hi]
    simp only [setBlock, store, if_true, overlay, hoffset, hnat, hword]
  · rw [List.getElem?_eq_none (by rw [(block _ k slot).length_eq]; omega),
      List.getElem?_eq_none (by rw [m.length_eq]; omega)]

/-- Storing one block leaves every other block alone. -/
theorem block_setBlock_of_ne (m : Image k.size) {l : BlockKind} {j : UInt8}
    (hne : ¬ (k = l ∧ slot = j)) (hk : k = .system → slot = 0) (hl : l = .system → j = 0) :
    (s.setBlock k slot m).block l j = s.block l j := by
  apply block_congr
  intro a ha
  apply registers_setBlock_of_not_covers
  rintro ⟨htable, hcovers⟩
  exact hne (hcovers.apart ha htable.symm hk hl)

end Simulation

/-- A unit as its registers show it. -/
structure Device where
  holding : Image BlockKind.holding.size
  status : Image BlockKind.status.size

/-- The unit once it has accepted a holding block. -/
def Device.take (d : Device) (m : Image BlockKind.holding.size) : Device :=
  ⟨m, Simulation.accepted m d.status⟩

namespace Simulation

variable {s s' t : Simulation}

def device (s : Simulation) (slot : UInt8) : Device := ⟨s.block .holding slot, s.block .status slot⟩

/-- Only the unit in one slot may have changed: its holding block and its status block. -/
def Confined (slot : UInt8) (s s' : Simulation) : Prop :=
  ∀ (t : Table) (a : UInt16), ¬ (t = .holding ∧ BlockKind.holding.Covers slot a) →
    ¬ (t = .input ∧ BlockKind.status.Covers slot a) → s'.registers t a = s.registers t a

theorem Confined.of_registers {slot : UInt8} (h : s'.registers = s.registers) :
    Confined slot s s' := fun _ _ _ _ => by rw [h]

theorem Confined.trans {slot : UInt8} (h : Confined slot s s') (h' : Confined slot s' t) :
    Confined slot s t := fun _ _ hh hs => (h' _ _ hh hs).trans (h _ _ hh hs)

theorem Confined.device {i j : UInt8} (h : Confined i s s') (hne : i ≠ j) :
    s'.device j = s.device j := by
  have hholding : s'.block .holding j = s.block .holding j := by
    apply block_congr
    intro a ha
    apply h
    · rintro ⟨-, hi⟩
      exact hne (hi.apart ha rfl (by simp) (by simp)).2
    · rintro ⟨htable, -⟩
      exact absurd htable (by decide)
  have hstatus : s'.block .status j = s.block .status j := by
    apply block_congr
    intro a ha
    apply h
    · rintro ⟨htable, -⟩
      exact absurd htable (by decide)
    · rintro ⟨-, hi⟩
      exact hne (hi.apart ha rfl (by simp) (by simp)).2
  simp only [Simulation.device, hholding, hstatus]

/-- The register is one of a unit: of its holding block or of its status block. -/
def Owns (i : UInt8) (t : Table) (a : UInt16) : Prop :=
  t = .holding ∧ BlockKind.holding.Covers i a ∨ t = .input ∧ BlockKind.status.Covers i a

theorem Confined.registers_eq {i : UInt8} (h : Confined i s s') {t : Table} {a : UInt16}
    (howns : ¬ Owns i t a) : s'.registers t a = s.registers t a := by
  rw [Owns, not_or] at howns
  exact h t a howns.1 howns.2

theorem Owns.registers_eq {i : UInt8} {t : Table} {a : UInt16} (howns : Owns i t a)
    (h : s'.device i = s.device i) : s'.registers t a = s.registers t a := by
  rcases howns with ⟨rfl, hcovers⟩ | ⟨rfl, hcovers⟩
  · exact registers_of_block (k := .holding) (congrArg Device.holding h) hcovers
  · exact registers_of_block (k := .status) (congrArg Device.status h) hcovers

theorem block_of_registers (h : s'.registers = s.registers) (k : BlockKind) (slot : UInt8) :
    s'.block k slot = s.block k slot := block_congr fun _ _ => by rw [h]

theorem device_of_registers (h : s'.registers = s.registers) (slot : UInt8) :
    s'.device slot = s.device slot := by
  simp only [device, block_of_registers h]

section Operations

@[simp] theorem registers_failReads (s : Simulation) (t : Table) (a : UInt16) (f : Fault) :
    (s.failReads t a f).registers = s.registers := rfl

@[simp] theorem registers_failWrites (s : Simulation) (a : UInt16) (f : Fault) :
    (s.failWrites a f).registers = s.registers := rfl

@[simp] theorem registers_clearFaults (s : Simulation) : s.clearFaults.registers = s.registers :=
  rfl

theorem registers_readRegisters {n : Nat} (s : Simulation) (t : Table) (a : UInt16)
    (buffer : Image n) : (s.readRegisters t a buffer).bus.registers = s.registers := by
  unfold readRegisters
  dsimp only
  split_ifs
  · rfl
  · split <;> rfl

/-- A read that fails leaves the buffer alone, one that succeeds fills it. -/
theorem readRegisters_block (s : Simulation) (k : BlockKind) (slot : UInt8)
    (buffer : Image k.size) :
    let r := s.readRegisters k.table (k.address slot) buffer
    (r.result = .ok () ∧ r.buffer = s.block k slot) ∨
      (∃ e, r.result = .error e) ∧ r.buffer = buffer := by
  have hsize : k.size ≠ 0 := by cases k <;> decide
  unfold readRegisters
  dsimp only
  rw [if_neg hsize]
  split
  · exact .inr ⟨⟨_, rfl⟩, rfl⟩
  · exact .inl ⟨rfl, rfl⟩

theorem writtenSlot?_address {slot : UInt8} (h : slot.toNat < slotCount) :
    writtenSlot? (BlockKind.holding.address slot) BlockKind.holding.size = some slot := by
  have haddress := BlockKind.holding.toNat_address slot
  simp only [BlockKind.base, BlockKind.size, UInt16.reduceToNat] at haddress
  have hslot : (2000 + slot.toNat * 3 - 2000) / 3 = slot.toNat := by omega
  have hmod : (2000 + slot.toNat * 3 - 2000) % 3 = 0 := by omega
  simp only [writtenSlot?, haddress, BlockKind.base, BlockKind.size, UInt16.reduceToNat, hslot,
    hmod, h, Nat.le_add_right, and_true, if_true, UInt8.ofNat_toNat]

/-- A write of a unit's holding block is refused without a trace, or taken up by the unit. -/
theorem writeRegisters_holding (s : Simulation) {slot : UInt8} (h : slot.toNat < slotCount)
    (m : Image BlockKind.holding.size) :
    let w := s.writeRegisters (BlockKind.holding.address slot) m.words
    (w.result = .ok () ∧ w.bus.device slot = (s.device slot).take m ∧ Confined slot s w.bus) ∨
      (∃ e, w.result = .error e) ∧ w.bus.registers = s.registers := by
  have hlength : m.words.length = BlockKind.holding.size := m.length_eq
  unfold writeRegisters
  dsimp only
  rw [if_neg (by rw [hlength]; decide)]
  split
  · exact .inr ⟨⟨_, rfl⟩, rfl⟩
  · rw [hlength, writtenSlot?_address h]
    refine .inl ⟨rfl, ?_, ?_⟩
    · change (((s.record _).setBlock .holding slot m).accept slot).device slot = _
      simp only [device, accept, Device.take, block_setBlock_self,
        block_setBlock_of_ne (k := .status) (l := .holding) (s := (s.record _).setBlock .holding slot m)
          _ (by simp) (by simp) (by simp),
        block_setBlock_of_ne (k := .holding) (l := .status) _ (by simp) (by simp) (by simp)]
      rfl
    · intro t a hholding hstatus
      change (((s.record _).setBlock .holding slot m).accept slot).registers t a = _
      rw [accept, registers_setBlock_of_not_covers (k := .status) _ hstatus,
        registers_setBlock_of_not_covers (k := .holding) _ hholding]
      rfl

end Operations

end Simulation

end ClimateBus
