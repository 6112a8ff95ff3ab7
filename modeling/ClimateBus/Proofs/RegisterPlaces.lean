import ClimateBus.Proofs.RegisterMap
import Mathlib

/-!
The places of the register map, and what is stored in them.

A place is a kind of block and a slot. The registers of a place are a run of numbers that ends
before the table does (`Place.first_add_lt`), so the addresses of a block are the same whether or
not sums wrap around, and two places of one table have no number in common (`Place.disjoint`). Hence
a block that was stored is found again, by its place or by a read of its registers, and all others
are as they were.
-/
namespace ClimateBus

/-- Where a block lies. The system block is there once, as if it were that of slot 0. -/
@[ext]
structure Place where
  kind : BlockKind
  slot : UInt8
  once : kind = .system → slot = 0
  deriving DecidableEq

namespace Place

def table (p : Place) : Table := p.kind.table

def address (p : Place) : UInt16 := p.kind.address p.slot

/-- The number of the first register, added up without wrapping around. -/
def first (p : Place) : Nat := p.kind.base.toNat + p.slot.toNat * p.kind.size

theorem toNat_address (p : Place) : p.address.toNat = p.first := p.kind.toNat_address p.slot

/-- No block reaches the end of its table. -/
theorem first_add_lt (p : Place) {k : Nat} (hk : k < p.kind.size) : p.first + k < UInt16.size := by
  have hslot := p.slot.toNat_lt
  rw [first]
  generalize p.kind = kind at hk
  cases kind <;>
    simp only [BlockKind.base, BlockKind.size, UInt16.reduceToNat, UInt16.size] at * <;> omega

/-- An address in the block, counted on from its first one, does not wrap around. -/
theorem toNat_address_add (p : Place) {k : Nat} (hk : k < p.kind.size) :
    (p.address + UInt16.ofNat k).toNat = p.first + k := by
  have hlt := p.first_add_lt hk
  have hk' : k < UInt16.size := (Nat.le_add_left _ _).trans_lt hlt
  rw [UInt16.toNat_add, p.toNat_address, UInt16.toNat_ofNat_of_lt' hk', Nat.mod_eq_of_lt hlt]

theorem covers_ofNat (p : Place) {n : Nat} (hfirst : p.first ≤ n)
    (hlast : n < p.first + p.kind.size) : p.kind.Covers p.slot (UInt16.ofNat n) := by
  have hlt := p.first_add_lt (show n - p.first < p.kind.size by omega)
  have hn : (UInt16.ofNat n).toNat = n := UInt16.toNat_ofNat_of_lt' (by omega)
  rw [BlockKind.covers_iff, hn]
  exact ⟨hfirst, hlast⟩

/-- Two places of one table lie one behind the other. -/
theorem disjoint {p q : Place} (hne : p ≠ q) (htable : p.table = q.table) :
    p.first + p.kind.size ≤ q.first ∨ q.first + q.kind.size ≤ p.first := by
  by_contra hmeet
  rw [not_or, not_le, not_le] at hmeet
  have hsize (k : BlockKind) : 0 < k.size := by cases k <;> decide
  have hpsize := hsize p.kind
  have hqsize := hsize q.kind
  have hp := p.covers_ofNat (n := max p.first q.first) (le_max_left _ _) (by omega)
  have hq := q.covers_ofNat (n := max p.first q.first) (le_max_right _ _) (by omega)
  obtain ⟨hkind, hslot⟩ := hp.apart hq htable p.once q.once
  exact hne (Place.ext hkind hslot)

end Place

namespace Simulation

/-- The register of a table with a number; a table ends with the last address. -/
def register? (s : Simulation) (t : Table) (n : Nat) : Option UInt16 :=
  if n < UInt16.size then some (s.registers t (UInt16.ofNat n)) else none

/-- The words of a block lie one after the other from the first register on. -/
theorem register?_place (s : Simulation) (p : Place) {k : Nat} (hk : k < p.kind.size) :
    s.register? p.table (p.first + k) = (s.block p.kind p.slot).words[k]? := by
  have haddress : UInt16.ofNat (p.first + k) = p.address + UInt16.ofNat k := by
    rw [← p.toNat_address_add hk, UInt16.ofNat_toNat]
  rw [register?, if_pos (p.first_add_lt hk), haddress, s.getElem?_words_block _ _ hk]
  rfl

theorem block_setBlock_of_place_ne (s : Simulation) {p q : Place} (m : Image p.kind.size)
    (hne : p ≠ q) : (s.setBlock p.kind p.slot m).block q.kind q.slot = s.block q.kind q.slot := by
  refine block_setBlock_of_ne m (fun h => ?_) p.once q.once
  exact hne (Place.ext h.1 h.2)

/-- A read at an address without a fault returns the block that lies there. -/
theorem readRegisters_place (s : Simulation) (p : Place) (buffer : Image p.kind.size)
    (hfault : s.readFault p.table p.address = none) :
    s.readRegisters p.table p.address buffer =
      ⟨.ok (), s.block p.kind p.slot, s.record (.read p.table p.address p.kind.size), 0⟩ := by
  have hsize : p.kind.size ≠ 0 := by cases p.kind <;> decide
  simp only [readRegisters, if_neg hsize, record, hfault]
  rfl

/-- After a block was stored it is what lies in its place, and every other place holds what it held.
What a place holds is found at the numbers from its first register on, with no sum that wraps
around, and a read of these registers returns it if no fault is set for it. -/
theorem setBlock_keeps_apart (s : Simulation) (p q : Place) (m : Image p.kind.size) :
    let s' := s.setBlock p.kind p.slot m
    s'.block p.kind p.slot = m ∧
    (p ≠ q → s'.block q.kind q.slot = s.block q.kind q.slot) ∧
    (∀ k < q.kind.size,
      s'.register? q.table (q.first + k) = (s'.block q.kind q.slot).words[k]?) ∧
    (s.readFault q.table q.address = none → ∀ buffer : Image q.kind.size,
      s'.readRegisters q.table q.address buffer =
        ⟨.ok (), s'.block q.kind q.slot, s'.record (.read q.table q.address q.kind.size), 0⟩) := by
  intro s'
  refine ⟨block_setBlock_self m, s.block_setBlock_of_place_ne m, ?_, ?_⟩
  · intro k hk
    exact s'.register?_place q hk
  · intro hfault buffer
    exact s'.readRegisters_place q buffer hfault

/-- The holding block and the status block of a slot begin at the same number, in different tables:
a fault is set for reads of the one, and the other is read as before. -/
theorem setBlock_keeps_apart_demo :
    let asked : Place := ⟨.holding, 0, by decide⟩
    let told : Place := ⟨.status, 0, by decide⟩
    let s := demo.failReads .holding 2000 .timeout
    let s' := s.setBlock .holding 0 ⟨[0x7261, 0x00f2, 0x00eb], rfl⟩
    asked.first = told.first ∧ s'.block .holding 0 = ⟨[0x7261, 0x00f2, 0x00eb], rfl⟩ ∧
      s'.block .status 0 = s.block .status 0 ∧
      (s'.readRegisters .input 2000 (default : Image BlockKind.status.size)).buffer =
        s.block .status 0 := by
  intro asked told s s'
  obtain ⟨hstored, hkept, -, hread⟩ :=
    s.setBlock_keeps_apart asked told ⟨[0x7261, 0x00f2, 0x00eb], rfl⟩
  have hstatus := hkept (by decide)
  exact ⟨rfl, hstored, hstatus, (congrArg BusRead.buffer (hread rfl default)).trans hstatus⟩

end Simulation

end ClimateBus
