import ClimateBus.Proofs.Bits
import ClimateBus.Proofs.RegisterMap
import Mathlib

/-!
The flags of the system block, and what attaching a unit does to them.

The maps of connected and failing slots lie back to back in one image. Whoever reads a flag asks for
a slot below the number of slots; whoever writes one adds the slot to the start of a map. So a unit
attached at a slot behind the last one is written into the map of failing slots: the slot 64 places
before it counts as failing from then on (`Simulation.attach_sets_iff`). A slot behind the last one
of that map is behind the end of the image, and marking it leaves all flags alone.
-/
namespace ClimateBus

/-- What the system block says, bit by bit. -/
inductive SystemFlag where
  | initialized
  | otherMaster
  | connected (slot : Fin slotCount)
  | inError (slot : Fin slotCount)
  deriving DecidableEq

namespace SystemFlag

/-- The bit that holds a flag. -/
def bit : SystemFlag → Nat
  | .initialized => 0
  | .otherMaster => 1
  | .connected i => SystemImage.connectedStart + i
  | .inError i => SystemImage.errorStart + i

theorem bit_lt (f : SystemFlag) : f.bit < 16 * BlockKind.system.size := by
  change f.bit < 144
  cases f with
  | initialized => decide
  | otherMaster => decide
  | connected i =>
    have hi : i.val < 64 := i.isLt
    simp only [bit, SystemImage.connectedStart]
    omega
  | inError i =>
    have hi : i.val < 64 := i.isLt
    simp only [bit, SystemImage.errorStart]
    omega

/-- The map of connected slots goes on as that of failing slots. -/
theorem bit_eq_connectedStart_add {f : SystemFlag} {n : Nat} :
    f.bit = SystemImage.connectedStart + n ↔
      (∃ i : Fin slotCount, f = .connected i ∧ n = i) ∨
        ∃ i : Fin slotCount, f = .inError i ∧ n = slotCount + i := by
  constructor
  · intro h
    cases f with
    | initialized => exact absurd h (by simp only [bit, SystemImage.connectedStart]; omega)
    | otherMaster => exact absurd h (by simp only [bit, SystemImage.connectedStart]; omega)
    | connected i => exact .inl ⟨i, rfl, (Nat.add_left_cancel h).symm⟩
    | inError i =>
      simp only [bit, SystemImage.errorStart, SystemImage.connectedStart] at h
      refine .inr ⟨i, rfl, ?_⟩
      change n = 64 + i
      omega
  · rintro (⟨i, rfl, rfl⟩ | ⟨i, rfl, rfl⟩)
    · rfl
    · simp only [bit, SystemImage.errorStart, SystemImage.connectedStart, slotCount]
      omega

/-- Behind the map of failing slots there is nothing. -/
theorem bit_eq_errorStart_add {f : SystemFlag} {n : Nat} :
    f.bit = SystemImage.errorStart + n ↔ ∃ i : Fin slotCount, f = .inError i ∧ n = i := by
  constructor
  · intro h
    cases f with
    | initialized => exact absurd h (by simp only [bit, SystemImage.errorStart]; omega)
    | otherMaster => exact absurd h (by simp only [bit, SystemImage.errorStart]; omega)
    | connected i =>
      have hi : i.val < 64 := i.isLt
      simp only [bit, SystemImage.errorStart, SystemImage.connectedStart] at h
      omega
    | inError i => exact ⟨i, rfl, (Nat.add_left_cancel h).symm⟩
  · rintro ⟨i, rfl, rfl⟩
    rfl

end SystemFlag

/-- A flag as those who read the system block see it. -/
def SystemImage.flag (m : SystemImage) : SystemFlag → Bool
  | .initialized => m.initialized
  | .otherMaster => m.otherMaster
  | .connected i => m.connected i
  | .inError i => m.inError i

theorem SystemImage.flag_eq_bit (m : SystemImage) (f : SystemFlag) :
    m.flag f = m.image.bit f.bit := by
  cases f with
  | initialized => rfl
  | otherMaster => rfl
  | connected i => simp [flag, connected, SystemFlag.bit]
  | inError i => simp [flag, inError, SystemFlag.bit]

namespace Simulation

def flag (s : Simulation) (f : SystemFlag) : Bool := SystemImage.flag ⟨s.block .system 0⟩ f

theorem flag_congr {s s' : Simulation} (h : s'.block .system 0 = s.block .system 0)
    (f : SystemFlag) : s'.flag f = s.flag f := by rw [flag, h, flag]

theorem flag_setSystemBit (s : Simulation) (bit : Nat) (on : Bool) (f : SystemFlag) :
    (s.setSystemBit bit on).flag f = if f.bit = bit then on else s.flag f := by
  have hbit := f.bit_lt
  rw [flag, setSystemBit, block_setBlock_self, SystemImage.flag_eq_bit, flag,
    SystemImage.flag_eq_bit, Image.bit_setBit]
  congr 1
  rw [eq_iff_iff, and_iff_left_iff_imp]
  exact fun h => h ▸ hbit

theorem block_setSystemBit (s : Simulation) (bit : Nat) (on : Bool) {k : BlockKind}
    (hk : k ≠ .system) (j : UInt8) : (s.setSystemBit bit on).block k j = s.block k j :=
  block_setBlock_of_ne _ (fun h => hk h.1.symm) (fun _ => rfl) (fun h => absurd h hk)

variable (s : Simulation) (slot : UInt8) (capability : CapabilityImage) (status : StatusImage)

theorem flag_addUnit (f : SystemFlag) : (s.addUnit slot capability status).flag f =
    if f.bit = SystemImage.connectedStart + slot.toNat then true else s.flag f := by
  rw [← flag_setSystemBit]
  apply flag_congr
  rw [addUnit, block_setBlock_of_ne (l := .system) _ (by simp) (by simp) (by simp),
    block_setBlock_of_ne (l := .system) _ (by simp) (by simp) (by simp)]

theorem block_addUnit_of_ne {k : BlockKind} (hk : k ≠ .system) {j : UInt8} (hj : j ≠ slot) :
    (s.addUnit slot capability status).block k j = s.block k j := by
  have hother (l : BlockKind) : ¬ (l = k ∧ slot = j) := fun h => hj h.2.symm
  rw [addUnit, block_setBlock_of_ne _ (hother _) (by simp) (fun h => absurd h hk),
    block_setBlock_of_ne _ (hother _) (by simp) (fun h => absurd h hk), block_setSystemBit _ _ _ hk]

/-- Of all flags only one of a slot may have changed, to what it was set; none, if there is no such
slot. -/
structure SetsOnly (flagOf : Fin slotCount → SystemFlag) (slot : UInt8) (on : Bool)
    (s s' : Simulation) : Prop where
  set : ∀ i : Fin slotCount, slot.toNat = i → s'.flag (flagOf i) = on
  kept : ∀ f, (∀ i : Fin slotCount, slot.toNat = i → f ≠ flagOf i) → s'.flag f = s.flag f

theorem setsOnly_setUnitError (on : Bool) :
    SetsOnly .inError slot on s (s.setUnitError slot on) where
  set i hi := by
    rw [setUnitError, flag_setSystemBit, if_pos (SystemFlag.bit_eq_errorStart_add.mpr ⟨i, rfl, hi⟩)]
  kept f hf := by
    rw [setUnitError, flag_setSystemBit, if_neg]
    rw [SystemFlag.bit_eq_errorStart_add]
    rintro ⟨i, rfl, hi⟩
    exact hf i hi rfl

/-- Attaching raises the flag of its slot alone, unless the slot is behind the last one and the map
of failing slots has a flag there that is not raised yet. -/
theorem setsOnly_addUnit_iff : SetsOnly .connected slot true s (s.addUnit slot capability status) ↔
    ∀ i : Fin slotCount, slot.toNat = slotCount + i → s.flag (.inError i) = true := by
  constructor
  · intro h i hi
    have hkept := h.kept (.inError i) (by simp)
    rwa [flag_addUnit, if_pos (SystemFlag.bit_eq_connectedStart_add.mpr (.inr ⟨i, rfl, hi⟩)),
      eq_comm] at hkept
  · intro hraised
    constructor
    · intro i hi
      rw [flag_addUnit, if_pos (SystemFlag.bit_eq_connectedStart_add.mpr (.inl ⟨i, rfl, hi⟩))]
    · intro f hf
      rw [flag_addUnit]
      split_ifs with hbit
      · obtain ⟨i, rfl, hi⟩ | ⟨i, rfl, hi⟩ := SystemFlag.bit_eq_connectedStart_add.mp hbit
        · exact absurd rfl (hf i hi)
        · exact (hraised i hi).symm
      · rfl

/-- A unit attached behind the last slot raises the error flag of another one, and no other flag. -/
theorem flag_addUnit_behind {i : Fin slotCount} (hi : slot.toNat = slotCount + i) (f : SystemFlag) :
    (s.addUnit slot capability status).flag f = if f = .inError i then true else s.flag f := by
  rw [flag_addUnit]
  congr 1
  rw [eq_iff_iff, SystemFlag.bit_eq_connectedStart_add]
  constructor
  · rintro (⟨j, rfl, hj⟩ | ⟨j, rfl, hj⟩)
    · have hlt := j.isLt
      omega
    · rw [SystemFlag.inError.injEq, Fin.ext_iff]
      omega
  · rintro rfl
    exact .inr ⟨i, rfl, hi⟩

/-- Attaching a unit sets the connected flag of its slot, if it has one, and no other flag, just if
what the map of connected slots would have at its slot is not an error flag that is down. There it
raises that flag, of a slot that has nothing to do with the unit. Marking a unit sets its error flag
and no other one, whatever the slot. Both leave the blocks of every other slot alone. -/
theorem attach_sets_iff (on : Bool) :
    (SetsOnly .connected slot true s (s.addUnit slot capability status) ↔
      ∀ i : Fin slotCount, slot.toNat = slotCount + i → s.flag (.inError i) = true) ∧
    (∀ i : Fin slotCount, slot.toNat = slotCount + i → ∀ f,
      (s.addUnit slot capability status).flag f = if f = .inError i then true else s.flag f) ∧
    SetsOnly .inError slot on s (s.setUnitError slot on) ∧
    (∀ k ≠ .system, ∀ j ≠ slot, (s.addUnit slot capability status).block k j = s.block k j) ∧
    (∀ k ≠ .system, ∀ j, (s.setUnitError slot on).block k j = s.block k j) :=
  ⟨s.setsOnly_addUnit_iff slot capability status,
    fun _ hi => s.flag_addUnit_behind slot capability status hi,
    s.setsOnly_setUnitError slot on,
    fun _ hk _ hj => s.block_addUnit_of_ne slot capability status hk hj,
    fun _ hk => s.block_setSystemBit _ on hk⟩

/-- A unit attached at slot 64 of the installation for demonstrations puts slot 0 in error. One at
slot 5 sets its own flag, and so does one at slot 128, which has none. -/
theorem attach_sets_iff_demo :
    let attached (slot : UInt8) := demo.addUnit slot Demo.capability default
    let first : Fin slotCount := ⟨0, by decide⟩
    ¬ SetsOnly .connected 64 true demo (attached 64) ∧
      demo.flag (.inError first) = false ∧ (attached 64).flag (.inError first) = true ∧
      SetsOnly .connected 5 true demo (attached 5) ∧
      SetsOnly .connected 128 true demo (attached 128) := by
  intro attached first
  have hdown : demo.flag (.inError first) = false := by decide +kernel
  obtain ⟨hsets, hbehind, -⟩ := demo.attach_sets_iff 64 Demo.capability default true
  obtain ⟨hsets', -⟩ := demo.attach_sets_iff 5 Demo.capability default true
  obtain ⟨hsets'', -⟩ := demo.attach_sets_iff 128 Demo.capability default true
  refine ⟨fun h => ?_, hdown, hbehind first rfl _, hsets'.mpr fun i hi => ?_,
    hsets''.mpr fun i hi => ?_⟩
  · rw [hsets.mp h first rfl] at hdown
    cases hdown
  · have hi' : 5 = 64 + i.val := hi
    omega
  · have hi' : 128 = 64 + i.val := hi
    have hlt : i.val < 64 := i.isLt
    omega

end Simulation

end ClimateBus
