import ClimateBus.Proofs.SlotTable
import Mathlib

/-!
What a call for one unit leaves alone, wherever it may fail.

Such a call works on one record and on the link. So the other records, the system block and the
count stay as they are over any bus, and of its own record a call keeps all but the images it is
there for (`Slot.TouchedBy`). On the simulated adapter it writes one holding block at most, which
the unit takes up in its status block; no other register belongs to either of them.
-/
namespace ClimateBus

/-- The unit a call is for; a discovery and a poll pass are for no unit in particular. -/
def Call.unit? : Call → Option UInt8
  | .discover | .poll => none
  | .readError i | .prepare i | .commit i | .apply i _ => some i

namespace Slot

/-- The record after a call for its unit: only these images, and the stamp of the error block, may
have changed. -/
inductive TouchedBy (u : Slot) : Call → Slot → Prop
  | readError (i : UInt8) (error : ErrorImage) (lastErrorRead : Option UInt64) :
      TouchedBy u (.readError i) { u with error, lastErrorRead }
  | prepare (i : UInt8) (holding : HoldingCache) : TouchedBy u (.prepare i) { u with holding }
  | commit (i : UInt8) (holding : HoldingCache) : TouchedBy u (.commit i) { u with holding }
  | apply (i : UInt8) (c : Command) (status : StatusImage) (holding : HoldingCache) :
      TouchedBy u (.apply i c) { u with status, holding }

/-- A call that did not get as far as the record has not touched it. -/
theorem TouchedBy.refl (u : Slot) {k : Call} {i : UInt8} (hk : k.unit? = some i) :
    u.TouchedBy k u := by
  cases k with
  | discover | poll => cases hk
  | readError j => exact .readError j u.error u.lastErrorRead
  | prepare j => exact .prepare j u.holding
  | commit j => exact .commit j u.holding
  | apply j c => exact .apply j c u.status u.holding

section Steps

variable {β : Type} [Bus β] (l : BusLink β) (u : Slot) (i : UInt8)

theorem readError_touched (secs : UInt32) :
    u.TouchedBy (.readError i) (readError secs l u).slot := by
  unfold readError
  split_ifs
  · exact .refl u rfl
  · dsimp only
    split <;> exact .readError i _ _

theorem prepare_touched (window : UInt32) :
    u.TouchedBy (.prepare i) (prepare window l u).slot := by
  obtain ⟨holding, hslot⟩ := prepare_record window l u
  rw [hslot]
  exact .prepare i holding

theorem commit_touched : u.TouchedBy (.commit i) (commit l u).slot := by
  obtain ⟨holding, hslot⟩ := commit_record l u
  rw [hslot]
  exact .commit i holding

/-- The edit of a command is one of the status image or of the holding image. -/
theorem edit_touched (c : Command) : u.TouchedBy (.apply i c) (u.edit c) := by
  cases c <;> exact .apply i _ _ _

theorem apply_touched (window : UInt32) (c : Command) :
    u.TouchedBy (.apply i c) (apply window c l u).slot := by
  have hedited : u.TouchedBy (.apply i c)
      (if (prepare window l u).result.isOk then u.edit c else u) := by
    split_ifs
    · exact u.edit_touched i c
    · exact .refl u rfl
  obtain ⟨holding, hslot⟩ := apply_record window l u c
  rw [hslot]
  generalize (if (prepare window l u).result.isOk then u.edit c else u) = v at hedited ⊢
  cases hedited with
  | apply _ _ status _ => exact .apply i c status holding

end Steps

end Slot

namespace Gateway

variable {β : Type} {g : Gateway β} {i : UInt8}

theorem touched_onPresent {step : BusLink β → Slot → SlotStep β} {k : Call}
    (hk : k.unit? = some i) (hstep : ∀ l (u : Slot), u.TouchedBy k (step l u).slot) {u : Slot}
    (hu : g.slots[i.toNat]? = some u) :
    ∃ u', (g.onPresent i step).2.slots[i.toNat]? = some u' ∧ u.TouchedBy k u' := by
  cases hpresent : g.present? i with
  | error e =>
    rw [onPresent_absent hpresent]
    exact ⟨u, hu, .refl u hk⟩
  | ok v =>
    obtain rfl := eq_of_present hpresent hu
    obtain ⟨hlt, -⟩ := List.getElem?_eq_some_iff.mp hu
    rw [onPresent_present hpresent]
    exact ⟨_, List.getElem?_set_self hlt, hstep g.link v⟩

section Calls

variable [Bus β] {k : Call} (hk : k.unit? = some i)
include hk

theorem getElem?_call_of_ne {j : Nat} (hne : j ≠ i.toNat) :
    (g.call k).slots[j]? = g.slots[j]? := by
  cases k with
  | discover | poll => cases hk
  | readError _ | prepare _ | commit _ | apply _ _ =>
    cases hk
    exact getElem?_onPresent_of_ne hne

theorem touched_call {u : Slot} (hu : g.slots[i.toNat]? = some u) :
    ∃ u', (g.call k).slots[i.toNat]? = some u' ∧ u.TouchedBy k u' := by
  cases k with
  | discover | poll => cases hk
  | readError _ =>
    cases hk
    exact touched_onPresent rfl (fun l u => u.readError_touched l i _) hu
  | prepare _ =>
    cases hk
    exact touched_onPresent rfl (fun l u => u.prepare_touched l i _) hu
  | commit _ =>
    cases hk
    exact touched_onPresent rfl (fun l u => u.commit_touched l i) hu
  | apply _ c =>
    cases hk
    exact touched_onPresent rfl (fun l u => u.apply_touched l i _ c) hu

end Calls

section Registers

variable {g : Gateway Simulation}

/-- A step that never leaves its slot changes the registers of its unit at most. -/
theorem Indexed.confined_onPresent (hg : g.Indexed)
    {step : BusLink Simulation → Slot → SlotStep Simulation}
    (hstep : i.toNat < slotCount → Slot.StaysIn i step) :
    Simulation.Confined i g.link.bus (g.onPresent i step).2.link.bus := by
  cases hu : g.present? i with
  | error e =>
    rw [onPresent_absent hu]
    exact .of_registers rfl
  | ok u =>
    obtain ⟨hi, hindex⟩ := hg.of_present hu
    rw [onPresent_present hu]
    exact (hstep hi g.link u hindex).confined

theorem Indexed.confined_call (hg : g.Indexed) {k : Call} (hk : k.unit? = some i) :
    Simulation.Confined i g.link.bus (g.call k).link.bus := by
  cases k with
  | discover | poll => cases hk
  | readError _ =>
    cases hk
    exact hg.confined_onPresent fun _ => Slot.readError_staysIn _
  | prepare _ =>
    cases hk
    exact hg.confined_onPresent fun hi => Slot.prepare_staysIn hi _
  | commit _ =>
    cases hk
    exact hg.confined_onPresent fun hi => Slot.commit_staysIn hi
  | apply _ c =>
    cases hk
    exact hg.confined_onPresent fun hi => Slot.apply_staysIn hi _ c

end Registers

/-- A call for a unit, whether it succeeds or fails on the way, leaves the records of the other
units, the system block and the count as they were, over any bus and in any state. Of the record of
its own unit it keeps the place, the id, the presence and the capability; only `readError` may
change the error block and its stamp, and it changes nothing else; only a command may change the
status. On the simulated adapter every register outside the holding block and the status block of
the unit keeps its word. -/
theorem call_touches_own_unit {k : Call} {i : UInt8} (hk : k.unit? = some i) :
    (∀ {β : Type} [Bus β] (g : Gateway β),
      (∀ j ≠ i.toNat, (g.call k).slots[j]? = g.slots[j]?) ∧
      (g.call k).system = g.system ∧ (g.call k).discovered = g.discovered ∧
      ∀ u, g.slots[i.toNat]? = some u →
        ∃ u', (g.call k).slots[i.toNat]? = some u' ∧ u.TouchedBy k u') ∧
    ∀ {s : Surroundings Simulation} {g : Gateway Simulation}, Reachable s g → ∀ a : UInt16,
      (a.toNat < 2000 + 3 * i.toNat ∨ 2000 + 3 * i.toNat + 2 < a.toNat →
        (g.call k).link.bus.registers .holding a = g.link.bus.registers .holding a) ∧
      (a.toNat < 2000 + 6 * i.toNat ∨ 2000 + 6 * i.toNat + 5 < a.toNat →
        (g.call k).link.bus.registers .input a = g.link.bus.registers .input a) := by
  refine ⟨fun {β} _ g => ?records, fun {s g} h a => ?registers⟩
  case records =>
    have hcall : k ≠ .discover := by
      rintro rfl
      cases hk
    obtain ⟨-, hsystem, hcount⟩ := g.table_call hcall
    exact ⟨fun j hj => getElem?_call_of_ne hk hj, hsystem, hcount, fun u hu => touched_call hk hu⟩
  case registers =>
    have hconfined := h.indexed.confined_call hk
    have hholding := BlockKind.holding.covers_iff i a
    have hstatus := BlockKind.status.covers_iff i a
    simp only [BlockKind.base, BlockKind.size, UInt16.reduceToNat] at hholding hstatus
    constructor
    · intro ha
      refine hconfined .holding a ?_ (by simp)
      rintro ⟨-, hcovers⟩
      have := hholding.mp hcovers
      omega
    · intro ha
      refine hconfined .input a (by simp) ?_
      rintro ⟨-, hcovers⟩
      have := hstatus.mp hcovers
      omega

/-- The small installation when the holding block of unit 0 cannot be written; the registers of unit
1 follow it. -/
def demoUnwritable : Gateway Simulation :=
  demoStarted.amid (demoStarted.link.bus.failWrites (BlockKind.holding.address 0) .check) 60000

theorem call_touches_own_unit_demo :
    (demoUnwritable.apply 0 .filterReset).1 = .error (.bus (.checkMismatch 0x0000 0xFFFF)) ∧
      (demoUnwritable.call (.apply 0 .filterReset)).slots[1]? = demoUnwritable.slots[1]? ∧
      (demoUnwritable.call (.apply 0 .filterReset)).discovered = 4 ∧
      (demoUnwritable.call (.apply 0 .filterReset)).link.bus.registers .holding 2003 =
        demoUnwritable.link.bus.registers .holding 2003 := by
  have hfails : (demoUnwritable.apply 0 .filterReset).1 =
      .error (.bus (.checkMismatch 0x0000 0xFFFF)) := by decide +kernel
  have hcount : demoUnwritable.discovered = 4 := by decide +kernel
  have hreachable : Reachable ⟨fun _ _ => True, fun _ _ => True⟩ demoUnwritable := by
    unfold demoUnwritable
    exact (reachable_demoStarted _).amid trivial trivial
  have hunit : (Call.apply 0 .filterReset).unit? = some 0 := rfl
  obtain ⟨hrecords, hregisters⟩ := call_touches_own_unit hunit
  obtain ⟨hothers, -, hdiscovered, -⟩ := hrecords demoUnwritable
  exact ⟨hfails, hothers 1 (by decide), hdiscovered.trans hcount,
    (hregisters hreachable 2003).1 (by decide)⟩

end Gateway

end ClimateBus
