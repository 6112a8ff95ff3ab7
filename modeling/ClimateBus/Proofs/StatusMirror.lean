import ClimateBus.Proofs.SlotInvariants
import Mathlib

/-!
The status image of a slot and the controls of its unit.

A command edits the status image before its unit has accepted anything, so the two differ while an
edit is pending. Once the holding image is clean they agree again: either a write was needed, and
the unit reports what was written, or none was needed because the unit had these controls already.
-/
namespace ClimateBus

namespace Slot

/-- Without a pending edit a slot shows the controls of its unit. -/
def InStep (u : Slot) (d : Device) : Prop :=
  u.holding.dirty = false → u.status.image.controls = d.status.controls ∧
    (u.Stamped → u.holding.image.controls = d.status.controls)

/-- The holding image asks for what the status image shows. -/
def Synced (u : Slot) : Prop := u.holding.image.controls = u.status.image.controls

theorem dirty_sync {u : Slot} (h : u.sync.holding.dirty = false) :
    u.holding.dirty = false ∧ u.sync.holding.image = u.holding.image := by
  have hedited := u.holding.edited_syncFrom u.status
  exact ⟨hedited.clean h, hedited.unchanged h⟩

theorem synced_sync (u : Slot) : u.sync.Synced := u.holding.controls_syncFrom u.status

/-- When a clean image needs no edit to be synced, it already asks for what is shown. -/
theorem synced_of_clean {u : Slot} (h : u.sync.holding.dirty = false) : u.Synced := by
  have hsynced := u.synced_sync
  rw [Synced, (dirty_sync h).2] at hsynced
  exact hsynced

/-- A unit that accepted a synced image reports what the slot shows. -/
theorem Synced.written {u : Slot} (h : u.Synced) (stamp : UInt64) (d : Device) :
    (u.written stamp).InStep (d.take u.holding.image) := by
  intro _
  have hunit : (d.take u.holding.image).status.controls = u.holding.image.controls :=
    Simulation.controls_accepted u.holding.image d.status
  rw [hunit]
  exact ⟨h.symm, fun _ => rfl⟩

section Steps

variable {l : BusLink Simulation} {u : Slot} {slot : UInt8} (hindex : u.index = slot)
  (hslot : slot.toNat < slotCount)
include hindex hslot

theorem writeHolding_inStep (stamp : UInt64) (hsynced : u.Synced)
    (hclean : u.holding.dirty = false → u.InStep (l.bus.device slot)) :
    (writeHolding l u stamp).Ends l slot (fun u d _ => u.InStep d ∧ u.Synced)
      fun u d _ => u.InStep d := by
  refine writeHolding_ends hindex hslot stamp (fun h => ⟨hclean h, hsynced⟩) ?_ ?_
  · intro _
    exact ⟨hsynced.written stamp _, hsynced⟩
  · intro hdirty hclean
    rw [hdirty] at hclean
    cases hclean

/-- It is enough that one of the two images showed the controls of the unit. -/
theorem sync_inStep (stamp : UInt64)
    (h : u.holding.dirty = false → u.status.image.controls = (l.bus.device slot).status.controls ∨
      u.holding.image.controls = (l.bus.device slot).status.controls) :
    (writeHolding l u.sync stamp).Ends l slot (fun u d _ => u.InStep d ∧ u.Synced)
      fun u d _ => u.InStep d := by
  refine writeHolding_inStep (by rw [sync_index, hindex]) hslot stamp u.synced_sync ?_
  intro hclean _
  obtain ⟨hdirty, himage⟩ := dirty_sync hclean
  have hsynced : u.Synced := synced_of_clean hclean
  rw [sync_status, himage]
  -- The sync changed no bit, so both images asked for the same before, and one of them was right.
  rcases h hdirty with hstatus | hholding
  · exact ⟨hstatus, fun _ => hsynced.trans hstatus⟩
  · exact ⟨hsynced.symm.trans hholding, fun _ => hholding⟩

theorem prepare_inStep {window : UInt32} (h : u.InStep (l.bus.device slot)) :
    (prepare window l u).Ends l slot
      (fun u d _ => u.InStep d ∧
        (u.holding.dirty = false → u.holding.image.controls = d.status.controls))
      fun u d _ => u.InStep d := by
  refine prepare_ends hindex (fun hstale => ⟨h, fun hclean => ?_⟩) h fun l' hdevice _ => ?_
  · have hstamped : u.Stamped := by
      simp only [stale, Bool.or_eq_false_iff, Option.isNone_eq_false_iff] at hstale
      exact .inl hstale.1
    exact (h hclean).2 hstamped
  · have hstatus : (u.reloaded (l.bus.device slot).holding l.now).holding.dirty = false →
        (u.reloaded (l.bus.device slot).holding l.now).status.image.controls =
          (l'.bus.device slot).status.controls := by
      rw [hdevice]
      exact fun hclean => (h hclean).1
    refine (sync_inStep (by rw [reloaded_index, hindex]) hslot _ fun hclean =>
      .inl (hstatus hclean)).weaken ?_ fun _ _ _ => fun h => h
    rintro u' d - ⟨h', hsynced⟩
    exact ⟨h', fun hclean => hsynced.trans (h' hclean).1⟩

theorem endPulse_inStep {stamp : UInt64} (h : u.InStep (l.bus.device slot)) (hsynced : u.Synced) :
    (endPulse stamp l u).Ends l slot (fun u d _ => u.InStep d) fun u d _ => u.InStep d := by
  refine endPulse_ends hindex (fun _ => h) ?_
  have hedited : u.holding.Edited u.withdrawn.holding := u.holding.edited_setFilterReset false
  have hsynced' : u.withdrawn.Synced :=
    (u.holding.controls_setFilterReset false).trans hsynced
  refine (writeHolding_inStep (by rw [withdrawn_index, hindex]) hslot stamp hsynced' ?_).weaken
    (fun _ _ _ h => h.1) fun _ _ _ h => h
  intro hclean _
  have hstatus : u.status.image.controls = (l.bus.device slot).status.controls :=
    (h (hedited.clean hclean)).1
  exact ⟨hstatus, fun _ => hsynced'.trans hstatus⟩

theorem commit_inStep
    (h : u.holding.dirty = false → u.status.image.controls = (l.bus.device slot).status.controls ∨
      u.holding.image.controls = (l.bus.device slot).status.controls) :
    (commit l u).Ends l slot (fun u d _ => u.InStep d) fun u d _ => u.InStep d :=
  commit_ends (sync_inStep hindex hslot _ h) fun _ _ hindex' h' =>
    endPulse_inStep hindex' hslot h'.1 h'.2

theorem apply_inStep {window : UInt32} {c : Command} (h : u.InStep (l.bus.device slot)) :
    (apply window c l u).Ends l slot (fun u d _ => u.InStep d) fun u d _ => u.InStep d := by
  refine apply_ends (prepare_inStep hindex hslot h) fun l' u' hindex' h' => ?_
  refine commit_inStep (by rw [edit_index, hindex']) hslot fun hclean => .inr ?_
  rw [controls_edit_holding]
  exact h'.2 ((u'.edited_edit_holding c).clean hclean)

end Steps

namespace InStep

variable {u u' : Slot} {d d' : Device}

theorem of_found {i : UInt8} (h : Slot.Found i d u) (hpresent : u.present = true) : u.InStep d := by
  intro _
  have hholding : u.holding = default := by rw [h.fresh]; rfl
  refine ⟨by rw [h.shown hpresent], fun hstamped => ?_⟩
  rw [Stamped, hholding] at hstamped
  exact absurd hstamped (by decide)

theorem of_holding (hu : u.InStep d) (hslot : u'.holding = u.holding)
    (hunit : d'.status.controls = d.status.controls)
    (hstatus : u'.status.image.controls = u.status.image.controls ∨
      u'.status.image.controls = d'.status.controls) : u'.InStep d' := by
  intro hclean
  rw [hslot] at hclean
  rw [Stamped, hslot, hunit]
  obtain ⟨hshown, hasked⟩ := hu hclean
  refine ⟨?_, hasked⟩
  rcases hstatus with hsame | hread
  · rw [hsame, hshown]
  · rw [hread, hunit]

end InStep

end Slot

namespace Gateway

/-- The controls in the status block of a slot change through the gateway's writes only. -/
def controlsKept (i : UInt8) : Surroundings Simulation where
  bus b b' := (b'.block .status i).controls = (b.block .status i).controls
  clock _ _ := True

variable {g : Gateway Simulation} {i : UInt8}

theorem inStep_invariant (i : UInt8) :
    SlotInvariant (controlsKept i) (fun _ => True) i
      fun u d _ => u.present = true → u.InStep d where
  aside _ hu := hu
  outside hbus hu hpresent := (hu hpresent).of_holding rfl hbus (.inl rfl)
  found _ _ _ _ hfound := .of_found hfound
  polled _ _ _ _ _ _ _ hpolled _ hu := by
    cases hpolled with
    | read _ => exact fun hpresent => (hu hpresent).of_holding rfl rfl (.inr rfl)
    | kept _ => exact hu
  readError _ secs l u hindex _ _ hu :=
    Slot.readError_ends hindex hu (fun _ hpresent => (hu hpresent).of_holding rfl rfl (.inl rfl)) hu
  prepare _ window l u hindex hpresent hslot hu :=
    (Slot.prepare_inStep hindex hslot (hu hpresent)).weaken (fun _ _ _ h _ => h.1)
      fun _ _ _ h _ => h
  commit _ l u hindex hpresent hslot hu :=
    (Slot.commit_inStep hindex hslot fun hclean => .inl (hu hpresent hclean).1).weaken
      (fun _ _ _ h _ => h) fun _ _ _ h _ => h
  apply _ _ window l u hindex hpresent hslot hu :=
    (Slot.apply_inStep hindex hslot (hu hpresent)).weaken (fun _ _ _ h _ => h) fun _ _ _ h _ => h

/-- Of a unit without a pending edit the gateway shows the power bit, the codes of fan direction,
fan speed and mode, and the setpoint in tenths just as the unit reports them. -/
theorem clean_status_in_step (h : Reachable (controlsKept i) g) {u : Slot}
    (hu : g.present? i = .ok u) (hclean : u.holding.dirty = false) :
    u.status.power = (g.link.bus.block .status i).bit Layout.power ∧
      u.status.fanDirectionCode = (g.link.bus.block .status i).unsigned Layout.fanDirection ∧
      u.status.fanSpeedCode = (g.link.bus.block .status i).unsigned Layout.fanSpeed ∧
      u.status.modeCode = (g.link.bus.block .status i).unsigned Layout.mode ∧
      (u.status.image.signed Layout.setpoint).toInt =
        ((g.link.bus.block .status i).signed Layout.setpoint).toInt := by
  have hinStep := (inStep_invariant i).of_present h hu (present?_eq_ok.mp hu).2
  have hcontrols : u.status.image.controls = (g.link.bus.block .status i).controls :=
    (hinStep hclean).1
  obtain ⟨hpower, hdirection, hspeed, hmode, hsetpoint⟩ := Controls.ext_iff.mp hcontrols
  exact ⟨hpower, hdirection, hspeed, hmode, hsetpoint⟩

theorem clean_status_in_step_demo : ∃ u, demoStarted.present? 1 = .ok u ∧
    u.holding.dirty = false ∧ u.status.power = true ∧
    u.status.power = (demoStarted.link.bus.block .status 1).bit Layout.power ∧
    (u.status.image.signed Layout.setpoint).toInt =
      ((demoStarted.link.bus.block .status 1).signed Layout.setpoint).toInt := by
  have hu : demoStarted.present? 1 = .ok (demoStarted.slots.getD 1 default) := by decide +kernel
  have hclean : (demoStarted.slots.getD 1 default).holding.dirty = false := by decide +kernel
  have hon : (demoStarted.slots.getD 1 default).status.power = true := by decide +kernel
  have hstatus := clean_status_in_step (reachable_demoStarted (controlsKept 1)) hu hclean
  exact ⟨_, hu, hclean, hon, hstatus.1, hstatus.2.2.2.2⟩

end Gateway

end ClimateBus
