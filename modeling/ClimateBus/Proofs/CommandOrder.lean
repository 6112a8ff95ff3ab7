import ClimateBus.Proofs.Retry
import Mathlib

/-!
Commands in either order.

The fields that commands set lie apart, so edits of different ones commute
(`Slot.status_edit_comm`). On the bus the two orders may differ in every operation: the first
command reads the holding block or trusts its image and brings it to a baseline, the second one
finds what the first one left. But each of them ends with the one block that brings the unit to what
the status image shows, and that depends on the edits alone.
-/
namespace ClimateBus

open Image

namespace Command

variable {c c' : Command}

/-- Fields that commands set are the same or have no bit in common. -/
theorem apart_of_mem_fields {f f' : Field} (hf : f ∈ c.fields) (hf' : f' ∈ c'.fields)
    (hne : f ≠ f') : f.Apart f' := by
  let all : List Field :=
    [⟨Layout.power, 1⟩, Layout.mode, Layout.setpoint, Layout.fanSpeed, Layout.fanDirection]
  have hapart : ∀ f ∈ all, ∀ f' ∈ all, f ≠ f' → f.Apart f' := by decide
  have hall (c : Command) : c.fields ⊆ all := by
    cases c <;> simp [fields, all]
  exact hapart f (hall c hf) f' (hall c' hf') hne

/-- Commands of two kinds set different fields, but for the power bit that a mode sets as well. -/
theorem disjoint_fields (hkinds : c.name ≠ c'.name)
    (hpower : ¬ (c.name ∈ ["power", "mode"] ∧ c'.name ∈ ["power", "mode"])) :
    c.fields.Disjoint c'.fields := by
  rw [List.disjoint_left]
  cases c <;> cases c' <;> simp [name, fields, Layout.power, Layout.mode, Layout.setpoint,
    Layout.fanSpeed, Layout.fanDirection] at hkinds hpower ⊢

theorem not_covers_of_disjoint (hfields : c.fields.Disjoint c'.fields) {f : Field} {k : Nat}
    (hf : f ∈ c.fields) (hk : f.Covers k) : ∀ f' ∈ c'.fields, ¬ f'.Covers k := by
  intro f' hf' hk'
  have hapart : f.Apart f' := apart_of_mem_fields hf hf' fun heq => hfields hf (heq ▸ hf')
  unfold Field.Covers at hk hk'
  unfold Field.Apart at hapart
  omega

end Command

namespace Slot

variable {c c' : Command}

/-- Outside the fields of one command it makes no difference when that one came. -/
theorem agreeOff_edit_comm (u : Slot) (c c' : Command) :
    AgreeOff c.fields ((u.edit c).edit c').status.image ((u.edit c').edit c).status.image := by
  have hlater : AgreeOff c.fields ((u.edit c).edit c').status.image (u.edit c').status.image := by
    apply agreeOff_edit
    have hedit : AgreeOff c.fields (u.edit c).status.image u.status.image :=
      fun k hk => u.bit_edit_of_not_covers hk
    exact hedit.mono (List.subset_append_right _ _)
  intro k hk
  rw [hlater k hk, (u.edit c').bit_edit_of_not_covers hk]

/-- Edits of different fields commute. -/
theorem status_edit_comm (u : Slot) (hfields : c.fields.Disjoint c'.fields) :
    ((u.edit c).edit c').status = ((u.edit c').edit c).status := by
  apply congrArg StatusImage.mk
  apply ext_bit
  intro k
  by_cases hk : ∀ f ∈ c.fields, ¬ f.Covers k
  · exact u.agreeOff_edit_comm c c' k hk
  · push Not at hk
    obtain ⟨f, hf, hcovers⟩ := hk
    exact (u.agreeOff_edit_comm c' c k (Command.not_covers_of_disjoint hfields hf hcovers)).symm

end Slot

namespace Gateway

variable {g a b : Gateway Simulation} {i : UInt8} {u : Slot} {c c' : Command}

/-- Two commands in a row bring a unit to what both edits together show. -/
theorem brought_in_turn (h : Reachable (unitKept i) g) (hu : g.present? i = .ok u)
    (hok : (g.apply i c).1 = .ok ()) (ha : Run (unitKept i) (g.apply i c).2 [] a)
    (hok' : (a.apply i c').1 = .ok ()) :
    ∃ v, (a.apply i c').2.Brought i (g.link.bus.block .holding i) ((u.edit c).edit c').status v := by
  obtain ⟨w, hfirst⟩ := brought_of_apply h hu hok
  have hbetween := hfirst.outside ha
  obtain ⟨v, hsecond⟩ := hbetween.apply ((h.call (.apply i c)).run ha) hok'
  have hshown : (w.edit c').status = ((u.edit c).edit c').status := by
    apply Slot.status_edit_congr
    rw [hbetween.status]
    exact .refl _ _
  exact ⟨v, hshown ▸ hsecond⟩

/-- Commands that set different fields may be given in either order, with any time between them and
whatever others may do then: both succeed, and the holding block, both images of the slot and the
controls the unit reports end up the same. -/
theorem commands_commute (h : Reachable (unitKept i) g) (hu : g.present? i = .ok u)
    (hfields : c.fields.Disjoint c'.fields) (hserves : g.link.bus.Serves i)
    (ha : Run (unitKept i) (g.apply i c).2 [] a) (hserves_a : a.link.bus.Serves i)
    (hb : Run (unitKept i) (g.apply i c').2 [] b) (hserves_b : b.link.bus.Serves i) :
    ((g.apply i c).1 = .ok () ∧ (a.apply i c').1 = .ok ()) ∧
      ((g.apply i c').1 = .ok () ∧ (b.apply i c).1 = .ok ()) ∧
      (a.apply i c').2.link.bus.block .holding i = (b.apply i c).2.link.bus.block .holding i ∧
      ((a.apply i c').2.link.bus.block .status i).controls =
        ((b.apply i c).2.link.bus.block .status i).controls ∧
      ∃ v w, (a.apply i c').2.present? i = .ok v ∧ (b.apply i c).2.present? i = .ok w ∧
        v.holding.image = w.holding.image ∧ v.status.image = w.status.image := by
  have hok (c : Command) : (g.apply i c).1 = .ok () := apply_ok_of_serves h.indexed hu hserves c
  have hthen {c : Command} {a : Gateway Simulation} (ha : Run (unitKept i) (g.apply i c).2 [] a)
      (hserves : a.link.bus.Serves i) (c' : Command) : (a.apply i c').1 = .ok () := by
    obtain ⟨w, hfirst⟩ := brought_of_apply h hu (hok c)
    have hindexed : a.Indexed := ((h.call (.apply i c)).run ha).indexed
    exact apply_ok_of_serves hindexed (hfirst.outside ha).present hserves c'
  have hok_a := hthen ha hserves_a c'
  have hok_b := hthen hb hserves_b c
  obtain ⟨v, hv⟩ := brought_in_turn h hu (hok c) ha hok_a
  obtain ⟨w, hw⟩ := brought_in_turn h hu (hok c') hb hok_b
  rw [u.status_edit_comm hfields] at hv
  refine ⟨⟨hok c, hok_a⟩, ⟨hok c', hok_b⟩, ?_, ?_, v, w, hv.present, hw.present, ?_, ?_⟩
  · rw [hv.block, hw.block]
  · rw [hv.reported, hw.reported]
  · rw [hv.image, hw.image]
  · rw [hv.status, hw.status]

/-- The started unit after it was told to cool, a minute later. -/
def demoCooled : Gateway Simulation := (demoStarted.apply 1 (.mode .cool)).2.setClock 60000

/-- The started unit after a request to clear its filter sign, a second later. -/
def demoCleared : Gateway Simulation := (demoStarted.apply 1 .filterReset).2.setClock 1300

/-- To be told to cool and to clear the filter sign takes a unit to the same end in either order,
although only one of them reads the block again in between. -/
theorem commands_commute_demo :
    (demoCooled.apply 1 .filterReset).1 = .ok () ∧ (demoCleared.apply 1 (.mode .cool)).1 = .ok () ∧
      (demoCooled.apply 1 .filterReset).2.link.bus.block .holding 1 =
        (demoCleared.apply 1 (.mode .cool)).2.link.bus.block .holding 1 := by
  have hu : demoStarted.present? 1 = .ok (demoStarted.slots.getD 1 default) := by decide +kernel
  have hfields : (Command.mode .cool).fields.Disjoint Command.filterReset.fields :=
    Command.disjoint_fields (by decide) (by decide)
  have hserves : demoStarted.link.bus.Serves 1 := by constructor <;> decide +kernel
  have hcooled : Run (unitKept 1) (demoStarted.apply 1 (.mode .cool)).2 [] demoCooled := by
    unfold demoCooled
    exact Run.start.outside (unitKept_of_registers rfl) trivial
  have hcleared : Run (unitKept 1) (demoStarted.apply 1 .filterReset).2 [] demoCleared := by
    unfold demoCleared
    exact Run.start.outside (unitKept_of_registers rfl) trivial
  have hserves_cooled : demoCooled.link.bus.Serves 1 := by constructor <;> decide +kernel
  have hserves_cleared : demoCleared.link.bus.Serves 1 := by constructor <;> decide +kernel
  obtain ⟨⟨-, hok⟩, ⟨-, hok'⟩, hblock, -⟩ := commands_commute (reachable_demoStarted (unitKept 1)) hu
    hfields hserves hcooled hserves_cooled hcleared hserves_cleared
  exact ⟨hok, hok', hblock⟩

end Gateway

end ClimateBus
