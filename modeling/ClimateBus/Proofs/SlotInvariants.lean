import ClimateBus.Proofs.GatewaySteps
import Mathlib

/-!
Invariants of one slot along the runs of a gateway.

A condition on a slot, its unit and the log is an invariant once each kind of step on that very slot
preserves it (`SlotInvariant`). The rest of a gateway needs no argument: a call for another slot
leaves the slot and its unit alone and adds to the log only operations that are none of its own.
-/
namespace ClimateBus

/-- The operation is none of a slot's own. -/
def Issue.Aside (i : UInt8) (e : Issue) : Prop := e.slot ≠ i ∨ e.kind = .system

/-- Nothing is asked. -/
def SlotCondition.any : SlotCondition := fun _ _ _ => True

/-- A step that never leaves its slot. -/
def Slot.StaysIn (i : UInt8) (step : BusLink Simulation → Slot → SlotStep Simulation) : Prop :=
  ∀ l u, u.index = i → (step l u).Ends l i .any .any

namespace Slot

variable {i : UInt8} (hi : i.toNat < slotCount)
include hi

theorem writeHolding_staysIn (stamp : UInt64) : StaysIn i fun l u => writeHolding l u stamp :=
  fun _ _ hu => writeHolding_ends hu hi stamp (fun _ => trivial) (fun _ => trivial) fun _ => trivial

theorem prepare_staysIn (window : UInt32) : StaysIn i (prepare window) := by
  intro l u hu
  refine prepare_ends hu (fun _ => trivial) trivial fun l' _ _ => ?_
  exact writeHolding_staysIn hi l.now l' (u.reloaded _ l.now).sync (by simpa using hu)

theorem commit_staysIn : StaysIn i commit := by
  intro l u hu
  have hwrite := writeHolding_staysIn hi l.now l u.sync (by simpa using hu)
  refine commit_ends hwrite fun l' u' hu' _ => ?_
  refine endPulse_ends hu' (fun _ => trivial) ?_
  exact writeHolding_staysIn hi l.now l' u'.withdrawn (by simpa using hu')

theorem apply_staysIn (window : UInt32) (c : Command) : StaysIn i (apply window c) :=
  fun l u hu => apply_ends (prepare_staysIn hi window l u hu) fun l' u' hu' _ =>
    commit_staysIn hi l' (u'.edit c) (by rw [edit_index, hu'])

omit hi in
theorem readError_staysIn (secs : UInt32) : StaysIn i (readError secs) :=
  fun _ _ hu => readError_ends hu trivial (fun _ => trivial) trivial

end Slot

namespace Gateway

/-- A condition holds of the slot with an address, of its unit and of the log. -/
def At (g : Gateway Simulation) (i : UInt8) (I : SlotCondition) : Prop :=
  ∃ u, g.slots[i.toNat]? = some u ∧ I u (g.link.bus.device i) g.link.issued

variable {g : Gateway Simulation} {i j : UInt8} {I Q E : SlotCondition}
  {step : BusLink Simulation → Slot → SlotStep Simulation}

theorem At.of_present (h : g.At i I) {u : Slot} (hu : g.present? i = .ok u) :
    I u (g.link.bus.device i) g.link.issued := by
  obtain ⟨v, hv, hI⟩ := h
  obtain rfl := eq_of_present hu hv
  exact hI

theorem at_onPresent {u : Slot} (hu : g.present? i = .ok u)
    (h : I (step g.link u).slot ((step g.link u).link.bus.device i) (step g.link u).link.issued) :
    (g.onPresent i step).2.At i I := by
  obtain ⟨hlt, -⟩ := List.getElem?_eq_some_iff.mp (present?_eq_ok.mp hu).1
  rw [onPresent_present hu]
  exact ⟨_, List.getElem?_set_self hlt, h⟩

/-- A step on a unit that is there ends as the step on its slot does. -/
theorem At.onPresent_self (hg : g.Indexed) (h : g.At i I)
    (hstep : ∀ l u, u.index = i → u.present = true → i.toNat < slotCount →
      I u (l.bus.device i) l.issued → (step l u).Ends l i Q E) :
    ((g.onPresent i step).1 = .ok () → (g.onPresent i step).2.At i Q) ∧
      ∀ e, (g.onPresent i step).1 = .error (.bus e) → (g.onPresent i step).2.At i E := by
  have hends {u : Slot} (hu : g.present? i = .ok u) : (step g.link u).Ends g.link i Q E := by
    obtain ⟨hi, hindex⟩ := hg.of_present hu
    exact hstep g.link u hindex (present?_eq_ok.mp hu).2 hi (h.of_present hu)
  constructor
  · intro hok
    obtain ⟨u, hu, hresult⟩ := onPresent_eq_ok.mp hok
    exact at_onPresent hu ((hends hu).ok hresult)
  · intro e herror
    obtain ⟨u, hu, hresult⟩ := onPresent_eq_bus.mp herror
    exact at_onPresent hu ((hends hu).error e hresult)

theorem At.onPresent_ne (hg : g.Indexed) (h : g.At i I) (hne : j ≠ i)
    (hstep : j.toNat < slotCount → Slot.StaysIn j step)
    (haside : ∀ {u d log new}, (∀ e ∈ new, Issue.Aside i e) → I u d log → I u d (log ++ new)) :
    (g.onPresent j step).2.At i I := by
  obtain ⟨u, hslot, hI⟩ := h
  cases hv : g.present? j with
  | error e =>
    rw [onPresent_absent hv]
    exact ⟨u, hslot, hI⟩
  | ok v =>
    obtain ⟨hj, hindex⟩ := hg.of_present hv
    have hends := hstep hj g.link v hindex
    obtain ⟨new, hissued, hnew⟩ := hends.issued
    refine ⟨u, (getElem?_onPresent_ne hne).trans hslot, ?_⟩
    rw [onPresent_present hv]
    dsimp only
    rw [hends.confined.device hne, hissued]
    exact haside (fun e he => .inl (hnew e he ▸ hne)) hI

/-- What is kept whether the step succeeds or not is kept. -/
theorem At.onPresent (hg : g.Indexed) (h : g.At i I)
    (hself : j = i → ∀ l u, u.index = i → u.present = true → i.toNat < slotCount →
      I u (l.bus.device i) l.issued → (step l u).Ends l i I I)
    (hother : j.toNat < slotCount → Slot.StaysIn j step)
    (haside : ∀ {u d log new}, (∀ e ∈ new, Issue.Aside i e) → I u d log → I u d (log ++ new)) :
    (g.onPresent j step).2.At i I := by
  by_cases hij : j = i
  · subst hij
    cases hu : g.present? j with
    | error e => rwa [onPresent_absent hu]
    | ok u =>
      obtain ⟨hj, hindex⟩ := hg.of_present hu
      have hends := hself rfl g.link u hindex (present?_eq_ok.mp hu).2 hj (h.of_present hu)
      exact at_onPresent hu hends.always
  · exact h.onPresent_ne hg hij hother haside

/-- What each kind of step on one slot has to preserve. -/
structure SlotInvariant (s : Surroundings Simulation) (admitted : Call → Prop) (i : UInt8)
    (I : SlotCondition) : Prop where
  aside : ∀ {u d log new}, (∀ e ∈ new, Issue.Aside i e) → I u d log → I u d (log ++ new)
  outside : ∀ {u log} {b b' : Simulation}, s.bus b b' → I u (b.device i) log →
    I u (b'.device i) log
  found : admitted .discover → ∀ {u d log}, Slot.Found i d u → I u d log
  polled : admitted .poll → ∀ {u u' d log new}, u.index = i → Slot.Polled d new u u' →
    (∀ e ∈ new, e.kind = .status) → I u d log → I u' d (log ++ new)
  readError : admitted (.readError i) → ∀ secs l u, u.index = i → u.present = true →
    i.toNat < slotCount → I u (l.bus.device i) l.issued → (Slot.readError secs l u).Ends l i I I
  prepare : admitted (.prepare i) → ∀ window l u, u.index = i → u.present = true →
    i.toNat < slotCount → I u (l.bus.device i) l.issued → (Slot.prepare window l u).Ends l i I I
  commit : admitted (.commit i) → ∀ l u, u.index = i → u.present = true →
    i.toNat < slotCount → I u (l.bus.device i) l.issued → (Slot.commit l u).Ends l i I I
  apply : ∀ c, admitted (.apply i c) → ∀ window l u, u.index = i → u.present = true →
    i.toNat < slotCount → I u (l.bus.device i) l.issued → (Slot.apply window c l u).Ends l i I I

namespace SlotInvariant

variable {s : Surroundings Simulation} {admitted : Call → Prop}

theorem at_discover (hI : SlotInvariant s admitted i I) (hk : admitted .discover)
    (hg : g.Indexed) (h : g.At i I) : g.discover.2.At i I := by
  obtain ⟨hregisters, -, hslots⟩ := g.discover_slots
  obtain ⟨u, hu, hu'⟩ := h
  have hdevice := Simulation.device_of_registers hregisters i
  rcases hslots with ⟨hsame, e, hkind, hissued⟩ | hfound
  · refine ⟨u, hsame ▸ hu, ?_⟩
    rw [hdevice, hissued]
    exact hI.aside (by simp [Issue.Aside, hkind]) hu'
  · obtain ⟨u', hslot, hu'⟩ := hfound i.toNat u hu
    rw [(hg.index_eq hu).2] at hu'
    refine ⟨u', hslot, ?_⟩
    rw [hdevice]
    exact hI.found hk hu'

theorem at_poll (hI : SlotInvariant s admitted i I) (hk : admitted .poll) (hg : g.Indexed)
    (h : g.At i I) : g.poll.2.At i I := by
  obtain ⟨u, hu, hu'⟩ := h
  obtain ⟨hregisters, new, hissued, hnew, hpolled⟩ :=
    refresh_polled g.link.now g.settings.cacheWriteS g.slots hg.nodup g.link
  obtain ⟨u', hslot, hpolled⟩ := hpolled i.toNat u hu
  obtain ⟨-, hindex⟩ := hg.index_eq hu
  rw [hindex] at hpolled
  have hpoll : g.poll.2.link = (refresh g.link.now g.settings.cacheWriteS g.link g.slots).2.2 := rfl
  refine ⟨u', hslot, ?_⟩
  rw [hpoll, Simulation.device_of_registers hregisters, hissued]
  exact hI.polled hk hindex hpolled (fun e he => (hnew e he).1) hu'

theorem at_call (hI : SlotInvariant s admitted i I) {k : Call} (hk : admitted k) (hg : g.Indexed)
    (h : g.At i I) : (g.call k).At i I := by
  cases k with
  | discover => exact hI.at_discover hk hg h
  | poll => exact hI.at_poll hk hg h
  | readError j =>
    refine h.onPresent hg ?_ (fun _ => Slot.readError_staysIn _) hI.aside
    rintro rfl
    exact hI.readError hk _
  | prepare j =>
    refine h.onPresent hg ?_ (fun hj => Slot.prepare_staysIn hj _) hI.aside
    rintro rfl
    exact hI.prepare hk _
  | commit j =>
    refine h.onPresent hg ?_ (fun hj => Slot.commit_staysIn hj) hI.aside
    rintro rfl
    exact hI.commit hk
  | apply j c =>
    refine h.onPresent hg ?_ (fun hj => Slot.apply_staysIn hj _ c) hI.aside
    rintro rfl
    exact hI.apply c hk _

theorem at_run (hI : SlotInvariant s admitted i I) {g' : Gateway Simulation} {ks : List Call}
    (hrun : Run s g ks g') (hks : ∀ k ∈ ks, admitted k) (hg : g.Indexed) (h : g.At i I) :
    g'.Indexed ∧ g'.At i I := by
  refine hrun.preserves (P := fun g => g.Indexed ∧ g.At i I) admitted hks ⟨hg, h⟩ ?_ ?_
  · rintro g k hk ⟨hg, h⟩
    exact ⟨hg.call k, hI.at_call hk hg h⟩
  · rintro g bus now hbus - ⟨hg, u, hu, hI'⟩
    exact ⟨hg.amid bus now, u, hu, hI.outside hbus hI'⟩

/-- A condition that every call on its slot preserves holds in every reachable state. -/
theorem at_reachable (hI : SlotInvariant s (fun _ => True) i I) (hi : i.toNat < slotCount)
    (h : Reachable s g) : g.At i I := by
  obtain ⟨bus, now, device, settings, ks, hrun⟩ := h
  have hslot : (Gateway.new bus now device settings).slots[i.toNat]? = some (Slot.empty i) := by
    simp only [Gateway.new, List.getElem?_map, List.getElem?_range hi, Option.map_some,
      UInt8.ofNat_toNat]
  have hempty : Slot.Found i (bus.device i) (Slot.empty i) := ⟨rfl, fun h => by cases h⟩
  exact (hI.at_run hrun (fun _ _ => trivial) (indexed_new _ _ _ _)
    ⟨_, hslot, hI.found trivial hempty⟩).2

/-- So it holds of every unit that is there. -/
theorem of_present (hI : SlotInvariant s (fun _ => True) i I) (h : Reachable s g) {u : Slot}
    (hu : g.present? i = .ok u) : I u (g.link.bus.device i) g.link.issued :=
  (hI.at_reachable (h.indexed.of_present hu).1 h).of_present hu

end SlotInvariant

/-- The small installation with a unit that was switched on. -/
def demoStarted : Gateway Simulation :=
  ((Gateway.new Simulation.demo 0 1 {}).call .discover).call (.apply 1 (.power true))

theorem reachable_demoStarted (s : Surroundings Simulation) : Reachable s demoStarted :=
  ((Reachable.new _ _ _ _).call _).call _

end Gateway

end ClimateBus
