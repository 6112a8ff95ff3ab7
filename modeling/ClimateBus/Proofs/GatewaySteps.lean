import ClimateBus.Proofs.Records
import ClimateBus.Proofs.SlotSteps
import Mathlib

/-!
What a call does to each slot of a gateway over the simulated adapter.

A call for one slot changes that slot and its unit alone. A discovery and a poll pass only read, so
the units stay as they are, and each slot is left as if it had been visited on its own.
-/
namespace ClimateBus

/-- What a discovery makes of a slot: an empty record with what was read from the unit. -/
structure Slot.Found (i : UInt8) (d : Device) (u : Slot) : Prop where
  fresh : u = { Slot.empty i with
    capability := u.capability, status := u.status, present := u.present }
  shown : u.present = true → u.status.image = d.status

/-- What a poll pass makes of a slot, told by the operations it issued. -/
inductive Slot.Polled (d : Device) (issued : List Issue) (u : Slot) : Slot → Prop
  | read (hread : ∃ e ∈ issued, e.slot = u.index ∧ e.succeeded = true) :
      Polled d issued u { u with status := ⟨d.status⟩ }
  | kept (hkept : ∀ e ∈ issued, e.slot = u.index → e.succeeded = false) : Polled d issued u u

theorem Slot.Polled.append {d : Device} {new new' : List Issue} {u u' : Slot}
    (h : Slot.Polled d new u u') (hnew' : ∀ e ∈ new', e.slot ≠ u.index) :
    Slot.Polled d (new ++ new') u u' := by
  cases h with
  | read hread =>
    obtain ⟨e, he, hslot⟩ := hread
    exact .read ⟨e, List.mem_append_left _ he, hslot⟩
  | kept hkept =>
    refine .kept fun e he hslot => ?_
    rcases List.mem_append.mp he with he | he
    · exact hkept e he hslot
    · exact absurd hslot (hnew' e he)

theorem Slot.Polled.prepend {d : Device} {new new' : List Issue} {u u' : Slot}
    (h : Slot.Polled d new' u u') (hnew : ∀ e ∈ new, e.slot ≠ u.index) :
    Slot.Polled d (new ++ new') u u' := by
  cases h with
  | read hread =>
    obtain ⟨e, he, hslot⟩ := hread
    exact .read ⟨e, List.mem_append_right _ he, hslot⟩
  | kept hkept =>
    refine .kept fun e he hslot => ?_
    rcases List.mem_append.mp he with he | he
    · exact absurd hslot (hnew e he)
    · exact hkept e he hslot

theorem Slot.discover_found (system : SystemImage) (l : BusLink Simulation) (u : Slot) :
    (u.discover system l).2.bus.registers = l.bus.registers ∧
      Slot.Found u.index (l.bus.device u.index) (u.discover system l).1 := by
  unfold Slot.discover
  dsimp only
  split_ifs
  · obtain ⟨link, hregisters, ⟨hr, -⟩ | ⟨e, hr, -⟩⟩ :=
      l.read_spec .capability u.reset.index u.reset.capability.image
    · rw [hr]
      dsimp only
      obtain ⟨link', hregisters', ⟨hr', -⟩ | ⟨e, hr', -⟩⟩ :=
        link.read_spec .status u.reset.index u.reset.status.image
      · rw [hr']
        refine ⟨hregisters'.trans hregisters, rfl, fun _ => ?_⟩
        rw [Simulation.block_of_registers hregisters]
        rfl
      · rw [hr']
        exact ⟨hregisters'.trans hregisters, rfl, fun h => by cases h⟩
    · rw [hr]
      exact ⟨hregisters, rfl, fun h => by cases h⟩
  · exact ⟨rfl, rfl, fun h => by cases h⟩

namespace Gateway

theorem scan_found (system : SystemImage) (us : List Slot) (l : BusLink Simulation) :
    (scan system l us).2.bus.registers = l.bus.registers ∧
      ∀ (k : Nat) (u : Slot), us[k]? = some u → ∃ u', (scan system l us).1[k]? = some u' ∧
        Slot.Found u.index (l.bus.device u.index) u' := by
  induction us generalizing l with
  | nil => exact ⟨rfl, by simp⟩
  | cons v rest ih =>
    obtain ⟨hregisters, hfound⟩ := v.discover_found system l
    obtain ⟨hregisters', hrest⟩ := ih (v.discover system l).2
    refine ⟨hregisters'.trans hregisters, ?_⟩
    intro k u hu
    cases k with
    | zero =>
      obtain rfl : v = u := by simpa using hu
      exact ⟨_, rfl, hfound⟩
    | succ k =>
      obtain ⟨u', hu', hfound'⟩ := hrest k u (by simpa using hu)
      rw [Simulation.device_of_registers hregisters] at hfound'
      exact ⟨u', by simpa [scan] using hu', hfound'⟩

/-- A pass goes on to the rest of the slots with the first one kept or read. -/
theorem refresh_cons (now : UInt64) (window : UInt32) (l : BusLink Simulation) (v : Slot)
    (rest : List Slot) : ∃ (l' : BusLink Simulation) (v' : Slot) (new : List Issue),
      (refresh now window l (v :: rest)).2 =
        (v' :: (refresh now window l' rest).2.1, (refresh now window l' rest).2.2) ∧
      l'.bus.registers = l.bus.registers ∧ l'.issued = l.issued ++ new ∧
      (∀ e ∈ new, e.kind = .status ∧ e.slot = v.index) ∧
      Slot.Polled (l.bus.device v.index) new v v' := by
  rw [refresh_visit]
  split_ifs with hread
  · obtain ⟨link, hregisters, ⟨hr, hissued⟩ | ⟨e, hr, hissued⟩⟩ :=
      l.read_spec .status v.index v.status.image
    · rw [hr]
      exact ⟨link, { v with status := ⟨l.bus.block .status v.index⟩ }, _, rfl, hregisters, hissued,
        by simp [BusLink.readIssue], .read ⟨_, List.mem_singleton_self _, rfl, rfl⟩⟩
    · rw [hr]
      exact ⟨link, v, _, rfl, hregisters, hissued, by simp [BusLink.readIssue],
        .kept (by simp [BusLink.readIssue])⟩
  · exact ⟨l, v, [], rfl, rfl, by simp, by simp, .kept (by simp)⟩

/-- A pass over slots with different addresses: no slot answers for another one. -/
theorem refresh_polled (now : UInt64) (window : UInt32) (us : List Slot)
    (hnodup : (us.map Slot.index).Nodup) (l : BusLink Simulation) :
    let r := refresh now window l us
    r.2.2.bus.registers = l.bus.registers ∧ ∃ new : List Issue, r.2.2.issued = l.issued ++ new ∧
      (∀ e ∈ new, e.kind = .status ∧ e.slot ∈ us.map Slot.index) ∧
      ∀ (k : Nat) (u : Slot), us[k]? = some u →
        ∃ u', r.2.1[k]? = some u' ∧ Slot.Polled (l.bus.device u.index) new u u' := by
  induction us generalizing l with
  | nil => exact ⟨rfl, [], by simp [refresh], by simp, by simp⟩
  | cons v rest ih =>
    obtain ⟨hfirst, hnodup⟩ := List.nodup_cons.mp hnodup
    obtain ⟨l', v', new, hstep, hregisters, hissued, hnew, hpolled⟩ :=
      refresh_cons now window l v rest
    obtain ⟨hregisters', new', hissued', hnew', hrest⟩ := ih hnodup l'
    dsimp only
    rw [hstep]
    refine ⟨hregisters'.trans hregisters, new ++ new', ?_, ?_, ?_⟩
    · rw [hissued', hissued, List.append_assoc]
    · intro e he
      rcases List.mem_append.mp he with he | he
      · exact ⟨(hnew e he).1, by simp [(hnew e he).2]⟩
      · exact ⟨(hnew' e he).1, List.mem_cons_of_mem _ (hnew' e he).2⟩
    · intro k u hu
      -- Addresses differ, so the reads of the head are none of the others', and the other way round.
      cases k with
      | zero =>
        obtain rfl : v = u := by simpa using hu
        refine ⟨v', rfl, hpolled.append fun e he hslot => ?_⟩
        exact hfirst (hslot ▸ (hnew' e he).2)
      | succ k =>
        obtain ⟨u', hu', hpolled'⟩ := hrest k u (by simpa using hu)
        have hne : v.index ≠ u.index := by
          intro heq
          exact hfirst (heq ▸ List.mem_map_of_mem (List.mem_of_getElem? (by simpa using hu)))
        refine ⟨u', by simpa using hu', ?_⟩
        rw [Simulation.device_of_registers hregisters] at hpolled'
        exact hpolled'.prepend fun e he hslot => hne ((hnew e he).2.symm.trans hslot)

/-- A discovery that gets no system block forgets nothing; any other one visits every slot. -/
theorem discover_slots (g : Gateway Simulation) :
    g.discover.2.link.bus.registers = g.link.bus.registers ∧
      g.discover.2.slots.map Slot.index = g.slots.map Slot.index ∧
      ((g.discover.2.slots = g.slots ∧
          ∃ e : Issue, e.kind = .system ∧ g.discover.2.link.issued = g.link.issued ++ [e]) ∨
        ∀ (k : Nat) (u : Slot), g.slots[k]? = some u →
          ∃ u', g.discover.2.slots[k]? = some u' ∧
            Slot.Found u.index (g.link.bus.device u.index) u') := by
  unfold discover
  obtain ⟨link, hregisters, ⟨hr, hissued⟩ | ⟨e, hr, hissued⟩⟩ :=
    g.link.read_spec .system 0 g.system.image
  · rw [hr]
    obtain ⟨hregisters', hfound⟩ :=
      scan_found ⟨g.link.bus.block .system 0⟩ g.slots link
    refine ⟨hregisters'.trans hregisters, map_index_scan _ _ _, .inr fun k u hu => ?_⟩
    obtain ⟨u', hu', hfound'⟩ := hfound k u hu
    rw [Simulation.device_of_registers hregisters] at hfound'
    exact ⟨u', hu', hfound'⟩
  · rw [hr]
    exact ⟨hregisters, rfl, .inl ⟨rfl, _, rfl, hissued⟩⟩

section Present

variable {β : Type} {g : Gateway β} {i : UInt8} {u : Slot}
  {step : BusLink β → Slot → SlotStep β}

theorem present?_eq_ok :
    g.present? i = .ok u ↔ g.slots[i.toNat]? = some u ∧ u.present = true := by
  cases hu : g.slots[i.toNat]? with
  | none => simp [present?, slot?, hu, bind, Except.bind]
  | some v =>
    cases hv : v.present with
    | false =>
      simp only [present?, slot?, hu, bind, Except.bind, hv, Bool.false_eq_true, if_false,
        reduceCtorEq, Option.some.injEq, false_iff, not_and]
      rintro rfl
      rw [hv]
      exact Bool.false_ne_true
    | true =>
      simp only [present?, slot?, hu, bind, Except.bind, hv, if_true, Except.ok.injEq,
        Option.some.injEq]
      exact ⟨fun h => ⟨h, h ▸ hv⟩, And.left⟩

theorem eq_of_present (h : g.present? i = .ok u) {v : Slot} (hv : g.slots[i.toNat]? = some v) :
    u = v :=
  Option.some.inj ((present?_eq_ok.mp h).1.symm.trans hv)

theorem set_of_present (h : g.present? i = .ok u) : g.slots.set i.toNat u = g.slots := by
  obtain ⟨hlt, hslot⟩ := List.getElem?_eq_some_iff.mp (present?_eq_ok.mp h).1
  rw [← hslot, List.set_getElem_self]

/-- The number of a slot is looked at first, and then whether a unit is in it. -/
theorem present?_eq_error {e : GatewayError} : g.present? i = .error e ↔
    g.slots[i.toNat]? = none ∧ e = .invalidUnit i ∨
      ∃ u, g.slots[i.toNat]? = some u ∧ u.present = false ∧ e = .unitNotPresent i := by
  cases hu : g.slots[i.toNat]? with
  | none =>
    have h : g.present? i = .error (.invalidUnit i) := by
      simp only [present?, slot?, hu, bind, Except.bind]
    simp [h, @eq_comm _ e]
  | some v =>
    cases hv : v.present with
    | false =>
      have h : g.present? i = .error (.unitNotPresent i) := by
        simp only [present?, slot?, hu, bind, Except.bind, hv, Bool.false_eq_true, if_false]
      simp [h, hv, @eq_comm _ e]
    | true => simp [present?_eq_ok.mpr ⟨hu, hv⟩, hv]

theorem onPresent_absent {e : GatewayError} (h : g.present? i = .error e) :
    g.onPresent i step = (.error e, g) := by
  simp only [onPresent, h]

theorem onPresent_present (h : g.present? i = .ok u) :
    g.onPresent i step = ((step g.link u).result.mapError .bus,
      { g with
        link := (step g.link u).link
        slots := g.slots.set i.toNat (step g.link u).slot }) := by
  simp only [onPresent, h]

theorem onPresent_eq_ok : (g.onPresent i step).1 = .ok () ↔
    ∃ u, g.present? i = .ok u ∧ (step g.link u).result = .ok () := by
  cases hu : g.present? i with
  | error e => simp [onPresent_absent hu]
  | ok u =>
    rw [onPresent_present hu]
    cases hresult : (step g.link u).result <;> simp [Except.mapError, hresult]

/-- A step leaves its unit present unless it says otherwise. -/
theorem present?_onPresent (h : g.present? i = .ok u)
    (hpresent : (step g.link u).slot.present = u.present) :
    (g.onPresent i step).2.present? i = .ok (step g.link u).slot := by
  obtain ⟨hslot, hu⟩ := present?_eq_ok.mp h
  obtain ⟨hlt, -⟩ := List.getElem?_eq_some_iff.mp hslot
  rw [present?_eq_ok, onPresent_present h]
  exact ⟨List.getElem?_set_self hlt, hpresent.trans hu⟩

/-- A step gets the record of its unit only. -/
theorem getElem?_onPresent_of_ne {j : Nat} (hne : j ≠ i.toNat) :
    (g.onPresent i step).2.slots[j]? = g.slots[j]? := by
  cases hu : g.present? i with
  | error e => rw [onPresent_absent hu]
  | ok u => rw [onPresent_present hu, List.getElem?_set_ne hne.symm]

theorem getElem?_onPresent_ne {j : UInt8} (hne : i ≠ j) :
    (g.onPresent i step).2.slots[j.toNat]? = g.slots[j.toNat]? :=
  getElem?_onPresent_of_ne fun h => hne (UInt8.toNat_inj.mp h.symm)

/-- A step finds no other unit and loses none. -/
theorem present?_onPresent_ne {j : UInt8} (hne : i ≠ j) :
    (g.onPresent i step).2.present? j = g.present? j := by
  simp only [present?, slot?, getElem?_onPresent_ne hne]

/-- What the step leaves of its record is left of all records. -/
theorem map_onPresent {α : Type} {f : Slot → α} (hf : ∀ l u, f (step l u).slot = f u) :
    (g.onPresent i step).2.slots.map f = g.slots.map f := by
  cases hu : g.present? i with
  | error e => rw [onPresent_absent hu]
  | ok u =>
    obtain ⟨hlt, hslot⟩ := List.getElem?_eq_some_iff.mp (present?_eq_ok.mp hu).1
    rw [onPresent_present hu]
    have hlength : i.toNat < (g.slots.map f).length := by rwa [List.length_map]
    have hold : f u = (g.slots.map f)[i.toNat] := by rw [List.getElem_map, hslot]
    rw [List.map_set, hf, hold, List.set_getElem_self]

/-- Only the bus makes a call for one slot fail in this way. -/
theorem onPresent_eq_bus {e : TransportError} : (g.onPresent i step).1 = .error (.bus e) ↔
    ∃ u, g.present? i = .ok u ∧ (step g.link u).result = .error e := by
  cases hu : g.present? i with
  | error e' =>
    rw [onPresent_absent hu]
    simp only [Except.error.injEq, reduceCtorEq, false_and, exists_false, iff_false]
    rintro rfl
    rcases present?_eq_error.mp hu with ⟨-, h⟩ | ⟨u, -, -, h⟩ <;> cases h
  | ok u =>
    rw [onPresent_present hu]
    cases hresult : (step g.link u).result <;> simp [Except.mapError, hresult]

end Present

section Indexed

variable {β : Type} {g : Gateway β}

/-- Every record stands at its own address. -/
def Indexed (g : Gateway β) : Prop :=
  g.slots.map Slot.index = (List.range slotCount).map UInt8.ofNat

theorem indexed_new (bus : β) (now : UInt64) (device : UInt8) (settings : GatewaySettings) :
    (Gateway.new bus now device settings).Indexed := by
  simp only [Indexed, Gateway.new, List.map_map]
  rfl

theorem Indexed.nodup (h : g.Indexed) : (g.slots.map Slot.index).Nodup := by
  rw [h]
  decide

theorem Indexed.length_slots (h : g.Indexed) : g.slots.length = slotCount := by
  simpa using congrArg List.length h

theorem Indexed.index_eq (h : g.Indexed) {i : UInt8} {u : Slot} (hu : g.slots[i.toNat]? = some u) :
    i.toNat < slotCount ∧ u.index = i := by
  obtain ⟨hi, -⟩ := List.getElem?_eq_some_iff.mp hu
  rw [h.length_slots] at hi
  have hindex : (g.slots.map Slot.index)[i.toNat]? = some u.index := by
    rw [List.getElem?_map, hu, Option.map_some]
  rw [h, List.getElem?_map, List.getElem?_range hi, Option.map_some, UInt8.ofNat_toNat] at hindex
  exact ⟨hi, (Option.some.inj hindex).symm⟩

theorem Indexed.of_present (h : g.Indexed) {i : UInt8} {u : Slot} (hu : g.present? i = .ok u) :
    i.toNat < slotCount ∧ u.index = i := h.index_eq (present?_eq_ok.mp hu).1

variable {i : UInt8} {step : BusLink β → Slot → SlotStep β}

theorem Indexed.amid (hg : g.Indexed) (bus : β) (now : UInt64) : (g.amid bus now).Indexed := hg

theorem Indexed.onPresent (hg : g.Indexed) (hstep : ∀ l u, (step l u).slot.index = u.index) :
    (g.onPresent i step).2.Indexed := by
  rw [Indexed, map_onPresent hstep]
  exact hg

/-- After a step every record is the one that was stepped, or an old one with another address. -/
theorem Indexed.mem_onPresent (hg : g.Indexed) {u v : Slot} (hu : g.present? i = .ok u)
    (hv : v ∈ (g.onPresent i step).2.slots) :
    v = (step g.link u).slot ∨ v ∈ g.slots ∧ v.index ≠ i := by
  obtain ⟨hslot, -⟩ := present?_eq_ok.mp hu
  rw [onPresent_present hu] at hv
  obtain ⟨k, hk⟩ := List.mem_iff_getElem?.mp hv
  rw [List.getElem?_set] at hk
  split_ifs at hk with hsame hlt
  · exact .inl (Option.some.inj hk).symm
  · refine .inr ⟨List.mem_of_getElem? hk, fun hindex => hsame ?_⟩
    -- No two records have one address, so the record would be the one that was stepped.
    have hlength : i.toNat < (g.slots.map Slot.index).length := by
      rw [List.length_map]
      exact (List.getElem?_eq_some_iff.mp hslot).1
    refine (List.getElem?_inj hlength hg.nodup).mp ?_
    rw [List.getElem?_map, List.getElem?_map, hslot, hk, Option.map_some, Option.map_some, hindex,
      (hg.index_eq hslot).2]

variable [Bus β]

theorem Indexed.discover (hg : g.Indexed) : g.discover.2.Indexed := by
  unfold Gateway.discover
  dsimp only
  split
  · exact hg
  · exact (map_index_scan _ _ _).trans hg

theorem Indexed.call (hg : g.Indexed) (k : Call) : (g.call k).Indexed := by
  cases k with
  | discover => exact hg.discover
  | poll => exact (map_index_refresh _ _ _ _).trans hg
  | readError j => exact hg.onPresent fun l u => Slot.readError_index l u _
  | prepare j => exact hg.onPresent fun l u => (Slot.prepare_record _ l u).index
  | commit j => exact hg.onPresent fun l u => (Slot.commit_record l u).index
  | apply j c => exact hg.onPresent fun l u => Slot.apply_index _ l u c

theorem Reachable.indexed {s : Surroundings β} (h : Reachable s g) : g.Indexed :=
  h.invariant indexed_new (fun _ k hg => hg.call k) fun _ bus now _ _ hg => hg.amid bus now

theorem Run.indexed {s : Surroundings β} {start : Gateway β} {ks : List Call}
    (h : Run s start ks g) (hstart : start.Indexed) : g.Indexed :=
  h.preserves (fun _ => True) (fun _ _ => trivial) hstart (fun _ k _ hg => hg.call k)
    fun _ bus now _ _ hg => hg.amid bus now

end Indexed

end Gateway

end ClimateBus
