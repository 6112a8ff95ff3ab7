import ClimateBus.Proofs.BufferContract
import ClimateBus.Proofs.SlotInvariants
import ClimateBus.Supervisor
import Mathlib

/-!
The table of slots, over any bus that leaves the buffer of a failed read alone.

A table has one record for each address. Who is in it is settled by a discovery alone, together with
the system block and the count (`Gateway.Consistent`); every other call leaves the entries as they
are (`Gateway.table_call`). So a report has as many lines as its header says, and a poll pass
accounts for every unit.
-/
namespace ClimateBus

/-- What the table says about a slot. -/
@[ext]
structure SlotEntry where
  index : UInt8
  id : String
  present : Bool

namespace Slot

def entry (u : Slot) : SlotEntry := ⟨u.index, u.id, u.present⟩

/-- The slot is shown under the id of its address, and a unit in it is connected and not in
error. -/
structure Sound (system : SystemImage) (u : Slot) : Prop where
  id : u.id = displayId u.index
  healthy : u.present = true → system.healthy u.index.toNat = true

theorem Sound.of_entry {system : SystemImage} {u u' : Slot} (h : u.Sound system)
    (hentry : u'.entry = u.entry) : u'.Sound system := by
  obtain ⟨hindex, hid, hpresent⟩ := SlotEntry.ext_iff.mp hentry
  constructor
  · exact hid.trans (h.id.trans (congrArg displayId hindex.symm))
  · intro hthere
    have hindex' : u'.index = u.index := hindex
    rw [hindex']
    exact h.healthy (hpresent.symm.trans hthere)

theorem SameRecord.entry {u u' : Slot} (h : SameRecord u u') : u'.entry = u.entry := by
  obtain ⟨_, rfl⟩ := h
  rfl

theorem edit_entry (u : Slot) (c : Command) : (u.edit c).entry = u.entry := by
  cases c <;> simp only [edit, entry]

section Steps

variable {β : Type} [Bus β] (l : BusLink β) (u : Slot)

theorem apply_entry (window : UInt32) (c : Command) :
    (apply window c l u).slot.entry = u.entry := by
  rw [(apply_record window l u c).entry]
  split_ifs
  · exact u.edit_entry c
  · rfl

theorem readError_entry (secs : UInt32) : (readError secs l u).slot.entry = u.entry := by
  unfold readError
  split_ifs
  · rfl
  · dsimp only
    split <;> rfl

/-- A discovery looks for a unit in a healthy slot only. -/
theorem discover_sound (system : SystemImage) : (u.discover system l).1.Sound system := by
  unfold discover
  dsimp only
  split_ifs with hhealthy
  · split
    · exact ⟨rfl, fun h => by cases h⟩
    · split
      · exact ⟨rfl, fun h => by cases h⟩
      · exact ⟨rfl, fun _ => hhealthy⟩
  · exact ⟨rfl, fun h => by cases h⟩

end Steps

end Slot

namespace Gateway

variable {β : Type}

def table (g : Gateway β) : List SlotEntry := g.slots.map Slot.entry

/-- The records, the count and the system block stem from one discovery. -/
structure Consistent (g : Gateway β) : Prop where
  indexed : g.Indexed
  sound : ∀ u ∈ g.slots, u.Sound g.system
  counted : g.discovered = g.presentSlots.length

theorem length_presentSlots (g : Gateway β) :
    g.presentSlots.length = (g.table.filter SlotEntry.present).length := by
  rw [presentSlots, table, List.filter_map, List.length_map]
  rfl

/-- Whatever else changed, the same entries under the same system block are as consistent. -/
theorem Consistent.of_table {g g' : Gateway β} (h : g.Consistent) (htable : g'.table = g.table)
    (hsystem : g'.system = g.system) (hcount : g'.discovered = g.discovered) : g'.Consistent where
  indexed := by
    have hindices (g : Gateway β) : g.slots.map Slot.index = g.table.map SlotEntry.index := by
      rw [table, List.map_map]
      rfl
    rw [Indexed, hindices, htable, ← hindices]
    exact h.indexed
  sound := by
    intro u' hu'
    have hentry : u'.entry ∈ g.table := htable ▸ List.mem_map_of_mem hu'
    obtain ⟨u, hu, hsame⟩ := List.mem_map.mp hentry
    rw [hsystem]
    exact (h.sound u hu).of_entry hsame.symm
  counted := by rw [hcount, h.counted, length_presentSlots, length_presentSlots, htable]

theorem consistent_new (bus : β) (now : UInt64) (device : UInt8) (settings : GatewaySettings) :
    (Gateway.new bus now device settings).Consistent where
  indexed := indexed_new bus now device settings
  sound := by
    intro u hu
    obtain ⟨k, -, rfl⟩ := List.mem_map.mp hu
    exact ⟨rfl, fun h => by cases h⟩
  counted := by
    have hnone : (Gateway.new bus now device settings).presentSlots = [] := by
      rw [presentSlots, List.filter_eq_nil_iff]
      intro u hu
      obtain ⟨k, -, rfl⟩ := List.mem_map.mp hu
      exact Bool.false_ne_true
    rw [hnone]
    rfl

/-- A step that leaves the entry of its slot leaves the table. -/
theorem table_onPresent (g : Gateway β) (i : UInt8) {step : BusLink β → Slot → SlotStep β}
    (hstep : ∀ l u, (step l u).slot.entry = u.entry) :
    (g.onPresent i step).2.table = g.table ∧ (g.onPresent i step).2.system = g.system ∧
      (g.onPresent i step).2.discovered = g.discovered := by
  refine ⟨map_onPresent hstep, ?_⟩
  cases hu : g.present? i with
  | error e =>
    rw [onPresent_absent hu]
    exact ⟨rfl, rfl⟩
  | ok u =>
    rw [onPresent_present hu]
    exact ⟨rfl, rfl⟩

variable [Bus β]

/-- No call but a discovery changes who is in the table. -/
theorem table_call (g : Gateway β) {k : Call} (hk : k ≠ .discover) :
    (g.call k).table = g.table ∧ (g.call k).system = g.system ∧
      (g.call k).discovered = g.discovered := by
  cases k with
  | discover => exact absurd rfl hk
  | poll => exact ⟨map_refresh (fun _ _ => rfl) _ _ _ _, rfl, rfl⟩
  | readError i => exact g.table_onPresent i fun l u => u.readError_entry l _
  | prepare i => exact g.table_onPresent i fun l u => (Slot.prepare_record _ l u).entry
  | commit i => exact g.table_onPresent i fun l u => (Slot.commit_record l u).entry
  | apply i c => exact g.table_onPresent i fun l u => u.apply_entry l _ c

theorem scan_sound (system : SystemImage) (us : List Slot) (l : BusLink β) :
    ∀ u ∈ (scan system l us).1, u.Sound system := by
  induction us generalizing l with
  | nil => simp [scan]
  | cons v rest ih =>
    intro u hu
    rcases List.mem_cons.mp hu with rfl | hu
    · exact v.discover_sound l system
    · exact ih _ u hu

/-- A discovery that gets no system block keeps the old one; any other one starts the table anew. -/
theorem Consistent.discover {g : Gateway β} (hbus : Bus.KeepsBuffer β) (h : g.Consistent) :
    g.discover.2.Consistent := by
  have hkept : ∀ e, (g.link.read .system 0 g.system.image).result = .error e →
      (g.link.read .system 0 g.system.image).buffer = g.system.image :=
    fun e he => hbus _ _ _ _ _ e he
  unfold Gateway.discover
  generalize g.link.read .system 0 g.system.image = r at hkept ⊢
  obtain ⟨result, buffer, link⟩ := r
  cases result with
  | error e =>
    have hbuffer : buffer = g.system.image := hkept e rfl
    exact h.of_table rfl (congrArg SystemImage.mk hbuffer) rfl
  | ok _ =>
    have hindexed : (scan ⟨buffer⟩ link g.slots).1.map Slot.index = g.slots.map Slot.index :=
      map_index_scan _ _ _
    exact ⟨hindexed.trans h.indexed, scan_sound _ _ _, rfl⟩

theorem Consistent.call {g : Gateway β} (hbus : Bus.KeepsBuffer β) (h : g.Consistent) (k : Call) :
    (g.call k).Consistent := by
  by_cases hk : k = .discover
  · subst hk
    exact h.discover hbus
  · obtain ⟨htable, hsystem, hcount⟩ := g.table_call hk
    exact h.of_table htable hsystem hcount

theorem Reachable.consistent {s : Surroundings β} {g : Gateway β} (hbus : Bus.KeepsBuffer β)
    (h : Reachable s g) : g.Consistent :=
  h.invariant consistent_new (fun _ k hg => hg.call hbus k) fun _ _ _ _ _ hg => hg.of_table rfl rfl rfl

/-- A pass reads every unit, leaves it out or fails on it. -/
theorem refresh_accounts (now : UInt64) (window : UInt32) (us : List Slot) (l : BusLink β) :
    let summary := (refresh now window l us).1
    summary.polled + summary.skipped + summary.failed = (us.filter (·.present)).length := by
  induction us generalizing l with
  | nil => rfl
  | cons v rest ih =>
    unfold refresh
    cases hpresent : v.present with
    | false => simpa [hpresent] using ih l
    | true =>
      simp only [Bool.not_true, Bool.false_eq_true, if_false, List.filter_cons, hpresent, if_true,
        List.length_cons]
      split_ifs
      · rw [← ih l]
        dsimp only
        omega
      · rw [← ih (l.read .status v.index v.status.image).link]
        split <;> dsimp only <;> omega

/-- There are 64 records, each under its own address and the id made of it. The count of the last
discovery is the number of units that are there, all of them connected and not in error. So a
report has as many lines behind its header as that says, and a poll pass leaves no unit out. -/
theorem table_in_order (hbus : Bus.KeepsBuffer β) {s : Surroundings β} {g : Gateway β}
    (h : Reachable s g) :
    g.slots.length = 64 ∧
      (∀ k < 64, ∃ u, g.slots[k]? = some u ∧ u.index.toNat = k ∧
        u.id = Slot.displayId (UInt8.ofNat k) ∧
        (u.present = true → g.system.connected k = true ∧ g.system.inError k = false)) ∧
      g.discovered = g.presentSlots.length ∧
      (∀ sup : Supervisor β, sup.gateway = g → sup.held = false →
        ∃ lines : List String, sup.reportStatus.1 = .ok (s!"units={g.discovered}" :: lines) ∧
          lines.length = g.discovered) ∧
      g.poll.1.polled + g.poll.1.skipped + g.poll.1.failed = g.discovered := by
  obtain ⟨hindexed, hsound, hcounted⟩ := h.consistent hbus
  have hlength : g.slots.length = 64 := by simpa [slotCount] using congrArg List.length hindexed
  refine ⟨hlength, ?records, hcounted, ?report, ?pass⟩
  case records =>
    intro k hk
    have hnat : (UInt8.ofNat k).toNat = k := UInt8.toNat_ofNat_of_lt' (by simp only [UInt8.size]; omega)
    have hlt : k < g.slots.length := hlength.symm ▸ hk
    have hslot : g.slots[(UInt8.ofNat k).toNat]? = some g.slots[k] := by
      rw [hnat, List.getElem?_eq_getElem hlt]
    have hindex := (hindexed.index_eq hslot).2
    obtain ⟨hid, hhealthy⟩ := hsound _ (List.mem_of_getElem? hslot)
    rw [hindex] at hid hhealthy
    rw [hnat] at hhealthy hslot
    refine ⟨_, hslot, by rw [hindex, hnat], hid, fun hpresent => ?_⟩
    simpa [SystemImage.healthy] using hhealthy hpresent
  case report =>
    rintro sup rfl hheld
    refine ⟨sup.gateway.presentSlots.map Supervisor.statusLine, ?_, ?_⟩
    · simp only [Supervisor.reportStatus, Supervisor.withGateway, hheld, Bool.false_eq_true, if_false]
      rfl
    · rw [List.length_map, hcounted]
  case pass =>
    rw [hcounted]
    exact refresh_accounts _ _ _ _

/-- The started unit and its neighbours, after a discovery that got no system block. -/
def demoLost : Gateway Simulation :=
  (demoStarted.amid (demoStarted.link.bus.failReads .input 0 .timeout) 1000).call .discover

theorem table_in_order_demo : Bus.KeepsBuffer Simulation ∧
    demoLost.slots.length = 64 ∧ demoLost.presentSlots.length = 4 ∧
    demoLost.poll.1.polled + demoLost.poll.1.skipped + demoLost.poll.1.failed = 4 ∧
    demoLost.system.connected 17 = true := by
  have hreachable : Reachable ⟨fun _ _ => True, fun _ _ => True⟩ demoLost := by
    unfold demoLost
    exact ((reachable_demoStarted _).amid trivial trivial).call .discover
  have hfour : demoLost.discovered = 4 := by decide +kernel
  have hthere : (demoLost.slots[17]?.map Slot.present) = some true := by decide +kernel
  obtain ⟨hlength, hrecords, hcounted, -, hpass⟩ :=
    table_in_order Simulation.keepsBuffer hreachable
  obtain ⟨u, hu, -, -, hhealthy⟩ := hrecords 17 (by decide)
  rw [hu] at hthere
  refine ⟨Simulation.keepsBuffer, hlength, hcounted ▸ hfour, hpass.trans hfour, ?_⟩
  exact (hhealthy (Option.some.inj hthere)).1

end Gateway

end ClimateBus
