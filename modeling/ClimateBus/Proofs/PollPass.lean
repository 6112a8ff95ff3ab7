import ClimateBus.Proofs.LinkHistory
import ClimateBus.Proofs.SlotTable
import Mathlib

/-!
What a poll pass reads, over any bus that leaves the buffer of a failed read alone.

A pass reads the status of the units that are due, one after the other, and takes notice of no
answer before it goes on (`BusLink.readStatuses`). Each answer belongs to the record it was asked
for and to no other one: that is told by the records, so that a unit that fails or is left out
cannot move the answers of the units behind it.
-/
namespace ClimateBus

namespace Slot

/-- A poll pass reads the status of a unit that is there and was not written recently. -/
def due (u : Slot) (now : UInt64) (window : UInt32) : Bool :=
  u.present && !u.holding.writeWithin now window

theorem present_and_recent (u : Slot) (now : UInt64) (window : UInt32) :
    (u.present && u.holding.writeWithin now window) = (u.present && !u.due now window) := by
  rw [due]
  cases u.present <;> simp

/-- The record once its status was asked for: a failed read tells nothing. -/
def answered {β : Type} (u : Slot) (r : BlockRead β BlockKind.status.size) : Slot :=
  match r.result with
  | .ok () => { u with status := ⟨r.buffer⟩ }
  | .error _ => u

end Slot

namespace BusLink

variable {β : Type} [Bus β]

/-- Reads the status of some slots, one after the other, and gives the answer for each of them. -/
def readStatuses (l : BusLink β) :
    List Slot → List (Slot × BlockRead β BlockKind.status.size) × BusLink β
  | [] => ([], l)
  | u :: rest =>
    let r := l.read .status u.index u.status.image
    let (answers, l) := readStatuses r.link rest
    ((u, r) :: answers, l)

theorem map_fst_readStatuses (l : BusLink β) (us : List Slot) :
    (l.readStatuses us).1.map Prod.fst = us := by
  induction us generalizing l with
  | nil => rfl
  | cons u rest ih => exact congrArg (u :: ·) (ih _)

/-- Each of the slots is asked once, in this order. -/
theorem readStatuses_issued (l : BusLink β) (us : List Slot) :
    ∃ new, (l.readStatuses us).2.issued = l.issued ++ new ∧
      new.map Issue.account = (l.readStatuses us).1.map fun p =>
        (.read .input (BlockKind.status.address p.1.index) 6, p.2.result.isOk) := by
  induction us generalizing l with
  | nil => exact ⟨[], (List.append_nil _).symm, rfl⟩
  | cons u rest ih =>
    let r := l.read .status u.index u.status.image
    let e := l.readIssue .status u.index r.result.isOk r.link.now
    have hissues : l.Issues e r.link := .read .status u.index u.status.image
    obtain ⟨new, hissued, haccounts⟩ := ih r.link
    refine ⟨e :: new, ?_, congrArg (e.account :: ·) haccounts⟩
    rw [readStatuses, hissued, hissues.issued, List.append_assoc, List.singleton_append]

end BusLink

namespace Gateway

variable {β : Type} {g : Gateway β}

/-- A record of the table stands at the place its address gives. -/
theorem Indexed.place (h : g.Indexed) {k : Nat} {u : Slot} (hu : g.slots[k]? = some u) :
    u.index.toNat = k := by
  have hk : k < slotCount := h.length_slots ▸ (List.getElem?_eq_some_iff.mp hu).1
  have hnat : (UInt8.ofNat k).toNat = k :=
    UInt8.toNat_ofNat_of_lt' (hk.trans (by decide : slotCount < UInt8.size))
  rw [(h.index_eq (hnat.symm ▸ hu)).2, hnat]

/-- The addresses rise from one record to the next. -/
theorem Indexed.rising (h : g.Indexed) :
    (g.slots.map fun u => u.index.toNat).Pairwise (· < ·) := by
  have hplaces : (g.slots.map Slot.index).map UInt8.toNat = List.range slotCount := by
    rw [h]
    decide
  rw [List.map_map] at hplaces
  change (g.slots.map (UInt8.toNat ∘ Slot.index)).Pairwise _
  rw [hplaces]
  exact List.pairwise_lt_range

variable [Bus β]

/-- A slot that is due is read, and the pass goes on whatever the answer is. -/
theorem refresh_due (hbus : Bus.KeepsBuffer β) {now : UInt64} {window : UInt32} {v : Slot}
    (hdue : v.due now window = true) (l : BusLink β) (rest : List Slot) :
    let r := l.read .status v.index v.status.image
    let after := refresh now window r.link rest
    refresh now window l (v :: rest) =
      (if r.result.isOk then { after.1 with polled := after.1.polled + 1 }
        else { after.1 with failed := after.1.failed + 1 },
        v.answered r :: after.2.1, after.2.2) := by
  obtain ⟨hpresent, hwritten⟩ : v.present = true ∧ v.holding.writeWithin now window = false := by
    simpa [Slot.due] using hdue
  have hkept : ∀ e, (l.read .status v.index v.status.image).result = .error e →
      (l.read .status v.index v.status.image).buffer = v.status.image :=
    fun e he => hbus _ _ _ _ _ e he
  rw [refresh, if_neg (by simp [hpresent]), if_neg (by simp [hwritten])]
  dsimp only [Slot.answered]
  generalize l.read .status v.index v.status.image = r at hkept ⊢
  obtain ⟨result, buffer, l'⟩ := r
  cases result with
  | ok _ => rfl
  | error e =>
    obtain rfl : buffer = v.status.image := hkept e rfl
    rfl

/-- A slot that is not due is passed over; it counts if there is a unit in it. -/
theorem refresh_not_due {now : UInt64} {window : UInt32} {v : Slot}
    (hdue : v.due now window = false) (l : BusLink β) (rest : List Slot) :
    let after := refresh now window l rest
    refresh now window l (v :: rest) =
      (if v.present then { after.1 with skipped := after.1.skipped + 1 } else after.1,
        v :: after.2.1, after.2.2) := by
  cases hpresent : v.present with
  | false => simp [refresh, hpresent]
  | true =>
    have hwritten : v.holding.writeWithin now window = true := by
      simpa [Slot.due, hpresent] using hdue
    simp [refresh, hpresent, hwritten]

/-- What becomes of a pass over some slots, told by the answers to its reads. -/
structure PassesOver (now : UInt64) (window : UInt32) (l : BusLink β) (us : List Slot) : Prop where
  link : (refresh now window l us).2.2 = (l.readStatuses (us.filter (·.due now window))).2
  summary : (refresh now window l us).1 =
    { polled := (l.readStatuses (us.filter (·.due now window))).1.countP (·.2.result.isOk)
      skipped := us.countP fun u => u.present && !u.due now window
      failed := (l.readStatuses (us.filter (·.due now window))).1.countP (!·.2.result.isOk) }
  read : ∀ p ∈ (l.readStatuses (us.filter (·.due now window))).1,
    ∃ k : Nat, us[k]? = some p.1 ∧ (refresh now window l us).2.1[k]? = some (p.1.answered p.2)
  passed : ∀ (k : Nat) (u : Slot), us[k]? = some u → u.due now window = false →
    (refresh now window l us).2.1[k]? = some u

theorem passesOver (hbus : Bus.KeepsBuffer β) (now : UInt64) (window : UInt32) (us : List Slot)
    (l : BusLink β) : PassesOver now window l us := by
  induction us generalizing l with
  | nil => exact ⟨rfl, rfl, by simp [BusLink.readStatuses], by simp⟩
  | cons v rest ih =>
    cases hdue : v.due now window with
    | true =>
      obtain ⟨hlink, hsummary, hread, hpassed⟩ := ih (l.read .status v.index v.status.image).link
      have hstep := refresh_due hbus hdue l rest
      constructor
      · simp only [hstep, hlink, List.filter_cons, hdue, if_true, BusLink.readStatuses]
      · simp only [hstep, hsummary, List.filter_cons, hdue, if_true, BusLink.readStatuses,
          List.countP_cons, Bool.not_true, Bool.and_false, Bool.false_eq_true, if_false, add_zero]
        cases (l.read .status v.index v.status.image).result.isOk <;> rfl
      · simp only [hstep, List.filter_cons, hdue, if_true, BusLink.readStatuses, List.mem_cons]
        rintro p (rfl | hp)
        · exact ⟨0, rfl, rfl⟩
        · obtain ⟨k, hk, hk'⟩ := hread p hp
          exact ⟨k + 1, hk, hk'⟩
      · rw [hstep]
        rintro (_ | k) u hu hidle
        · obtain rfl : v = u := Option.some.inj hu
          rw [hdue] at hidle
          cases hidle
        · exact hpassed k u hu hidle
    | false =>
      obtain ⟨hlink, hsummary, hread, hpassed⟩ := ih l
      have hstep := refresh_not_due hdue l rest
      constructor
      · simp only [hstep, hlink, List.filter_cons, hdue, Bool.false_eq_true, if_false]
      · simp only [hstep, hsummary, List.filter_cons, hdue, Bool.false_eq_true, if_false,
          List.countP_cons, Bool.not_false, Bool.and_true]
        cases v.present <;> rfl
      · simp only [hstep, List.filter_cons, hdue, Bool.false_eq_true, if_false]
        intro p hp
        obtain ⟨k, hk, hk'⟩ := hread p hp
        exact ⟨k + 1, hk, hk'⟩
      · rw [hstep]
        rintro (_ | k) u hu hidle
        · obtain rfl : v = u := Option.some.inj hu
          rfl
        · exact hpassed k u hu hidle

/-- A poll pass reads the status of every unit that is there and was not written recently, each of
them once and in rising order, and goes on whatever the answers are. A read that succeeds tells the
status of its own slot; nothing else changes in the table. -/
theorem poll_pass (hbus : Bus.KeepsBuffer β) {s : Surroundings β} (h : Reachable s g) :
    let recent (u : Slot) := u.holding.writeWithin g.link.now g.settings.cacheWriteS
    let due := g.slots.filter fun u => u.present && !recent u
    let reads := (g.link.readStatuses due).1
    let link := (g.link.readStatuses due).2
    let after := g.poll
    reads.map Prod.fst = due ∧ (due.map fun u => u.index.toNat).Pairwise (· < ·) ∧
      (∃ new, link.issued = g.link.issued ++ new ∧ new.map Issue.account = reads.map fun p =>
        (.read .input (2000 + 6 * p.1.index.toUInt16) 6, p.2.result.isOk)) ∧
      after.1 =
        { polled := reads.countP (·.2.result.isOk)
          skipped := g.slots.countP fun u => u.present && recent u
          failed := reads.countP (!·.2.result.isOk) } ∧
      after.2 = { g with link, slots := after.2.slots } ∧ after.2.slots.length = 64 ∧
      (∀ p ∈ reads, after.2.slots[p.1.index.toNat]? = some
        { p.1 with status := if p.2.result.isOk then ⟨p.2.buffer⟩ else p.1.status }) ∧
      ∀ u ∈ g.slots, u ∉ due → after.2.slots[u.index.toNat]? = some u := by
  have hdue : (g.slots.filter fun u =>
      u.present && !u.holding.writeWithin g.link.now g.settings.cacheWriteS) =
    g.slots.filter (·.due g.link.now g.settings.cacheWriteS) := rfl
  obtain ⟨hlink, hsummary, hread, hpassed⟩ :=
    passesOver hbus g.link.now g.settings.cacheWriteS g.slots g.link
  obtain ⟨new, hissued, haccounts⟩ :=
    g.link.readStatuses_issued (g.slots.filter (·.due g.link.now g.settings.cacheWriteS))
  dsimp only
  rw [hdue]
  refine ⟨BusLink.map_fst_readStatuses _ _, ?rising, ⟨new, hissued, ?asked⟩, ?summary, ?link,
    ?table, ?answered, ?passed⟩
  case rising => exact h.indexed.rising.sublist (List.filter_sublist.map _)
  case asked =>
    rw [haccounts]
    refine List.map_congr_left fun p _ => ?_
    rw [mul_comm]
    rfl
  case summary =>
    simp only [Slot.present_and_recent]
    exact hsummary
  case link =>
    rw [← hlink]
    rfl
  case table =>
    have hindexed : g.poll.2.Indexed := h.indexed.call .poll
    simpa [slotCount] using congrArg List.length hindexed
  case answered =>
    intro p hp
    obtain ⟨k, hk, hk'⟩ := hread p hp
    rw [h.indexed.place hk]
    refine hk'.trans ?_
    unfold Slot.answered
    cases p.2.result <;> rfl
  case passed =>
    intro u hu hnot
    obtain ⟨k, hk⟩ := List.mem_iff_getElem?.mp hu
    rw [h.indexed.place hk]
    refine hpassed k u hk ?_
    simpa [List.mem_filter, hu] using hnot

/-- The started installation five seconds later, where one unit cannot be read any more. -/
def demoSilent : Gateway Simulation :=
  demoStarted.amid (demoStarted.link.bus.failReads .input 2030 .timeout) 5000

/-- One unit was written just now and one does not answer, so two of four are read. -/
theorem poll_pass_demo : Bus.KeepsBuffer Simulation ∧
    Reachable ⟨fun _ _ => True, fun _ _ => True⟩ demoSilent ∧ demoSilent.poll.1 = ⟨2, 1, 1⟩ ∧
    (demoSilent.poll.2.link.issued.drop demoSilent.link.issued.length).map Issue.account =
      [(.read .input 2000 6, true), (.read .input 2030 6, false), (.read .input 2102 6, true)] ∧
    ∀ u ∈ demoSilent.slots, u.index ∉ [0, 5, 17] →
      demoSilent.poll.2.slots[u.index.toNat]? = some u := by
  have hreachable : Reachable ⟨fun _ _ => True, fun _ _ => True⟩ demoSilent :=
    (reachable_demoStarted _).amid trivial trivial
  obtain ⟨-, -, ⟨new, hissued, haccounts⟩, hsummary, hafter, -, -, hpassed⟩ :=
    poll_pass Simulation.keepsBuffer hreachable
  refine ⟨Simulation.keepsBuffer, hreachable, ?_, ?_, ?_⟩
  · rw [hsummary]
    decide +kernel
  · rw [hafter, hissued, List.drop_left, haccounts]
    decide +kernel
  · intro u hu hindex
    refine hpassed u hu fun hdue => hindex ?_
    have hall : ∀ v ∈ demoSilent.slots.filter fun v => v.present &&
        !v.holding.writeWithin demoSilent.link.now demoSilent.settings.cacheWriteS,
        v.index ∈ ([0, 5, 17] : List UInt8) := by
      decide +kernel
    exact hall u hdue

end Gateway

end ClimateBus
