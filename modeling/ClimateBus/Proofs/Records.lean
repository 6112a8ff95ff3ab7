import ClimateBus.Proofs.Controls
import ClimateBus.Proofs.Runs
import Mathlib

/-!
What the steps of a slot leave of its record, over any bus.

Preparation and commit touch the holding image alone and a command one edit more, a poll pass the
status image. A discovery empties the record, but no step moves it to another address.
-/
namespace ClimateBus

namespace Slot

/-- The records differ in their holding images at most. -/
def SameRecord (u u' : Slot) : Prop := ∃ h, u' = { u with holding := h }

namespace SameRecord

variable {u u' u'' : Slot}

theorem refl (u : Slot) : SameRecord u u := ⟨u.holding, rfl⟩

theorem trans (h : SameRecord u u') (h' : SameRecord u' u'') : SameRecord u u'' := by
  obtain ⟨_, rfl⟩ := h
  obtain ⟨holding, rfl⟩ := h'
  exact ⟨holding, rfl⟩

theorem index (h : SameRecord u u') : u'.index = u.index := by
  obtain ⟨_, rfl⟩ := h
  rfl

theorem present (h : SameRecord u u') : u'.present = u.present := by
  obtain ⟨_, rfl⟩ := h
  rfl

theorem status (h : SameRecord u u') : u'.status = u.status := by
  obtain ⟨_, rfl⟩ := h
  rfl

/-- The edit of a command does not depend on the holding image, except for the filter field. -/
theorem edit (h : SameRecord u u') (c : Command) : SameRecord (u.edit c) (u'.edit c) := by
  obtain ⟨holding, rfl⟩ := h
  cases c with
  | filterReset => exact ⟨holding.setFilterReset true, rfl⟩
  | power _ | mode _ | setpoint _ | fanSpeed _ | fanDirection _ => exact ⟨holding, rfl⟩

end SameRecord

@[simp] theorem edit_present (u : Slot) (c : Command) : (u.edit c).present = u.present := by
  cases c <;> simp only [edit]

theorem sync_record (u : Slot) : SameRecord u u.sync := ⟨u.holding.syncFrom u.status, rfl⟩

variable {β : Type} [Bus β] (window : UInt32) (l : BusLink β) (u : Slot)

theorem writeHolding_record (stamp : UInt64) : SameRecord u (writeHolding l u stamp).slot :=
  ⟨(l.writeIfDirty u.index u.holding stamp).holding, rfl⟩

theorem prepare_record : SameRecord u (prepare window l u).slot := by
  unfold prepare
  split_ifs
  · dsimp only
    split
    · exact ⟨_, rfl⟩
    · refine .trans ?_ (writeHolding_record _ _ _)
      exact .trans ⟨_, rfl⟩ (sync_record _)
  · exact .refl u

theorem endPulse_record (stamp : UInt64) : SameRecord u (endPulse stamp l u).slot := by
  unfold endPulse
  split_ifs
  · exact .trans ⟨_, rfl⟩ (writeHolding_record _ _ _)
  · exact .refl u

theorem commit_record : SameRecord u (commit l u).slot := by
  have hwrite := (sync_record u).trans (writeHolding_record l u.sync l.now)
  unfold commit SlotStep.andThen
  split
  · exact hwrite.trans (endPulse_record _ _ _)
  · exact hwrite

/-- A command that gets past its preparation makes its edit, any other one none. -/
theorem apply_record (c : Command) :
    SameRecord (if (prepare window l u).result.isOk then u.edit c else u)
      (apply window c l u).slot := by
  have hprepare := prepare_record window l u
  unfold apply SlotStep.andThen
  cases (prepare window l u).result with
  | ok _ => exact (hprepare.edit c).trans (commit_record _ _)
  | error e => exact hprepare

theorem apply_record_of_ok {c : Command} (hok : (apply window c l u).result = .ok ()) :
    SameRecord (u.edit c) (apply window c l u).slot := by
  have hrecord := apply_record window l u c
  cases hprepare : (prepare window l u).result with
  | ok _ => rwa [hprepare] at hrecord
  | error e => simp [apply, SlotStep.andThen, hprepare] at hok

theorem readError_index (secs : UInt32) : (readError secs l u).slot.index = u.index := by
  unfold readError
  split_ifs
  · rfl
  · dsimp only
    split <;> rfl

theorem apply_index (c : Command) : (apply window c l u).slot.index = u.index := by
  rw [(apply_record window l u c).index]
  split_ifs
  · exact u.edit_index c
  · rfl

theorem discover_index (system : SystemImage) : (u.discover system l).1.index = u.index := by
  unfold discover
  dsimp only
  split_ifs
  · split
    · rfl
    · split <;> rfl
  · rfl

end Slot

namespace Gateway

variable {β : Type} [Bus β]

theorem map_index_scan (system : SystemImage) (us : List Slot) (l : BusLink β) :
    (scan system l us).1.map Slot.index = us.map Slot.index := by
  induction us generalizing l with
  | nil => rfl
  | cons v rest ih => simp only [scan, List.map_cons, Slot.discover_index, ih]

/-- A poll pass visits one slot after the other. -/
theorem refresh_visit (now : UInt64) (window : UInt32) (l : BusLink β) (v : Slot)
    (rest : List Slot) : (refresh now window l (v :: rest)).2 =
      if v.present && !v.holding.writeWithin now window then
        let r := l.read .status v.index v.status.image
        ({ v with status := ⟨r.buffer⟩ } :: (refresh now window r.link rest).2.1,
          (refresh now window r.link rest).2.2)
      else (v :: (refresh now window l rest).2.1, (refresh now window l rest).2.2) := by
  conv_lhs => unfold refresh
  cases hpresent : v.present <;> cases hwritten : v.holding.writeWithin now window <;>
    simp only [Bool.not_true, Bool.not_false, Bool.and_true, Bool.and_false, if_true,
      Bool.false_eq_true, if_false]
  split <;> rfl

/-- A pass leaves of each record all but the status image. -/
theorem map_refresh {α : Type} {f : Slot → α} (hf : ∀ u status, f { u with status } = f u)
    (now : UInt64) (window : UInt32) (us : List Slot) (l : BusLink β) :
    (refresh now window l us).2.1.map f = us.map f := by
  induction us generalizing l with
  | nil => rfl
  | cons v rest ih =>
    rw [refresh_visit]
    split_ifs <;> simp only [List.map_cons, ih, hf]

theorem map_index_refresh (now : UInt64) (window : UInt32) (us : List Slot) (l : BusLink β) :
    (refresh now window l us).2.1.map Slot.index = us.map Slot.index :=
  map_refresh (fun _ _ => rfl) now window us l

end Gateway

end ClimateBus
