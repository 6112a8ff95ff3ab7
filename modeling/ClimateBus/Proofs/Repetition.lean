import ClimateBus.Proofs.LinkHistory
import ClimateBus.Proofs.Retry
import Mathlib

/-!
Commands that are given twice.

Behind a command that succeeded the holding image is just what a sync would make of it, so a second
one finds nothing to change (`HoldingCache.syncFrom_of_target`). It may read the block again when
that was not read or written recently, which brings back the same words. Otherwise it asks nothing
of the bus at all. A request to clear the filter sign is no such command: it is sent every time.
-/
namespace ClimateBus

namespace HoldingCache

variable {h : HoldingCache}

theorem edit_of_unchanged {e : Edit BlockKind.holding.size} (he : e = ⟨h.image, false⟩) :
    h.edit e = h := by
  rw [he]
  simp only [edit, Bool.or_false]

theorem setPower_of_eq {on : Bool} (hon : h.image.bit Layout.power = on) : h.setPower on = h := by
  have hexact := h.image.exact_setBit Layout.power on
  have himage := hexact.changed_eq_false_iff.mp (Image.changed_setBit_of_eq hon)
  exact edit_of_unchanged (hexact.eq_unchanged himage)

theorem setCode_of_eq {f : Field} {code : UInt32} (hcode : h.image.unsigned f = code) :
    h.setCode f code = h :=
  edit_of_unchanged (h.image.setUnsigned_of_eq hcode)

/-- A sync writes no field twice with different values. So if it leaves the image as it is, it
changes no bit on the way, and there is nothing to be written. -/
theorem syncFrom_of_image_eq {s : StatusImage} (himage : (h.syncFrom s).image = h.image) :
    h.syncFrom s = h := by
  have hcontrols : h.image.controls = s.image.controls := himage ▸ h.controls_syncFrom s
  obtain ⟨hpower, hdirection, hspeed, hmode, -⟩ := Controls.ext_iff.mp hcontrols
  have hremote : h.setFanControl true = h :=
    setCode_of_eq (himage ▸ h.unsigned_fanControl_syncFrom s)
  have hsync : h.syncFrom s = h.setSetpoint s.setpoint := by
    have hpower' : h.setPower s.power = h := setPower_of_eq hpower
    have hdirection' : h.setCode Layout.fanDirection s.fanDirectionCode = h :=
      setCode_of_eq hdirection
    have hspeed' : h.setCode Layout.fanSpeed s.fanSpeedCode = h := setCode_of_eq hspeed
    have hmode' : h.setCode Layout.mode s.modeCode = h := setCode_of_eq hmode
    rw [syncFrom, hpower', setFanDirectionCode, hdirection', hremote, setFanSpeedCode, hspeed',
      hremote, hmode']
  rw [hsync, setSetpoint, image_edit] at himage
  rw [hsync, setSetpoint]
  exact edit_of_unchanged ((h.image.exact_setTemperature _ _).eq_unchanged himage)

variable {m : Image BlockKind.holding.size} {s : StatusImage}

theorem filter_target (m : Image BlockKind.holding.size) (s : StatusImage) :
    (target m s).unsigned Layout.filter = 0 :=
  ((ofImage m).syncFrom s).unsigned_filter_setFilterReset false

/-- The block a unit was brought to a status image with is left alone by a sync. -/
theorem syncFrom_of_target (htarget : h.image = target m s) : h.syncFrom s = h := by
  apply syncFrom_of_image_eq
  have hreserved : ∀ k, Layout.Reserved k → h.image.bit k = (ofImage m).image.bit k :=
    fun k hk => htarget ▸ reserved_target m s hk
  have hquiet : (h.syncFrom s).image.unsigned Layout.filter = 0 := by
    rw [unsigned_filter_syncFrom, htarget, filter_target]
  rw [htarget]
  exact eq_target (agreeOff_syncFrom hreserved s) hquiet

end HoldingCache

namespace Slot

/-- A command that leaves the status image alone, and asks nothing about the filter sign, makes no
edit. -/
theorem edit_of_status_eq {u : Slot} {c : Command} (hc : c ≠ .filterReset)
    (hstatus : (u.edit c).status = u.status) : u.edit c = u := by
  cases c with
  | filterReset => exact absurd rfl hc
  | power _ | mode _ | setpoint _ | fanSpeed _ | fanDirection _ =>
    simp only [edit] at hstatus ⊢
    rw [hstatus]

/-- A second command of the same kind and value sets what is set already. -/
theorem status_edit_edit (u : Slot) (c : Command) :
    ((u.edit c).edit c).status = (u.edit c).status :=
  status_edit_congr fun _ hk => u.bit_edit_of_not_covers hk

/-- Nothing is pending, and the holding image is the block made for what the status image shows. -/
structure Settled (u : Slot) : Prop where
  clean : u.holding.dirty = false
  image : ∃ m, u.holding.image = HoldingCache.target m u.status

namespace Settled

variable {u : Slot} {β : Type} [Bus β]

theorem sync (h : u.Settled) : u.sync = u := by
  obtain ⟨m, himage⟩ := h.image
  rw [Slot.sync, HoldingCache.syncFrom_of_target himage]

theorem reloaded (h : u.Settled) (now : UInt64) : (u.reloaded u.holding.image now).Settled :=
  ⟨h.clean, h.image⟩

/-- There is nothing to be written. -/
theorem writeHolding (h : u.Settled) (l : BusLink β) (stamp : UInt64) :
    writeHolding l u stamp = ⟨.ok (), u, l⟩ := by
  simp only [Slot.writeHolding, BusLink.writeIfDirty, h.clean, Bool.false_eq_true, if_false]

theorem commit (h : u.Settled) (l : BusLink β) : commit l u = ⟨.ok (), u, l⟩ := by
  have hquiet : u.holding.filterReset = false := by
    obtain ⟨m, himage⟩ := h.image
    rw [HoldingCache.filterReset, himage, HoldingCache.filter_target]
    rfl
  rw [Slot.commit, h.sync, h.writeHolding, SlotStep.andThen, endPulse, hquiet]
  rfl

variable {c : Command} {window : UInt32}

theorem apply_of_prepared (h : u.Settled) (hedit : u.edit c = u) {l l' : BusLink β} {v : Slot}
    (hprepare : prepare window l v = ⟨.ok (), u, l'⟩) :
    apply window c l v = ⟨.ok (), u, l'.idle⟩ := by
  rw [apply, hprepare, SlotStep.andThen, hedit, h.commit]

/-- A trusted image is enough: the bus is not asked for anything. -/
theorem apply_fresh (h : u.Settled) (hedit : u.edit c = u) {l : BusLink Simulation}
    (hfresh : u.stale l.now window = false) : apply window c l u = ⟨.ok (), u, l⟩ := by
  have hprepare : prepare window l u = ⟨.ok (), u, l⟩ := by
    rw [prepare, hfresh, if_neg Bool.false_ne_true]
  rw [h.apply_of_prepared hedit hprepare, BusLink.idle_eq]

/-- Any other image is read again, and that is all. -/
theorem apply_stale (h : u.Settled) (hc : c ≠ .filterReset)
    (hstatus : (u.edit c).status = u.status) {l : BusLink Simulation}
    (hheld : l.bus.block .holding u.index = u.holding.image)
    (hstale : u.stale l.now window = true) :
    (apply window c l u).link = (l.read .holding u.index u.holding.image).link := by
  obtain ⟨link, -, ⟨hread, -⟩ | ⟨e, hread, -⟩⟩ := l.read_spec .holding u.index u.holding.image
  · rw [hheld] at hread
    have hreload := h.reloaded l.now
    have hedit : (u.reloaded u.holding.image l.now).edit c = u.reloaded u.holding.image l.now := by
      have hrecord : SameRecord u (u.reloaded u.holding.image l.now) := ⟨_, rfl⟩
      exact edit_of_status_eq hc ((hrecord.edit c).status.trans hstatus)
    have hprepare : prepare window l u = ⟨.ok (), u.reloaded u.holding.image l.now, link⟩ := by
      rw [← hreload.writeHolding link l.now, prepare, if_pos hstale, hread]
      conv_rhs => rw [← hreload.sync]
      rfl
    rw [hreload.apply_of_prepared hedit hprepare, hread, BusLink.idle_eq]
  · have hprepare : prepare window l u = ⟨.error e, u, link⟩ := by
      simp only [prepare, hstale, if_true, hread]
    rw [apply, hprepare, SlotStep.andThen, hread]

end Settled

end Slot

theorem BusLink.writes_read (l : BusLink Simulation) (kind : BlockKind) (slot : UInt8)
    (buffer : Image kind.size) :
    (l.read kind slot buffer).link.bus.writes = l.bus.writes := by
  have hlog : (l.read kind slot buffer).link.bus.log =
      l.bus.log ++ [.read kind.table (kind.address slot) kind.size] :=
    Simulation.records_log.read l.bus _ _ buffer
  simp [Simulation.writes, hlog]

namespace Gateway

/-- A step that does nothing leaves the whole gateway as it was. -/
theorem onPresent_idle {β : Type} {g : Gateway β} {i : UInt8} {u : Slot}
    {step : BusLink β → Slot → SlotStep β} (hu : g.present? i = .ok u)
    (hstep : step g.link u = ⟨.ok (), u, g.link⟩) : g.onPresent i step = (.ok (), g) := by
  rw [onPresent_present hu, hstep, set_of_present hu]
  rfl

variable {g a : Gateway Simulation} {i : UInt8} {c : Command}

/-- A command that sets a field and succeeded is free the second time: nothing is written, whatever
time has passed and whatever faults there are now, and while the last read or write of the holding
block is trusted the bus is not asked for anything and the gateway stays as it is. -/
theorem repetition_is_free (h : Reachable (unitKept i) g) (hc : c ≠ .filterReset)
    (hok : (g.apply i c).1 = .ok ()) (ha : Run (unitKept i) (g.apply i c).2 [] a) :
    (a.apply i c).2.link.bus.writes = a.link.bus.writes ∧
      ∃ u, a.present? i = .ok u ∧
        (u.holding.readWithin a.link.now a.settings.cacheWriteS = true ∨
          u.holding.writeWithin a.link.now a.settings.cacheWriteS = true →
            a.apply i c = (.ok (), a)) := by
  obtain ⟨u, hu, -⟩ := onPresent_eq_ok.mp hok
  obtain ⟨v, hbrought⟩ := brought_of_apply h hu hok
  obtain ⟨w, hw, -, hdelivered, -⟩ := delivered_of_apply h.keepsHolding hu hok
  obtain rfl : v = w := Except.ok.inj (hbrought.present.symm.trans hw)
  have hbrought := hbrought.outside ha
  have hindex : v.index = i := (((h.call (.apply i c)).run ha).indexed.of_present hbrought.present).2
  have hsettled : v.Settled :=
    ⟨hbrought.clean, g.link.bus.block .holding i, hbrought.status ▸ hbrought.image⟩
  have hstatus : (v.edit c).status = v.status := by
    have hshown : (v.edit c).status = ((u.edit c).edit c).status := by
      apply Slot.status_edit_congr
      rw [hbrought.status]
      exact .refl _ _
    rw [hshown, u.status_edit_edit, hbrought.status]
  have hedit : v.edit c = v := Slot.edit_of_status_eq hc hstatus
  have hidle (hfresh : v.stale a.link.now a.settings.cacheWriteS = false) :
      a.apply i c = (.ok (), a) :=
    onPresent_idle hbrought.present (hsettled.apply_fresh hedit hfresh)
  refine ⟨?_, v, hbrought.present, fun hrecent => hidle ?_⟩
  · cases hstale : v.stale a.link.now a.settings.cacheWriteS with
    | false => rw [hidle hstale]
    | true =>
      have hheld : a.link.bus.block .holding v.index = v.holding.image := by
        rw [hindex, hbrought.block, hbrought.image]
      rw [Gateway.apply, onPresent_present hbrought.present]
      dsimp only
      rw [hsettled.apply_stale hc hstatus hheld hstale, BusLink.writes_read]
  · have hread : v.holding.lastRead.isNone = false := by
      rw [← Option.not_isSome, hdelivered.read]
      rfl
    rw [Slot.stale, hread]
    rcases hrecent with hrecent | hrecent <;> simp [hrecent]

/-- The started unit long after it was switched on, when its holding block cannot be written. -/
def demoIdle : Gateway Simulation :=
  demoStarted.amid (demoStarted.link.bus.failWrites (BlockKind.holding.address 1) .timeout) 90000

theorem repetition_is_free_demo :
    (demoIdle.apply 1 (.power true)).2.link.bus.writes = demoIdle.link.bus.writes ∧
      demoStarted.apply 1 (.power true) = (.ok (), demoStarted) := by
  let g := (Gateway.new Simulation.demo 0 1 {}).call .discover
  have hsets : Command.power true ≠ .filterReset := by simp
  have hreachable : Reachable (unitKept 1) g := (Reachable.new _ _ _ _).call .discover
  have hok : (g.apply 1 (.power true)).1 = .ok () := by decide +kernel
  have hstarted : Run (unitKept 1) (g.apply 1 (.power true)).2 [] demoStarted := by
    unfold demoStarted
    exact .start
  have hidle : Run (unitKept 1) (g.apply 1 (.power true)).2 [] demoIdle := by
    unfold demoIdle
    exact hstarted.outside (unitKept_of_registers (Simulation.registers_failWrites _ _ _)) trivial
  have hrecent : (demoStarted.slots.getD 1 default).holding.writeWithin demoStarted.link.now
      demoStarted.settings.cacheWriteS = true := by decide +kernel
  have hu : demoStarted.present? 1 = .ok (demoStarted.slots.getD 1 default) := by decide +kernel
  obtain ⟨hwrites, -⟩ := repetition_is_free hreachable hsets hok hidle
  obtain ⟨-, u, hu', hfree⟩ := repetition_is_free hreachable hsets hok hstarted
  rw [Except.ok.inj (hu'.symm.trans hu)] at hfree
  exact ⟨hwrites, hfree (.inr hrecent)⟩

end Gateway

end ClimateBus
