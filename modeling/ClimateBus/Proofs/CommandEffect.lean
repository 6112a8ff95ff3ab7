import ClimateBus.Proofs.HoldingMirror
import ClimateBus.Proofs.PendingEdit
import Mathlib

/-!
What a command that succeeded leaves behind.

Its way to the unit may take up to four operations or none: the holding image may be read again or
trusted, and each write is left out if nothing changed. On every one of these ways the slot ends
with nothing pending and with a holding image that asks for what the status image shows, and this
image is the holding block of the unit. A setpoint arrives as its field can hold it, so one of too
many tenths arrives as another one.
-/
namespace ClimateBus

/-- The fields of the status image a command sets. -/
def Command.fields : Command → List Field
  | .power _ => [⟨Layout.power, 1⟩]
  | .mode _ => [⟨Layout.power, 1⟩, Layout.mode]
  | .setpoint _ => [Layout.setpoint]
  | .fanSpeed _ => [Layout.fanSpeed]
  | .fanDirection _ => [Layout.fanDirection]
  | .filterReset => []

namespace Slot

theorem bit_edit_of_not_covers (u : Slot) {c : Command} {k : Nat}
    (hk : ∀ f ∈ c.fields, ¬ f.Covers k) :
    (u.edit c).status.image.bit k = u.status.image.bit k := by
  have hpower (s : StatusImage) (on : Bool) (h : ¬ Field.Covers ⟨Layout.power, 1⟩ k) :
      (s.setPower on).image.bit k = s.image.bit k :=
    s.image.sameOff_setBit Layout.power on k h
  cases c with
  | power on => exact hpower u.status on (hk _ (by simp [Command.fields]))
  | mode m =>
    have hmode : ¬ Layout.mode.Covers k := hk _ (by simp [Command.fields])
    simp only [edit, StatusImage.setMode, Image.bit_setUnsigned_of_not_covers _ _ hmode]
    exact hpower u.status true (hk _ (by simp [Command.fields]))
  | setpoint c =>
    have hsetpoint : ¬ Layout.setpoint.Covers k := hk _ (by simp [Command.fields])
    simp only [edit, StatusImage.setSetpoint, Image.setTemperature]
    rw [Image.bit_setSigned_of_not_covers _ _ (by decide) (by decide) hsetpoint]
  | fanSpeed v =>
    have hspeed : ¬ Layout.fanSpeed.Covers k := hk _ (by simp [Command.fields])
    simp only [edit, StatusImage.setFanSpeed, Image.bit_setUnsigned_of_not_covers _ _ hspeed]
  | fanDirection d =>
    have hdirection : ¬ Layout.fanDirection.Covers k := hk _ (by simp [Command.fields])
    simp only [edit, StatusImage.setFanDirection,
      Image.bit_setUnsigned_of_not_covers _ _ hdirection]
  | filterReset => rfl

/-- The holding image was read once and asks for what is shown, with the fan under remote
control. -/
structure Asks (u : Slot) : Prop where
  read : u.holding.lastRead.isSome = true
  synced : u.Synced
  remote : u.holding.image.unsigned Layout.fanControl = Layout.fanControlRemote

/-- The slot after a commit that succeeded: nothing is pending, and the filter sign is not asked to
be cleared any more. -/
structure Delivered (u : Slot) : Prop extends u.Asks where
  clean : u.holding.dirty = false
  quiet : u.holding.image.unsigned Layout.filter = 0

theorem asks_sync {u : Slot} (h : u.holding.lastRead.isSome = true) : u.sync.Asks where
  read := by rw [sync, (u.holding.edited_syncFrom u.status).lastRead, h]
  synced := u.synced_sync
  remote := u.holding.unsigned_fanControl_syncFrom u.status

theorem Asks.written {u : Slot} (h : u.Asks) (stamp : UInt64) : (u.written stamp).Asks := by
  obtain ⟨hread, hsynced, hremote⟩ := h
  rw [Slot.written]
  exact ⟨hread, hsynced, hremote⟩

theorem Asks.withdrawn {u : Slot} (h : u.Asks) : u.withdrawn.Asks where
  read := by rw [Slot.withdrawn, (u.holding.edited_setFilterReset false).lastRead, h.read]
  synced := (u.holding.controls_setFilterReset false).trans h.synced
  remote := by
    rw [Slot.withdrawn, HoldingCache.setFilterReset,
      u.holding.unsigned_setCode (f := Layout.filter) _ (by decide), h.remote]

theorem Delivered.of_asks {u : Slot} (h : u.Asks) (hclean : u.holding.dirty = false)
    (hquiet : u.holding.filterReset = false) : u.Delivered where
  toAsks := h
  clean := hclean
  quiet := by simpa [HoldingCache.filterReset] using hquiet

section Steps

variable {l : BusLink Simulation} {u : Slot} {slot : UInt8} (hindex : u.index = slot)
  (hslot : slot.toNat < slotCount)
include hindex hslot

/-- A write that succeeds, or is not needed, leaves a clean image behind. -/
theorem writeHolding_asks (stamp : UInt64) (h : u.Asks) : (writeHolding l u stamp).Ends l slot
    (fun u' _ _ => u'.Asks ∧ u'.holding.dirty = false ∧
      u'.holding.filterReset = u.holding.filterReset) .any := by
  refine writeHolding_ends hindex hslot stamp (fun hclean => ⟨h, hclean, rfl⟩) (fun _ => ?_)
    fun _ => trivial
  refine ⟨h.written stamp, ?_, ?_⟩ <;> rw [written] <;> rfl

theorem prepare_reads (window : UInt32) : (prepare window l u).Ends l slot
    (fun u' _ _ => u'.holding.lastRead.isSome = true) .any := by
  refine prepare_ends hindex (fun hstale => ?_) trivial fun l' _ _ => ?_
  · simp only [stale, Bool.or_eq_false_iff, Option.isNone_eq_false_iff] at hstale
    exact hstale.1
  · have hread : (u.reloaded (l.bus.device slot).holding l.now).holding.lastRead.isSome = true := by
      rw [reloaded]
      rfl
    have hindex' : (u.reloaded (l.bus.device slot).holding l.now).sync.index = slot := by
      rw [sync_index, reloaded_index, hindex]
    exact (writeHolding_asks hindex' hslot l.now (asks_sync hread)).weaken
      (fun _ _ _ h => h.1.read) fun _ _ _ h => h

theorem commit_delivers (hread : u.holding.lastRead.isSome = true) :
    (commit l u).Ends l slot (fun u' _ _ => u'.Delivered) .any := by
  have hindex' : u.sync.index = slot := by rw [sync_index, hindex]
  refine commit_ends (writeHolding_asks hindex' hslot l.now (asks_sync hread))
    fun l' u' hindex' h' => ?_
  obtain ⟨hasks, hclean, -⟩ := h'
  refine endPulse_ends hindex' (.of_asks hasks hclean) ?_
  have hindex'' : u'.withdrawn.index = slot := by rw [withdrawn_index, hindex']
  refine (writeHolding_asks hindex'' hslot l.now hasks.withdrawn).weaken ?_ fun _ _ _ h => h
  rintro u'' - - ⟨hasks'', hclean'', hreset⟩
  refine .of_asks hasks'' hclean'' ?_
  rw [hreset, withdrawn, HoldingCache.filterReset, u'.holding.unsigned_filter_setFilterReset]
  rfl

theorem apply_delivers (window : UInt32) (c : Command) :
    (apply window c l u).Ends l slot (fun u' _ _ => u'.Delivered) .any := by
  refine apply_ends (prepare_reads hindex hslot window) fun l' u' hindex' hread => ?_
  refine commit_delivers (by rw [edit_index, hindex']) hslot ?_
  rw [(u'.edited_edit_holding c).lastRead, hread]

end Steps

end Slot

namespace Gateway

variable {g : Gateway Simulation} {i : UInt8}

/-- Behind a command that succeeded, the holding image is the holding block of the unit. -/
theorem delivered_of_apply (h : Reachable (holdingKept i) g) {u : Slot}
    (hu : g.present? i = .ok u) {c : Command} (hok : (g.apply i c).1 = .ok ()) :
    ∃ u', (g.apply i c).2.present? i = .ok u' ∧ u'.status = (u.edit c).status ∧ u'.Delivered ∧
      (g.apply i c).2.link.bus.block .holding i = u'.holding.image := by
  obtain ⟨hi, hindex⟩ := h.indexed.of_present hu
  obtain ⟨v, hv, hresult⟩ := onPresent_eq_ok.mp hok
  obtain rfl : u = v := Except.ok.inj (hu.symm.trans hv)
  have hrecord := Slot.apply_record_of_ok _ _ _ hresult
  have hpresent : (g.apply i c).2.present? i = .ok _ :=
    present?_onPresent hu (hrecord.present.trans (u.edit_present c))
  have hdelivered := (Slot.apply_delivers hindex hi g.settings.cacheWriteS c).ok hresult
  have hmirrors := (mirrors_invariant i).of_present (h.call (.apply i c)) hpresent
  refine ⟨_, hpresent, hrecord.status, hdelivered, ?_⟩
  exact (hmirrors.clean hdelivered.clean (.inl hdelivered.read)).symm

/-- A command that succeeds changes in the status image the fields it sets and nothing else. Then
nothing is pending, the holding image asks for just what is shown, under remote fan control and
without a request to clear the filter sign, it is the holding block of the unit word for word, and
the unit reports the controls that are shown. -/
theorem apply_took_effect (h : Reachable (unitKept i) g) {u : Slot} (hu : g.present? i = .ok u)
    {c : Command} (hok : (g.apply i c).1 = .ok ()) :
    ∃ u', (g.apply i c).2.present? i = .ok u' ∧
      (∀ k, (∀ f ∈ c.fields, ¬ f.Covers k) → u'.status.image.bit k = u.status.image.bit k) ∧
      u'.status.image.controls = c.put u.status.image.controls ∧
      u'.holding.dirty = false ∧
      u'.holding.image.unsigned Layout.filter = 0 ∧
      u'.holding.image.unsigned Layout.fanControl = 6 ∧
      u'.holding.image.controls = u'.status.image.controls ∧
      (g.apply i c).2.link.bus.block .holding i = u'.holding.image ∧
      ((g.apply i c).2.link.bus.block .status i).controls = u'.status.image.controls := by
  have hholding : Reachable (holdingKept i) g :=
    h.mono (fun _ _ hbus => hbus.1) fun _ _ _ => trivial
  have hcontrols : Reachable (controlsKept i) g :=
    h.mono (fun _ _ hbus => hbus.2) fun _ _ _ => trivial
  obtain ⟨u', hu', hstatus, hdelivered, hblock⟩ := delivered_of_apply hholding hu hok
  have hinStep : u'.InStep _ := (inStep_invariant i).of_present (hcontrols.call (.apply i c)) hu'
    (present?_eq_ok.mp hu').2
  refine ⟨u', hu', fun k hk => ?_, ?_, hdelivered.clean, hdelivered.quiet, hdelivered.remote,
    hdelivered.synced, hblock, (hinStep hdelivered.clean).1.symm⟩
  · rw [hstatus, u.bit_edit_of_not_covers hk]
  · rw [hstatus, u.controls_edit c]

theorem apply_took_effect_demo : (demoStarted.apply 1 (.mode .heat)).1 = .ok () ∧
    ∃ u', (demoStarted.apply 1 (.mode .heat)).2.present? 1 = .ok u' ∧
      u'.status.image.controls = { (demoStarted.slots.getD 1 default).status.image.controls with
        power := true, mode := Labelled.code Mode.heat } ∧
      ((demoStarted.apply 1 (.mode .heat)).2.link.bus.block .status 1).controls =
        u'.status.image.controls := by
  have hu : demoStarted.present? 1 = .ok (demoStarted.slots.getD 1 default) := by decide +kernel
  have hok : (demoStarted.apply 1 (.mode .heat)).1 = .ok () := by decide +kernel
  obtain ⟨u', hu', -, hshown, -, -, -, -, -, hreported⟩ :=
    apply_took_effect (reachable_demoStarted _) hu hok
  exact ⟨hok, u', hu', hshown, hreported⟩

/-- The setpoint a unit is sent has the tenths asked for just if they fit 15 bits. Of any others it
is sent the low 15 bits, under the same sign, although the command succeeds. -/
theorem accepted_setpoint_on_unit (h : Reachable (holdingKept i) g) {c : Celsius}
    (hok : (g.apply i (.setpoint c)).1 = .ok ()) :
    (((g.apply i (.setpoint c)).2.link.bus.block .holding i).signed Layout.setpoint).toInt =
        signedPart 15 c.tenths.toInt ∧
      ((((g.apply i (.setpoint c)).2.link.bus.block .holding i).signed Layout.setpoint).toInt =
          c.tenths.toInt ↔ c.tenths.toInt.natAbs < 2 ^ 15) := by
  obtain ⟨u, hu, -⟩ := onPresent_eq_ok.mp hok
  obtain ⟨u', -, hstatus, hdelivered, hblock⟩ := delivered_of_apply h hu hok
  have hcontrols : u'.holding.image.controls =
      { u.status.image.controls with setpoint := signedPart 15 c.tenths.toInt } := by
    rw [hdelivered.synced, hstatus, u.controls_edit]
    rfl
  have hsent : (u'.holding.image.signed Layout.setpoint).toInt = signedPart 15 c.tenths.toInt :=
    congrArg Controls.setpoint hcontrols
  rw [hblock, hsent]
  exact ⟨rfl, fun hsame => hsame ▸ natAbs_signedPart_lt _, signedPart_of_lt⟩

/-- Of 4000 °C a unit is sent 723.2 °C. -/
theorem accepted_setpoint_on_unit_demo :
    (demoStarted.apply 1 (.setpoint ⟨0x457a0000⟩)).1 = .ok () ∧
      Celsius.tenths ⟨0x457a0000⟩ = 40000 ∧
      (((demoStarted.apply 1 (.setpoint ⟨0x457a0000⟩)).2.link.bus.block .holding 1).signed
        Layout.setpoint).toInt = 7232 := by
  have hok : (demoStarted.apply 1 (.setpoint ⟨0x457a0000⟩)).1 = .ok () := by decide +kernel
  have htenths : Celsius.tenths ⟨0x457a0000⟩ = 40000 := by decide +kernel
  refine ⟨hok, htenths, ?_⟩
  rw [(accepted_setpoint_on_unit (reachable_demoStarted _) hok).1, htenths]
  decide

end Gateway

end ClimateBus
