import ClimateBus.Proofs.Agreement
import ClimateBus.Proofs.CommandEffect
import ClimateBus.Proofs.FaultFree
import Mathlib

/-!
Commands that are tried again.

A command that failed may have left its edit in the status image, a sync in the holding image, and
any block it meant to send in the unit. None of that shows once the command has succeeded: the block
it ends with depends on the reserved bits of the unit and on the status image outside the fields of
the command (`Gateway.brought_of_apply`), and no attempt changes any of these (`Slot.Tried`).
-/
namespace ClimateBus

open Image

namespace Slot

/-- What a command makes of its own fields does not depend on what they were. -/
theorem agreeOff_edit {u v : Slot} {c : Command} {fs : List Field}
    (h : AgreeOff (c.fields ++ fs) u.status.image v.status.image) :
    AgreeOff fs (u.edit c).status.image (v.edit c).status.image := by
  cases c with
  | power on =>
    simp only [edit, StatusImage.setPower]
    exact h.setBit on
  | mode m =>
    have hpower := h.setBit true
    simp only [edit, StatusImage.setMode, StatusImage.setPower]
    exact hpower.setUnsigned (Labelled.code m) (by decide)
  | setpoint c =>
    simp only [edit, StatusImage.setSetpoint, setTemperature]
    exact h.setSigned c.tenths (by decide) (by decide)
  | fanSpeed v =>
    simp only [edit, StatusImage.setFanSpeed]
    exact h.setUnsigned (Labelled.code v) (by decide)
  | fanDirection d =>
    simp only [edit, StatusImage.setFanDirection]
    exact h.setUnsigned (Labelled.code d) (by decide)
  | filterReset => exact h

/-- A status image after a command depends on what it was outside the fields of the command. -/
theorem status_edit_congr {u v : Slot} {c : Command}
    (h : AgreeOff c.fields u.status.image v.status.image) :
    (u.edit c).status = (v.edit c).status := by
  have hagree : AgreeOff [] (u.edit c).status.image (v.edit c).status.image :=
    agreeOff_edit (by rwa [List.append_nil])
  exact congrArg StatusImage.mk hagree.eq

/-- The status image a command ends with, whether it got to its edit or not. -/
theorem agreeOff_apply (window : UInt32) (c : Command) (l : BusLink Simulation) (u : Slot) :
    AgreeOff c.fields (apply window c l u).slot.status.image u.status.image := by
  rw [(apply_record window l u c).status]
  split_ifs
  · exact fun k hk => u.bit_edit_of_not_covers hk
  · exact .refl _ _

/-- Made of the block `m`, the holding image asks for what the status image shows. Its filter field
is left open. -/
def Aims (m : Image BlockKind.holding.size) (u : Slot) : Prop :=
  AgreeOff [Layout.filter] u.holding.image ((HoldingCache.ofImage m).syncFrom u.status).image

section Aims

variable {m : Image BlockKind.holding.size} {u : Slot} {d : Device}

theorem Keeps.aims_sync (h : u.Keeps m d) : u.sync.Aims m := by
  rw [Aims, sync_status, sync]
  apply HoldingCache.agreeOff_syncFrom
  intro k hk
  exact (h.mirrors.reserved h.stamped k hk).trans (h.reserved k hk)

theorem Aims.written (h : u.Aims m) (stamp : UInt64) : (u.written stamp).Aims m := by
  rw [Aims, written_status, Slot.written]
  exact h

theorem Aims.withdrawn (h : u.Aims m) : u.withdrawn.Aims m := by
  rw [Aims, withdrawn_status, Slot.withdrawn]
  have hoff := u.holding.image.sameOff_setUnsigned Layout.filter 0
  exact h.of_sameOff (List.mem_singleton_self _) hoff

theorem Aims.eq_target (h : u.Aims m) (hdelivered : u.Delivered) :
    u.holding.image = HoldingCache.target m u.status := HoldingCache.eq_target h hdelivered.quiet

end Aims

/-- The holding image is in step with the unit, and that still has the reserved bits of `m`. -/
structure Based (m : Image BlockKind.holding.size) (u : Slot) (d : Device) : Prop where
  mirrors : u.Mirrors d
  reserved : ∀ k, Layout.Reserved k → d.holding.bit k = m.bit k

section Based

variable {m : Image BlockKind.holding.size} {u : Slot} {d : Device}

theorem Keeps.based (h : u.Keeps m d) : u.Based m d := ⟨h.mirrors, h.reserved⟩

/-- An image that need not be read again was read before. -/
theorem Based.keeps_of_fresh (h : u.Based m d) {now : UInt64} {window : UInt32}
    (hfresh : u.stale now window = false) : u.Keeps m d := by
  simp only [stale, Bool.or_eq_false_iff, Option.isNone_eq_false_iff] at hfresh
  exact ⟨.inl hfresh.1, h.mirrors, h.reserved⟩

theorem Based.reloaded (h : u.Based m d) (now : UInt64) : (u.reloaded d.holding now).Keeps m d :=
  ⟨.inl rfl, .reloaded u d now, h.reserved⟩

end Based

section Steps

variable {l : BusLink Simulation} {u : Slot} {slot : UInt8} {m : Image BlockKind.holding.size}
  (hindex : u.index = slot) (hslot : slot.toNat < slotCount)
include hindex hslot

theorem writeHolding_aims (stamp : UInt64) (h : u.Aims m) :
    (writeHolding l u stamp).Ends l slot (fun u _ _ => u.Aims m) .any :=
  writeHolding_ends hindex hslot stamp (fun _ => h) (fun _ => h.written stamp) fun _ => trivial

theorem commit_aims (h : u.Keeps m (l.bus.device slot)) :
    (commit l u).Ends l slot (fun u _ _ => u.Aims m) .any := by
  have hindex' : u.sync.index = slot := by rw [sync_index, hindex]
  refine commit_ends (writeHolding_aims hindex' hslot l.now h.aims_sync) fun l' u' hindex' h' => ?_
  refine endPulse_ends hindex' (fun _ => h') ?_
  exact writeHolding_aims (by rw [withdrawn_index, hindex']) hslot l.now h'.withdrawn

theorem apply_aims (h : u.Based m (l.bus.device slot)) (window : UInt32) (c : Command) :
    (apply window c l u).Ends l slot (fun u _ _ => u.Aims m) .any := by
  have hprepare : (prepare window l u).Ends l slot (fun u d _ => u.Keeps m d) .any :=
    (Keeps.stable m).prepare hindex hslot (fun _ _ _ _ => trivial) h.keeps_of_fresh
      (h.reloaded l.now) fun _ => trivial
  refine apply_ends hprepare fun l' u' hindex' hkeeps => ?_
  have hedited := (Keeps.stable m).edited (u'.edited_edit_holding c) hkeeps
  exact commit_aims (by rw [edit_index, hindex']) hslot hedited

theorem apply_based (h : u.Based m (l.bus.device slot)) (window : UInt32) (c : Command) :
    (apply window c l u).Ends l slot (fun u d _ => u.Based m d) fun u d _ => u.Based m d := by
  have hends : (apply window c l u).Ends l slot (fun u d _ => u.Keeps m d)
      fun u d _ => u.Based m d :=
    (Keeps.stable m).apply hindex hslot (fun _ _ _ hkeeps => hkeeps.based) h.keeps_of_fresh
      (h.reloaded l.now) fun _ => h
  exact hends.weaken (fun _ _ _ hkeeps => hkeeps.based) fun _ _ _ hbased => hbased

end Steps

/-- What attempts at a command leave of a slot and its unit. The slot showed `s` before, and its
unit had the holding block `m`. -/
structure Tried (c : Command) (s : StatusImage) (m : Image BlockKind.holding.size) (u : Slot)
    (d : Device) : Prop extends Based m u d where
  present : u.present = true
  shown : AgreeOff c.fields u.status.image s.image

theorem apply_tried {l : BusLink Simulation} {u : Slot} {slot : UInt8} (hindex : u.index = slot)
    (hslot : slot.toNat < slotCount) {c : Command} {s : StatusImage}
    {m : Image BlockKind.holding.size} (window : UInt32) (h : u.Tried c s m (l.bus.device slot)) :
    (apply window c l u).Ends l slot (fun u d _ => u.Tried c s m d)
      fun u d _ => u.Tried c s m d := by
  have hends := apply_based hindex hslot h.toBased window c
  have hpresent : (apply window c l u).slot.present = true := by
    rw [(apply_record window l u c).present]
    split_ifs
    · rw [edit_present, h.present]
    · exact h.present
  have htried : (apply window c l u).slot.Tried c s m ((apply window c l u).link.bus.device slot) :=
    ⟨hends.always, hpresent, (agreeOff_apply window c l u).trans h.shown⟩
  exact ⟨hends.index, hends.confined, hends.issued, fun _ => htried, fun _ _ => htried⟩

end Slot

namespace Gateway

variable {g g' : Gateway Simulation} {i : UInt8} {u : Slot} {c : Command}

theorem tried_invariant (i : UInt8) (c : Command) (s : StatusImage)
    (m : Image BlockKind.holding.size) :
    SlotInvariant (unitKept i) (· = .apply i c) i fun u d _ => u.Tried c s m d where
  aside _ h := h
  outside hbus h := by
    obtain ⟨⟨hmirrors, hreserved⟩, hpresent, hshown⟩ := h
    refine ⟨⟨hmirrors.of_holding rfl hbus.1, fun k hk => ?_⟩, hpresent, hshown⟩
    exact (congrArg (Image.bit · k) hbus.1).trans (hreserved k hk)
  -- Of all calls, attempts at this command alone are admitted.
  found hadmitted := by cases hadmitted
  polled hadmitted := by cases hadmitted
  readError hadmitted := by cases hadmitted
  prepare hadmitted := by cases hadmitted
  commit hadmitted := by cases hadmitted
  apply c' hadmitted window l u hindex _ hslot h := by
    cases hadmitted
    exact Slot.apply_tried hindex hslot window h

/-- The slot shows `s`, and its unit was brought to that: nothing is pending, and the holding block
is the one made for `s` with the reserved bits of `m`. -/
structure Brought (g : Gateway Simulation) (i : UInt8) (m : Image BlockKind.holding.size)
    (s : StatusImage) (u : Slot) : Prop where
  present : g.present? i = .ok u
  status : u.status = s
  clean : u.holding.dirty = false
  image : u.holding.image = HoldingCache.target m s
  block : g.link.bus.block .holding i = HoldingCache.target m s
  reported : (g.link.bus.block .status i).controls = s.image.controls

namespace Brought

variable {m m' : Image BlockKind.holding.size} {s : StatusImage}

/-- Of the block that the unit had before, the reserved bits alone matter. -/
theorem of_reserved (h : g.Brought i m' s u)
    (hreserved : ∀ k, Layout.Reserved k → m'.bit k = m.bit k) : g.Brought i m s u := by
  have htarget : HoldingCache.target m' s = HoldingCache.target m s :=
    HoldingCache.target_congr hreserved s
  exact { h with
    image := h.image.trans htarget
    block := h.block.trans htarget }

/-- What others may do leaves the unit brought to it. -/
theorem outside (h : g.Brought i m s u) (hrun : Run (unitKept i) g [] g') : g'.Brought i m s u := by
  refine hrun.preserves (P := fun g => g.Brought i m s u) (fun _ => False) (by simp) h
    (fun _ _ hk => hk.elim) ?_
  rintro g bus now ⟨hblock, hcontrols⟩ - hg
  exact { hg with
    block := hblock.trans hg.block
    reported := hcontrols.trans hg.reported }

end Brought

theorem Reachable.keepsHolding (h : Reachable (unitKept i) g) : Reachable (holdingKept i) g :=
  h.mono (fun _ _ hbus => hbus.1) fun _ _ _ => trivial

theorem brought_of_apply (h : Reachable (unitKept i) g) (hu : g.present? i = .ok u)
    (hok : (g.apply i c).1 = .ok ()) :
    ∃ u', (g.apply i c).2.Brought i (g.link.bus.block .holding i) (u.edit c).status u' := by
  have hholding : Reachable (holdingKept i) g := h.keepsHolding
  have hcontrols : Reachable (controlsKept i) g :=
    h.mono (fun _ _ hbus => hbus.2) fun _ _ _ => trivial
  obtain ⟨hi, hindex⟩ := h.indexed.of_present hu
  obtain ⟨u', hu', hstatus, hdelivered, hblock⟩ := delivered_of_apply hholding hu hok
  -- What was delivered is known up to the reserved bits, and these the image had from the start.
  have haims : u'.Aims (g.link.bus.block .holding i) := by
    have hmirrors := (mirrors_invariant i).of_present hholding hu
    obtain ⟨v, hv, hresult⟩ := onPresent_eq_ok.mp hok
    obtain rfl : u = v := Except.ok.inj (hu.symm.trans hv)
    have hends := Slot.apply_aims hindex hi ⟨hmirrors, fun _ _ => rfl⟩ g.settings.cacheWriteS c
    exact (at_onPresent (I := fun u _ _ => u.Aims _) hu (hends.ok hresult)).of_present hu'
  have himage : u'.holding.image = HoldingCache.target _ (u.edit c).status :=
    hstatus ▸ haims.eq_target hdelivered
  have hinStep : u'.InStep _ := (inStep_invariant i).of_present (hcontrols.call (.apply i c)) hu'
    (present?_eq_ok.mp hu').2
  exact ⟨u', hu', hstatus, hdelivered.clean, himage, hblock.trans himage,
    (hinStep hdelivered.clean).1.symm.trans (by rw [hstatus])⟩

/-- A command to a unit that was brought to something goes on from there. -/
theorem Brought.apply {m : Image BlockKind.holding.size} {s : StatusImage}
    (hg : g.Brought i m s u) (h : Reachable (unitKept i) g) (hok : (g.apply i c).1 = .ok ()) :
    ∃ u', (g.apply i c).2.Brought i m (u.edit c).status u' := by
  obtain ⟨u', hbrought⟩ := brought_of_apply h hg.present hok
  refine ⟨u', hbrought.of_reserved fun k hk => ?_⟩
  rw [hg.block, HoldingCache.reserved_target m s hk]

/-- However often a command was tried before, where no fault is left it succeeds and ends as it
would have ended the first time. -/
theorem brought_after_tries (h : Reachable (unitKept i) g) (hu : g.present? i = .ok u) {n : Nat}
    (hrun : Run (unitKept i) g (List.replicate n (.apply i c)) g')
    (hserves : g'.link.bus.Serves i) :
    (g'.apply i c).1 = .ok () ∧
      ∃ u', (g'.apply i c).2.Brought i (g.link.bus.block .holding i) (u.edit c).status u' := by
  have hreachable : Reachable (unitKept i) g' := h.run hrun
  have hstart : g.At i fun v d _ => v.Tried c u.status (g.link.bus.block .holding i) d := by
    obtain ⟨hslot, hpresent⟩ := present?_eq_ok.mp hu
    have hmirrors := (mirrors_invariant i).of_present h.keepsHolding hu
    exact ⟨u, hslot, ⟨hmirrors, fun _ _ => rfl⟩, hpresent, .refl _ _⟩
  obtain ⟨-, v, hslot, htried⟩ := (tried_invariant i c _ _).at_run hrun
    (fun _ hk => List.eq_of_mem_replicate hk) h.indexed hstart
  have hv : g'.present? i = .ok v := present?_eq_ok.mpr ⟨hslot, htried.present⟩
  have hok := apply_ok_of_serves hreachable.indexed hv hserves c
  obtain ⟨u', hbrought⟩ := brought_of_apply hreachable hv hok
  refine ⟨hok, u', ?_⟩
  -- The attempts may have changed the status image and the block, but nothing the end depends on.
  have hstatus : (v.edit c).status = (u.edit c).status := Slot.status_edit_congr htried.shown
  rw [hstatus] at hbrought
  exact hbrought.of_reserved htried.reserved

/-- A command that is given again after attempts that failed ends as one that is given once: it
succeeds, and the holding block, both images of the slot and the controls the unit reports are the
same. Between the attempts faults may come and go and any time may pass. -/
theorem retry_ends_alike (h : Reachable (unitKept i) g) (hu : g.present? i = .ok u) {n : Nat}
    {a b : Gateway Simulation} (ha : Run (unitKept i) g [] a)
    (hb : Run (unitKept i) g (List.replicate n (.apply i c)) b) (hserves : a.link.bus.Serves i)
    (hserves' : b.link.bus.Serves i) :
    (a.apply i c).1 = .ok () ∧ (b.apply i c).1 = .ok () ∧
      (b.apply i c).2.link.bus.block .holding i = (a.apply i c).2.link.bus.block .holding i ∧
      ((b.apply i c).2.link.bus.block .status i).controls =
        ((a.apply i c).2.link.bus.block .status i).controls ∧
      ∃ v w, (a.apply i c).2.present? i = .ok v ∧ (b.apply i c).2.present? i = .ok w ∧
        w.holding.image = v.holding.image ∧ w.status.image = v.status.image ∧
        v.holding.dirty = false ∧ w.holding.dirty = false := by
  obtain ⟨hok, v, hv⟩ := brought_after_tries (n := 0) h hu ha hserves
  obtain ⟨hok', w, hw⟩ := brought_after_tries h hu hb hserves'
  refine ⟨hok, hok', ?_, ?_, v, w, hv.present, hw.present, ?_, ?_, hv.clean, hw.clean⟩
  · rw [hv.block, hw.block]
  · rw [hv.reported, hw.reported]
  · rw [hv.image, hw.image]
  · rw [hv.status, hw.status]

/-- The started unit forty seconds later, when its holding block cannot be read. -/
def demoUnread : Gateway Simulation :=
  demoStarted.amid (demoStarted.link.bus.failReads .holding (BlockKind.holding.address 1) .check)
    40000

/-- It was told to cool in vain, and now its holding block can be read, but not written. -/
def demoUnwritten : Gateway Simulation :=
  let g := demoUnread.call (.apply 1 (.mode .cool))
  g.amid (g.link.bus.clearFaults.failWrites (BlockKind.holding.address 1) .timeout) 90000

/-- It was told to cool in vain once more, and nothing is wrong any longer. -/
def demoRetried : Gateway Simulation :=
  let g := demoUnwritten.call (.apply 1 (.mode .cool))
  g.amid g.link.bus.clearFaults g.link.now

theorem retry_ends_alike_demo :
    (demoUnread.apply 1 (.mode .cool)).1 = .error (.bus (.checkMismatch 0x0000 0xFFFF)) ∧
      (demoUnwritten.apply 1 (.mode .cool)).1 = .error (.bus (.timeout 8 0)) ∧
      (demoRetried.apply 1 (.mode .cool)).1 = .ok () ∧
      (demoRetried.apply 1 (.mode .cool)).2.link.bus.block .holding 1 =
        (demoStarted.apply 1 (.mode .cool)).2.link.bus.block .holding 1 := by
  have hu : demoStarted.present? 1 = .ok (demoStarted.slots.getD 1 default) := by decide +kernel
  have hrun : Run (unitKept 1) demoStarted (List.replicate 2 (.apply 1 (.mode .cool)))
      demoRetried := by
    have hunread : Run (unitKept 1) demoStarted [] demoUnread := by
      unfold demoUnread
      exact Run.start.outside
        (unitKept_of_registers (Simulation.registers_failReads _ _ _ _)) trivial
    have hunwritten : Run (unitKept 1) demoStarted [.apply 1 (.mode .cool)] demoUnwritten := by
      unfold demoUnwritten
      exact (hunread.call (.apply 1 (.mode .cool))).outside
        (unitKept_of_registers ((Simulation.registers_failWrites _ _ _).trans
          (Simulation.registers_clearFaults _))) trivial
    unfold demoRetried
    exact (hunwritten.call (.apply 1 (.mode .cool))).outside
      (unitKept_of_registers (Simulation.registers_clearFaults _)) trivial
  have hserves : demoStarted.link.bus.Serves 1 := by constructor <;> decide +kernel
  have hunread : (demoUnread.apply 1 (.mode .cool)).1 =
      .error (.bus (.checkMismatch 0x0000 0xFFFF)) := by decide +kernel
  have hunwritten : (demoUnwritten.apply 1 (.mode .cool)).1 = .error (.bus (.timeout 8 0)) := by
    decide +kernel
  obtain ⟨-, hok, hblock, -⟩ := retry_ends_alike (c := .mode .cool)
    (reachable_demoStarted (unitKept 1)) hu .start hrun hserves
    (Simulation.serves_clearFaults _ 1)
  exact ⟨hunread, hunwritten, hok, hblock⟩

end Gateway

end ClimateBus
