import ClimateBus.Proofs.SlotInvariants
import Mathlib

/-!
The writes that ask a unit to clear its filter sign.

The request is sent and withdrawn again, so that the unit sees a pulse. It is only sent if it
changes the holding image, though, while it is withdrawn in any case: where the image has the
request already and agrees with the status image in all else, the unit is sent its end alone.
-/
namespace ClimateBus

/-- The words of the holding writes to a slot, in the order they were issued. -/
def Issue.sentTo (i : UInt8) (ops : List Issue) : List Words :=
  ops.filterMap fun e => if e.slot = i ∧ e.kind = .holding then e.written else none

theorem Issue.sentTo_append (i : UInt8) (ops ops' : List Issue) :
    Issue.sentTo i (ops ++ ops') = Issue.sentTo i ops ++ Issue.sentTo i ops' :=
  List.filterMap_append

theorem BusLink.sentTo_readIssue (l : BusLink Simulation) (kind : BlockKind) (i : UInt8)
    (ok : Bool) : Issue.sentTo i [l.readIssue kind i ok] = [] := by
  simp [Issue.sentTo, readIssue]

theorem BusLink.sentTo_writeIssue (l : BusLink Simulation) (i : UInt8) (ws : Words) (ok : Bool) :
    Issue.sentTo i [l.writeIssue i ws ok] = [ws] := by
  simp [Issue.sentTo, writeIssue]

/-- A block that asks for the filter sign to be cleared, and behind it the same block without that
request. -/
def Pulses (sent : List Words) : Prop :=
  ∃ m : Image BlockKind.holding.size, m.unsigned Layout.filter = Layout.filterReset ∧
    [m.words, (m.setUnsigned Layout.filter 0).image.words].Sublist sent

namespace HoldingCache

/-- The words a write of the image sends: none without an edit. -/
def due (h : HoldingCache) : List Words := if h.dirty then [h.image.words] else []

/-- The image once they have been sent. -/
def flushed (h : HoldingCache) (stamp : UInt64) : HoldingCache :=
  if h.dirty then h.markWritten stamp else h

@[simp] theorem flushed_image (h : HoldingCache) (stamp : UInt64) :
    (h.flushed stamp).image = h.image := by
  rw [flushed]
  split_ifs <;> rfl

/-- The image `b` is taken as it is, or it takes over the status image and is written. In the end it
is `h`, and `sent` has been sent. -/
inductive Prepares (b : HoldingCache) (s : StatusImage) : HoldingCache → List Words → Prop
  | trusted : Prepares b s b []
  | synced (stamp : UInt64) : Prepares b s ((b.syncFrom s).flushed stamp) (b.syncFrom s).due

/-- The image with the request to clear the filter sign. -/
def requested (h : HoldingCache) (s : StatusImage) : HoldingCache :=
  (h.setFilterReset true).syncFrom s

theorem filter_requested (h : HoldingCache) (s : StatusImage) :
    (h.requested s).image.unsigned Layout.filter = Layout.filterReset := by
  rw [requested, unsigned_filter_syncFrom, unsigned_filter_setFilterReset]
  rfl

/-- The words sent behind the preparation: the request, if it makes a difference, and its end. -/
def requestWords (h : HoldingCache) (s : StatusImage) : List Words :=
  (h.requested s).due ++ [((h.requested s).image.setUnsigned Layout.filter 0).image.words]

/-- A request that makes no difference leaves the image as it is. -/
theorem requested_eq {h : HoldingCache} {s : StatusImage} (hclean : (h.requested s).dirty = false) :
    h.requested s = h := by
  have hedited := (h.edited_setFilterReset true).trans ((h.setFilterReset true).edited_syncFrom s)
  exact hedited.eq_of_clean hclean

/-- It makes none just if the image has it and agrees with the status image. -/
theorem dirty_requested {h : HoldingCache} {s : StatusImage} :
    (h.requested s).dirty = false ↔
      (h.syncFrom s).dirty = false ∧ h.image.unsigned Layout.filter = Layout.filterReset := by
  constructor
  · intro hclean
    have hset : h.setFilterReset true = h := (h.edited_setFilterReset true).eq_of_clean
      (((h.setFilterReset true).edited_syncFrom s).clean hclean)
    have hfilter := h.filter_requested s
    rw [requested_eq hclean] at hfilter
    rw [requested, hset] at hclean
    exact ⟨hclean, hfilter⟩
  · rintro ⟨hclean, hfilter⟩
    have hdirty : h.dirty = false := (h.edited_syncFrom s).clean hclean
    have hchanged : (h.image.setUnsigned Layout.filter Layout.filterReset).changed = false :=
      Image.changed_setUnsigned_of_eq hfilter
    have hset : h.setFilterReset true = h := by
      refine (h.edited_setFilterReset true).eq_of_clean ?_
      rw [setFilterReset, setCode, edit, if_pos rfl, hchanged, hdirty]
      rfl
    rw [requested, hset, hclean]

theorem pulses_of_dirty {h : HoldingCache} {s : StatusImage}
    (hdirty : (h.requested s).dirty = true) (sent : List Words) :
    Pulses (sent ++ h.requestWords s) := by
  refine ⟨(h.requested s).image, h.filter_requested s, ?_⟩
  rw [requestWords, due, if_pos hdirty]
  exact List.sublist_append_right _ _

theorem requestWords_of_clean {h : HoldingCache} {s : StatusImage}
    (hclean : (h.requested s).dirty = false) :
    h.requestWords s = [(h.image.setUnsigned Layout.filter 0).image.words] := by
  rw [requestWords, due, requested_eq hclean, if_neg, List.nil_append]
  rw [requested_eq hclean] at hclean
  rw [hclean]
  exact Bool.false_ne_true

theorem Prepares.of_clean {b h : HoldingCache} {s : StatusImage} {sent : List Words}
    (hprepares : b.Prepares s h sent) (hclean : (b.syncFrom s).dirty = false) :
    h = b ∧ sent = [] := by
  cases hprepares with
  | trusted => exact ⟨rfl, rfl⟩
  | synced stamp =>
    have hsame : b.syncFrom s = b := (b.edited_syncFrom s).eq_of_clean hclean
    rw [hsame] at hclean ⊢
    simp [flushed, due, hclean]

/-- What a request to clear the filter sign sends, with the preparation before it, contains a pulse
unless there was nothing to change. -/
theorem pulses_iff {b h : HoldingCache} {s : StatusImage} {sent : List Words}
    (hprepares : b.Prepares s h sent) : Pulses (sent ++ h.requestWords s) ↔
      (b.syncFrom s).dirty = true ∨ b.image.unsigned Layout.filter ≠ Layout.filterReset := by
  cases hsync : (b.syncFrom s).dirty with
  | false =>
    obtain ⟨rfl, rfl⟩ := hprepares.of_clean hsync
    simp only [Bool.false_eq_true, false_or]
    constructor
    · rintro ⟨m, -, hsublist⟩ hfilter
      rw [requestWords_of_clean (dirty_requested.mpr ⟨hsync, hfilter⟩)] at hsublist
      exact absurd hsublist.length_le (by simp)
    · intro hfilter
      refine pulses_of_dirty ?_ []
      rw [← Bool.not_eq_false]
      intro hclean
      exact hfilter (dirty_requested.mp hclean).2
  | true =>
    refine iff_of_true ?_ (.inl rfl)
    cases hrequested : (h.requested s).dirty with
    | true => exact pulses_of_dirty hrequested sent
    | false =>
      obtain ⟨hclean, hfilter⟩ := dirty_requested.mp hrequested
      cases hprepares with
      | trusted => simp [hsync] at hclean
      | synced stamp =>
        -- The request came with the preparation, so that was the first half of the pulse.
        rw [flushed_image] at hfilter
        refine ⟨_, hfilter, ?_⟩
        rw [requestWords_of_clean hrequested, flushed_image, due, if_pos hsync]
        exact List.Sublist.refl _

end HoldingCache

namespace Slot

/-- The holding image an edit starts from, given the block of the unit. -/
def baseline (u : Slot) (now : UInt64) (window : UInt32) (held : Image BlockKind.holding.size) :
    HoldingCache :=
  if u.stale now window then (u.reloaded held now).holding else u.holding

theorem holding_sync_edit (u : Slot) :
    (u.edit .filterReset).sync.holding = u.holding.requested u.status := by
  rw [sync, edit, HoldingCache.requested]

section Steps

variable {l : BusLink Simulation} {u : Slot} {slot : UInt8} (hindex : u.index = slot)
  (hslot : slot.toNat < slotCount)
include hindex hslot

theorem writeHolding_sends (stamp : UInt64) : (writeHolding l u stamp).Ends l slot
    (fun u' _ log => u'.holding = u.holding.flushed stamp ∧ u'.status = u.status ∧
      Issue.sentTo slot log = Issue.sentTo slot l.issued ++ u.holding.due) .any := by
  refine writeHolding_ends hindex hslot stamp (fun hclean => ?_) (fun hdirty => ?_) fun _ => trivial
  · simp [HoldingCache.flushed, HoldingCache.due, hclean]
  · refine ⟨?_, written_status u stamp, ?_⟩
    · rw [HoldingCache.flushed, if_pos hdirty, written]
    · rw [Issue.sentTo_append, BusLink.sentTo_writeIssue, HoldingCache.due, if_pos hdirty]

theorem prepare_sends (window : UInt32) : (prepare window l u).Ends l slot
    (fun u' _ log => u'.status = u.status ∧ ∃ sent,
      (u.baseline l.now window (l.bus.device slot).holding).Prepares u.status u'.holding sent ∧
        Issue.sentTo slot log = Issue.sentTo slot l.issued ++ sent) .any := by
  by_cases hstale : u.stale l.now window = true
  · refine prepare_ends hindex (fun htrusted => ?_) trivial fun l' hdevice hissued => ?_
    · rw [hstale] at htrusted
      cases htrusted
    · have hindex' : (u.reloaded (l.bus.device slot).holding l.now).sync.index = slot := by
        rw [sync_index, reloaded_index, hindex]
      refine (writeHolding_sends hindex' hslot l.now).weaken ?_ fun _ _ _ h => h
      rintro u' - log ⟨hholding, hstatus, hsent⟩
      rw [sync_status, reloaded_status] at hstatus
      refine ⟨hstatus, (u.reloaded (l.bus.device slot).holding l.now).sync.holding.due, ?_, ?_⟩
      · rw [hholding, baseline, if_pos hstale, sync, reloaded_status]
        exact .synced l.now
      · rw [hsent, hissued, Issue.sentTo_append, BusLink.sentTo_readIssue, List.append_nil]
  · have hstep : prepare window l u = ⟨.ok (), u, l⟩ := by rw [prepare, if_neg hstale]
    rw [hstep]
    refine .stay hindex ⟨rfl, [], ?_, (List.append_nil _).symm⟩
    rw [baseline, if_neg hstale]
    exact .trusted

theorem endPulse_sends (stamp : UInt64)
    (hfilter : u.holding.image.unsigned Layout.filter = Layout.filterReset) :
    (endPulse stamp l u).Ends l slot (fun _ _ log => Issue.sentTo slot log =
      Issue.sentTo slot l.issued ++ [(u.holding.image.setUnsigned Layout.filter 0).image.words])
      .any := by
  refine endPulse_ends hindex (fun hquiet => ?_) ?_
  · rw [HoldingCache.filterReset, hfilter] at hquiet
    exact absurd hquiet (by decide)
  · have hdue : u.withdrawn.holding.due =
        [(u.holding.image.setUnsigned Layout.filter 0).image.words] := by
      have himage : u.withdrawn.holding.image =
          (u.holding.image.setUnsigned Layout.filter 0).image := by
        rw [withdrawn, HoldingCache.setFilterReset, HoldingCache.setCode, HoldingCache.image_edit]
        rfl
      have hcleared := u.holding.unsigned_filter_setFilterReset false
      cases hdirty : u.withdrawn.holding.dirty with
      | true => rw [HoldingCache.due, if_pos hdirty, himage]
      | false =>
        rw [(u.holding.edited_setFilterReset false).unchanged hdirty, hfilter] at hcleared
        exact absurd hcleared (by decide)
    have hindex' : u.withdrawn.index = slot := by rw [withdrawn_index, hindex]
    refine (writeHolding_sends hindex' hslot stamp).weaken ?_ fun _ _ _ h => h
    rintro u' - log ⟨-, -, hsent⟩
    rw [hsent, hdue]

theorem commit_sends : (commit l (u.edit .filterReset)).Ends l slot
    (fun _ _ log => Issue.sentTo slot log =
      Issue.sentTo slot l.issued ++ u.holding.requestWords u.status) .any := by
  have hindex' : (u.edit .filterReset).sync.index = slot := by rw [sync_index, edit_index, hindex]
  refine commit_ends (writeHolding_sends hindex' hslot l.now) fun l' u' hindex' h' => ?_
  obtain ⟨hholding, -, hsent⟩ := h'
  rw [holding_sync_edit] at hholding hsent
  have himage : u'.holding.image = (u.holding.requested u.status).image := by
    rw [hholding, HoldingCache.flushed_image]
  have hfilter : u'.holding.image.unsigned Layout.filter = Layout.filterReset := by
    rw [himage, u.holding.filter_requested]
  refine (endPulse_sends hindex' hslot l.now hfilter).weaken ?_ fun _ _ _ h => h
  rintro - - log hlog
  rw [hlog, hsent, himage, List.append_assoc, HoldingCache.requestWords]

theorem apply_sends (window : UInt32) : (apply window .filterReset l u).Ends l slot
    (fun _ _ log => ∃ h sent,
      (u.baseline l.now window (l.bus.device slot).holding).Prepares u.status h sent ∧
        Issue.sentTo slot log = Issue.sentTo slot l.issued ++ (sent ++ h.requestWords u.status))
      .any := by
  refine apply_ends (prepare_sends hindex hslot window) fun l' u' hindex' h' => ?_
  obtain ⟨hstatus, sent, hprepares, hsent⟩ := h'
  refine (commit_sends hindex' hslot).weaken ?_ fun _ _ _ h => h
  rintro - - log hlog
  refine ⟨u'.holding, sent, hprepares, ?_⟩
  rw [hlog, hsent, hstatus, List.append_assoc]

end Steps

end Slot

namespace Gateway

variable {g : Gateway Simulation} {i : UInt8}

/-- A request to clear the filter sign that succeeded was a pulse on the bus just if the image it
started from did not agree with the status image or did not have the request already. -/
theorem filter_reset_pulses_iff {s : Surroundings Simulation} (h : Reachable s g) {u : Slot}
    (hu : g.present? i = .ok u) (hok : (g.apply i .filterReset).1 = .ok ()) :
    Pulses (Issue.sentTo i
        ((g.apply i .filterReset).2.link.issued.drop g.link.issued.length)) ↔
      let b := u.baseline g.link.now g.settings.cacheWriteS (g.link.bus.block .holding i)
      (b.syncFrom u.status).dirty = true ∨ b.image.unsigned Layout.filter ≠ 15 := by
  obtain ⟨hi, hindex⟩ := h.indexed.of_present hu
  obtain ⟨v, hv, hresult⟩ := onPresent_eq_ok.mp hok
  obtain rfl : u = v := Except.ok.inj (hu.symm.trans hv)
  have hends := Slot.apply_sends (l := g.link) hindex hi g.settings.cacheWriteS
  obtain ⟨new, hissued, -⟩ := hends.issued
  obtain ⟨held, sent, hprepares, hsent⟩ := hends.ok hresult
  rw [hissued, Issue.sentTo_append] at hsent
  have happly : (g.apply i .filterReset).2.link.issued = g.link.issued ++ new := by
    rw [Gateway.apply, onPresent_present hu]
    exact hissued
  rw [happly, List.drop_left, List.append_cancel_left hsent]
  exact HoldingCache.pulses_iff hprepares

/-- A unit whose holding block somebody left with a request to clear the filter sign, and it was
read so. -/
def demoRequested : Gateway Simulation :=
  let g := (Gateway.new Simulation.demo 0 1 {}).call .discover
  (g.amid (g.link.bus.store .holding (BlockKind.holding.address 1) [96, 241, 210]) g.link.now).call
    (.prepare 1)

/-- Of another request it is sent the end alone; a unit that was left alone is sent a pulse. -/
theorem filter_reset_pulses_iff_demo :
    (demoRequested.apply 1 .filterReset).1 = .ok () ∧
      ¬ Pulses (Issue.sentTo 1 ((demoRequested.apply 1 .filterReset).2.link.issued.drop
        demoRequested.link.issued.length)) ∧
      Pulses (Issue.sentTo 0 ((demoRequested.apply 0 .filterReset).2.link.issued.drop
        demoRequested.link.issued.length)) := by
  have hreachable : Reachable ⟨fun _ _ => True, fun _ _ => True⟩ demoRequested := by
    unfold demoRequested
    exact (((Reachable.new _ _ _ _).call .discover).amid trivial trivial).call (.prepare 1)
  have hu : demoRequested.present? 1 = .ok (demoRequested.slots.getD 1 default) := by
    decide +kernel
  have hu₀ : demoRequested.present? 0 = .ok (demoRequested.slots.getD 0 default) := by
    decide +kernel
  have hok : (demoRequested.apply 1 .filterReset).1 = .ok () := by decide +kernel
  have hok₀ : (demoRequested.apply 0 .filterReset).1 = .ok () := by decide +kernel
  refine ⟨hok, ?_, ?_⟩
  · rw [filter_reset_pulses_iff hreachable hu hok]
    decide +kernel
  · rw [filter_reset_pulses_iff hreachable hu₀ hok₀]
    decide +kernel

end Gateway

end ClimateBus
