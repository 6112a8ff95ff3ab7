import ClimateBus.Proofs.LinkHistory
import ClimateBus.Proofs.SlotInvariants
import Mathlib

/-!
How long after a holding write a poll pass reads the status again.

A write is stamped with the time its call or its commit began, before the waits for the bus. What
that call or commit began with (`Issue.Opens`) is the write itself or the one operation before it:
the read of a preparation, or the first write of a pulse. A pass looks at the clock once, when it
begins, and every read of the pass goes out after that. So the write-cache window lies between the
beginning and the next status read of a poll pass. From the write itself to that read it is less, by
two pauses and the time the operation before the write took, at most.
-/
namespace ClimateBus

namespace Issue

/-- A read of the system block that succeeded: a discovery that forgets what was known. -/
def discovers (e : Issue) : Bool := e.kind == .system && e.succeeded

/-- The operations issued since the last discovery. -/
def sinceDiscovery (log : List Issue) : List Issue := log.rtakeWhile fun e => !e.discovers

/-- A holding write to a slot that succeeded. -/
structure Lands (i : UInt8) (e : Issue) : Prop where
  slot : e.slot = i
  kind : e.kind = .holding
  written : e.written.isSome = true
  succeeded : e.succeeded = true

/-- The milliseconds an operation took. -/
def took (e : Issue) : Nat := e.endedAt.toNat - e.issuedAt.toNat

/-- A write and what its call or its commit began with: the same operation, or the one before it,
and the write was asked for when that was over. -/
def Opens (log : List Issue) (d w : Issue) : Prop :=
  d = w ∨ [d, w] <:+: log ∧ w.requestedAt = d.endedAt

theorem Opens.append {log : List Issue} {d w : Issue} (h : Opens log d w) (new : List Issue) :
    Opens (log ++ new) d w :=
  h.imp_right fun ⟨hnext, hasked⟩ => ⟨hnext.trans (List.infix_append [] log new), hasked⟩

/-- Where no operation waits for more than one pause, a write goes out two pauses after the
beginning at most, and what came in between. -/
theorem Opens.issuedAt_le {log : List Issue} {d w : Issue} (h : Opens log d w) (hw : w ∈ log)
    {throttleMs : Nat} (hlog : ∀ e ∈ log, e.issuedAt.toNat ≤ e.requestedAt.toNat + throttleMs) :
    w.issuedAt.toNat ≤ d.requestedAt.toNat + 2 * throttleMs + if d = w then 0 else d.took := by
  have hwrite := hlog w hw
  rcases h with rfl | ⟨hnext, hasked⟩
  · omega
  · have hopening := hlog d (hnext.subset List.mem_cons_self)
    rw [hasked] at hwrite
    split_ifs with heq
    · subst heq
      omega
    · rw [took]
      omega

/-- A read is no write. -/
theorem not_lands_of_read {i : UInt8} {e : Issue} (h : e.written = none) : ¬ e.Lands i := by
  rintro ⟨-, -, hwritten, -⟩
  rw [h] at hwritten
  cases hwritten

theorem mem_sinceDiscovery_append {e : Issue} {log new : List Issue}
    (h : e ∈ sinceDiscovery (log ++ new)) : e ∈ sinceDiscovery log ∨ e ∈ new := by
  induction new using List.reverseRecOn with
  | nil => exact .inl (by simpa using h)
  | append_singleton new d ih =>
    rw [← List.append_assoc, sinceDiscovery, List.rtakeWhile_concat] at h
    split_ifs at h
    · rcases List.mem_append.mp h with h | h
      · exact (ih h).imp_right fun h => List.mem_append_left _ h
      · exact .inr (List.mem_append_right _ h)
    · simp at h

/-- A discovery starts the count anew. -/
theorem mem_of_mem_sinceDiscovery {d e : Issue} {log new : List Issue} (hd : d.discovers = true)
    (h : e ∈ sinceDiscovery (log ++ d :: new)) : e ∈ new := by
  have hnone : sinceDiscovery (log ++ [d]) = [] := by
    rw [sinceDiscovery, List.rtakeWhile_concat, if_neg (by simp [hd])]
  rw [List.append_cons] at h
  exact (mem_sinceDiscovery_append h).resolve_left (by simp [hnone])

end Issue

namespace BusLink

variable {β : Type} [Bus β] {l l' : BusLink β} {stamp : UInt64}

/-- The call or commit that began at `stamp` has issued one operation at most, and that is over only
now. -/
def Begun (l : BusLink β) (stamp : UInt64) : Prop :=
  l.now = stamp ∨ ∃ d, l.issued.getLast? = some d ∧ d.endedAt = l.now ∧ d.requestedAt = stamp

/-- One operation later. -/
theorem Issues.begun {e : Issue} (h : l.Issues e l') (hstart : l.now = stamp) : l'.Begun stamp := by
  refine .inr ⟨e, ?_, h.endedAt, h.requestedAt.trans hstart⟩
  rw [h.issued, List.getLast?_concat]

/-- An operation that is issued next is opened by one that was asked for at the beginning. -/
theorem Begun.opens (h : l.Begun stamp) {e : Issue} (hissues : l.Issues e l') :
    ∃ d, Issue.Opens l'.issued d e ∧ d.requestedAt = stamp := by
  rcases h with hstart | ⟨d, hlast, hended, hasked⟩
  · exact ⟨e, .inl rfl, hissues.requestedAt.trans hstart⟩
  · refine ⟨d, .inr ⟨?_, hissues.requestedAt.trans hended.symm⟩, hasked⟩
    obtain ⟨before, hbefore⟩ := List.getLast?_eq_some_iff.mp hlast
    rw [hissues.issued, hbefore, List.append_assoc]
    exact List.infix_append' before [d, e] []

end BusLink

namespace Slot

variable {β : Type} {l l' : BusLink β} {u u' : Slot} {bound stamp : UInt64}

/-- Since the unit was found, no write to it was begun after the stamp of the last one, and that is
itself not after `bound`. -/
def Dates (u : Slot) (l : BusLink β) (bound : UInt64) : Prop :=
  ∀ w ∈ Issue.sinceDiscovery l.issued, w.Lands u.index →
    ∃ t d, u.holding.lastWrite = some t ∧ t ≤ bound ∧ Issue.Opens l.issued d w ∧ d.requestedAt ≤ t

namespace Dates

theorem later (h : u.Dates l stamp) (hle : stamp ≤ bound) : u.Dates l bound := by
  intro w hw hlands
  obtain ⟨t, d, ht, hbound, hopens⟩ := h w hw hlands
  exact ⟨t, d, ht, UInt64.le_trans hbound hle, hopens⟩

theorem of_stamp (h : u.Dates l bound) (hindex : u'.index = u.index)
    (hstamp : u'.holding.lastWrite = u.holding.lastWrite) : u'.Dates l bound := by
  intro w hw hlands
  rw [hindex] at hlands
  rw [hstamp]
  exact h w hw hlands

theorem sync (h : u.Dates l bound) : u.sync.Dates l bound :=
  h.of_stamp (sync_index u) (u.holding.edited_syncFrom u.status).lastWrite

theorem edit (h : u.Dates l bound) (c : Command) : (u.edit c).Dates l bound :=
  h.of_stamp (u.edit_index c) (u.edited_edit_holding c).lastWrite

theorem withdrawn (h : u.Dates l bound) : u.withdrawn.Dates l bound :=
  h.of_stamp (withdrawn_index u) (u.holding.edited_setFilterReset false).lastWrite

variable [Bus β]

/-- Operations that are no writes to the unit. -/
theorem leads {p : Issue → Prop} (h : u.Dates l bound) (hleads : l.Leads p l')
    (hp : ∀ e, p e → ¬ e.Lands u.index) : u.Dates l' bound := by
  obtain ⟨new, hissued, hnew⟩ := hleads.issued
  intro w hw hlands
  rw [hissued] at hw ⊢
  rcases Issue.mem_sinceDiscovery_append hw with hw | hw
  · obtain ⟨t, d, ht, hbound, hopens, hbegan⟩ := h w hw hlands
    exact ⟨t, d, ht, hbound, hopens.append new, hbegan⟩
  · exact absurd hlands (hp w (hnew w hw))

theorem read (h : u.Dates l bound) {kind : BlockKind} {slot : UInt8} {ok : Bool} {ended : UInt64}
    (hissues : l.Issues (l.readIssue kind slot ok ended) l') : u.Dates l' bound := by
  refine h.leads (p := fun e => e.written = none) (hissues.leads rfl) ?_
  exact fun e he => Issue.not_lands_of_read he

/-- The stamp of the write is the last one from then on. -/
theorem written (h : u.Dates l stamp) {e : Issue} (hissues : l.Issues e l')
    (hbegun : l.Begun stamp) : (u.written stamp).Dates l' stamp := by
  intro w hw hlands
  rw [hissues.issued] at hw
  rcases Issue.mem_sinceDiscovery_append hw with hw | hw
  · obtain ⟨t, d, -, hbound, hopens, hbegan⟩ := h w hw hlands
    refine ⟨stamp, d, rfl, UInt64.le_refl _, ?_, UInt64.le_trans hbegan hbound⟩
    rw [hissues.issued]
    exact hopens.append [e]
  · obtain ⟨d, hopens, hasked⟩ := hbegun.opens hissues
    rw [List.mem_singleton.mp hw]
    exact ⟨stamp, d, rfl, UInt64.le_refl _, hopens, UInt64.le_of_eq hasked⟩

end Dates

section Steps

variable [Bus β]

theorem writeHolding_dates (h : u.Dates l stamp) (hbegun : l.Begun stamp) :
    (writeHolding l u stamp).slot.Dates (writeHolding l u stamp).link stamp := by
  rcases writeHolding_cases l u stamp with hstep | ⟨l', ⟨hissues, hstep⟩ | ⟨e, hissues, hstep⟩⟩
  · rw [hstep]
    exact h
  · rw [hstep]
    exact h.written hissues hbegun
  · rw [hstep]
    refine h.leads (hissues.leads rfl) ?_
    rintro d rfl hlands
    exact Bool.false_ne_true hlands.succeeded

theorem endPulse_dates (h : u.Dates l stamp) (hbegun : l.Begun stamp) :
    (endPulse stamp l u).slot.Dates (endPulse stamp l u).link stamp := by
  unfold endPulse
  split_ifs
  · exact writeHolding_dates h.withdrawn hbegun
  · exact h

/-- The end of a pulse comes after one write, or none. -/
theorem commit_dates (h : u.Dates l l.now) : (commit l u).slot.Dates (commit l u).link l.now := by
  have hwrite := writeHolding_dates h.sync (.inl rfl)
  rcases (writeHolding l u.sync l.now).andThen_eq (endPulse l.now) with hstep | hstep
  · rw [commit, hstep]
    refine endPulse_dates hwrite ?_
    rcases writeHolding_cases l u.sync l.now with
      hfirst | ⟨l', ⟨hissues, hfirst⟩ | ⟨e, hissues, hfirst⟩⟩
    · rw [hfirst]
      exact .inl rfl
    · rw [hfirst]
      exact hissues.begun rfl
    · rw [hfirst]
      exact hissues.begun rfl
  · rw [commit, hstep]
    exact hwrite

theorem prepare_dates (h : u.Dates l l.now) (window : UInt32) :
    (prepare window l u).slot.Dates (prepare window l u).link l.now := by
  rcases prepare_cases l u window with hstep | ⟨l', m, ⟨e, hissues, hstep⟩ | ⟨hissues, hstep⟩⟩
  · rw [hstep]
    exact h
  · rw [hstep]
    exact (h.read hissues).of_stamp rfl rfl
  · rw [hstep]
    have hreloaded : (u.reloaded m l.now).Dates l' l.now :=
      (h.read hissues).of_stamp (reloaded_index u m l.now) (by rw [reloaded]; rfl)
    exact writeHolding_dates hreloaded.sync (hissues.begun rfl)

theorem apply_dates (h : u.Dates l l.now) (window : UInt32) (c : Command)
    (hforward : (apply window c l u).link.Forward) :
    (apply window c l u).slot.Dates (apply window c l u).link (apply window c l u).link.now := by
  have hprepare := prepare_dates h window
  rcases (prepare window l u).andThen_eq (fun l u => commit l.idle (u.edit c)) with hstep | hstep
  · rw [apply, hstep] at hforward ⊢
    obtain ⟨hforward', hle', -⟩ := (commit_leads _ _).forward hforward
    obtain ⟨-, hle, -⟩ := (prepare_leads l u window).idle.forward hforward'
    exact (commit_dates ((hprepare.later hle).edit c)).later hle'
  · rw [apply, hstep] at hforward ⊢
    exact hprepare.later ((prepare_leads l u window).forward hforward).2.1

theorem readError_dates (h : u.Dates l l.now) (secs : UInt32) :
    (readError secs l u).slot.Dates (readError secs l u).link l.now := by
  unfold readError
  split_ifs
  · exact h
  · have hread : u.Dates (l.read .error u.index u.error.image).link l.now :=
      h.read (.read .error u.index u.error.image)
    dsimp only
    split <;> exact hread.of_stamp rfl rfl

end Steps

end Slot

namespace Gateway

variable {β : Type} [Bus β] {g : Gateway β} {i : UInt8}

/-- Unless a wait wrapped around, every record dates the writes to its unit. -/
def Dated (g : Gateway β) : Prop :=
  g.link.Forward → ∀ u ∈ g.slots, u.Dates g.link g.link.now

theorem Dated.onPresent {step : BusLink β → Slot → SlotStep β} (h : g.Dated) (hg : g.Indexed)
    (hleads : ∀ l u, BusLink.Leads (fun e => e.slot = u.index) l (step l u).link)
    (hstep : ∀ l u, u.Dates l l.now → (step l u).link.Forward →
      (step l u).slot.Dates (step l u).link (step l u).link.now) :
    (g.onPresent i step).2.Dated := by
  cases hu : g.present? i with
  | error e => rwa [onPresent_absent hu]
  | ok u =>
    obtain ⟨hslot, -⟩ := present?_eq_ok.mp hu
    intro hforward v hv
    have hmem := hg.mem_onPresent hu hv
    rw [onPresent_present hu] at hforward ⊢
    obtain ⟨hforward₀, hle, -⟩ := (hleads g.link u).forward hforward
    rcases hmem with rfl | ⟨hv, hindex⟩
    · exact hstep g.link u (h hforward₀ u (List.mem_of_getElem? hslot)) hforward
    · refine ((h hforward₀ v hv).leads (hleads g.link u) ?_).later hle
      intro e he hlands
      exact hindex (hlands.slot.symm.trans (he.trans (hg.of_present hu).2))

theorem Dated.discover (h : g.Dated) : g.discover.2.Dated := by
  intro hforward v hv
  obtain ⟨l', system, ⟨hissues, hdiscover⟩ | ⟨hissues, hslots, hlink, -⟩⟩ := g.discover_cases
  · rw [hdiscover] at hforward hv ⊢
    have hleads : g.link.Leads (fun e => e.written = none) l' := hissues.leads rfl
    obtain ⟨hforward₀, hle, -⟩ := hleads.forward hforward
    exact ((h hforward₀ v hv).leads hleads fun e he => Issue.not_lands_of_read he).later hle
  · intro w hw hlands
    -- The log begins anew with the system block, and what follows are reads.
    obtain ⟨new, hissued, hnew⟩ := (scan_leads system g.slots l').issued
    rw [hlink, hissued, hissues.issued, ← List.append_cons] at hw
    have hmem := Issue.mem_of_mem_sinceDiscovery rfl hw
    exact absurd hlands (Issue.not_lands_of_read (hnew w hmem))

theorem Dated.poll (h : g.Dated) : g.poll.2.Dated := by
  have hleads := refresh_leads g.link.now g.settings.cacheWriteS g.slots g.link
  intro hforward v hv
  obtain ⟨hforward₀, hle, -⟩ := hleads.forward hforward
  have hmap := map_refresh (f := fun u => (u.index, u.holding)) (fun _ _ => rfl) g.link.now
    g.settings.cacheWriteS g.slots g.link
  have hmem : (v.index, v.holding) ∈ g.slots.map fun u => (u.index, u.holding) := by
    rw [← hmap]
    exact List.mem_map_of_mem hv
  obtain ⟨u, hu, hsame⟩ := List.mem_map.mp hmem
  obtain ⟨hindex, hholding⟩ := Prod.mk.inj hsame
  have hkept : v.Dates g.link g.link.now :=
    (h hforward₀ u hu).of_stamp hindex.symm (by rw [hholding])
  refine (hkept.leads hleads ?_).later hle
  rintro e ⟨-, -, -, -, hread, -⟩
  exact Issue.not_lands_of_read hread

theorem Dated.call (h : g.Dated) (hg : g.Indexed) (k : Call) : (g.call k).Dated := by
  cases k with
  | discover => exact h.discover
  | poll => exact h.poll
  | readError i =>
    refine h.onPresent hg (fun l u => u.readError_leads l _) fun l u hu hforward => ?_
    exact (Slot.readError_dates hu _).later ((u.readError_leads l _).forward hforward).2.1
  | prepare i =>
    refine h.onPresent hg (fun l u => u.prepare_leads l _) fun l u hu hforward => ?_
    exact (Slot.prepare_dates hu _).later ((u.prepare_leads l _).forward hforward).2.1
  | commit i =>
    refine h.onPresent hg (fun l u => u.commit_leads l) fun l u hu hforward => ?_
    exact (Slot.commit_dates hu).later ((u.commit_leads l).forward hforward).2.1
  | apply i c =>
    exact h.onPresent hg (fun l u => u.apply_leads l _ c) fun l u hu => Slot.apply_dates hu _ c

theorem Reachable.dated (h : Reachable (forwardClock β) g) : g.Indexed ∧ g.Dated := by
  refine h.invariant (P := fun g => g.Indexed ∧ g.Dated) ?_ ?_ ?_
  · intro bus now device settings
    refine ⟨indexed_new _ _ _ _, fun _ u _ w hw => ?_⟩
    simp [Gateway.new, Issue.sinceDiscovery] at hw
  · rintro g k ⟨hg, hdated⟩
    exact ⟨hg.call k, hdated.call hg k⟩
  · rintro g bus now - hclock ⟨hg, hdated⟩
    exact ⟨hg.amid bus now, fun hforward u hu => (hdated hforward u hu).later hclock⟩

/-- Where operations go out as soon as they may, none waits for more than one pause. -/
theorem Reachable.prompt {s : Surroundings β} (hbus : Bus.Punctual β) (h : Reachable s g) :
    ∀ e ∈ g.link.issued,
      e.issuedAt.toNat ≤ e.requestedAt.toNat + g.settings.throttleMs.toNat := by
  refine h.log (P := fun t e => e.issuedAt.toNat ≤ e.requestedAt.toNat + t.toNat) ?_
  intro l l' e hissues
  rw [hissues.issuedAt, hissues.requestedAt]
  exact BusLink.toNat_throttle_le hbus l

/-- Along a run under a clock that goes forward, whatever time operations take and however late
they go out: take a read of a poll pass and a holding write to its unit that succeeded, with no
discovery since. The read goes out the write-cache window after the beginning of the call or commit
that wrote. That began with the write itself or with the operation right before it, so where
operations go out as soon as they may, the read comes that window after the write went out, less two
pauses and the time the operation before it took, at most. -/
theorem poll_read_after_write (h : Reachable (forwardClock β) g) (hclock : g.poll.2.link.Forward)
    {e w : Issue} (he : e ∈ g.poll.2.link.issued.drop g.link.issued.length)
    (hw : w ∈ Issue.sinceDiscovery g.link.issued) (hlands : w.Lands e.slot) :
    ∃ d, (d = w ∨ [d, w] <:+: g.link.issued ∧ w.requestedAt = d.endedAt) ∧
      d.requestedAt.toNat + 1000 * g.settings.cacheWriteS.toNat ≤ e.issuedAt.toNat ∧
      (Bus.Punctual β → w.issuedAt.toNat + 1000 * g.settings.cacheWriteS.toNat ≤
        e.issuedAt.toNat + 2 * g.settings.throttleMs.toNat + if d = w then 0 else d.took) := by
  have hleads : g.link.Leads _ g.poll.2.link :=
    refresh_leads g.link.now g.settings.cacheWriteS g.slots g.link
  obtain ⟨hforward, -, hlater⟩ := hleads.forward hclock
  obtain ⟨new, hissued, hnew⟩ := hleads.issued
  have hafter := hlater e he
  rw [hissued, List.drop_left] at he
  obtain ⟨u, hu, hslot, -, -, hage⟩ := hnew e he
  rw [hslot] at hlands
  obtain ⟨t, d, hstamp, hbound, hopens, hbegan⟩ := h.dated.2 hforward u hu w hw hlands
  rw [HoldingCache.writeWithin, hstamp] at hage
  simp only [stampWithin, Option.any_some, decide_eq_false_iff_not, not_lt] at hage
  rw [UInt64.le_iff_toNat_le] at hafter hbound hbegan
  have hwindow : d.requestedAt.toNat + 1000 * g.settings.cacheWriteS.toNat ≤ e.issuedAt.toNat := by
    omega
  refine ⟨d, hopens, hwindow, fun hbus => ?_⟩
  have hsent := hopens.issuedAt_le ((List.rtakeWhile_suffix _ _).subset hw) (h.prompt hbus)
  omega

/-- A bus on which every operation takes so many milliseconds. -/
structure Slow (β : Type) where
  bus : β
  took : UInt64

instance : Bus (Slow β) where
  read b t a buffer :=
    let r := Bus.read b.bus t a buffer
    ⟨r.result, r.buffer, { b with bus := r.bus }, b.took⟩
  write b a ws :=
    let w := Bus.write b.bus a ws
    ⟨w.result, { b with bus := w.bus }, b.took⟩

/-- The small installation where unit 0 was sent a pulse, some time later. -/
def demoPulsed (took rest : UInt64) : Gateway (Slow Simulation) :=
  let g := ((Gateway.new ⟨.demo, took⟩ 0 1 {}).call .discover).call (.apply 0 .filterReset)
  g.amid g.link.bus (g.link.now + rest)

theorem reachable_demoPulsed {took rest : UInt64}
    (h : (demoPulsed took 0).link.now ≤ (demoPulsed took rest).link.now) :
    Reachable (forwardClock (Slow Simulation)) (demoPulsed took rest) := by
  simp only [demoPulsed, amid, UInt64.add_zero] at h
  exact (((Reachable.new _ _ _ _).call .discover).call (.apply 0 .filterReset)).amid trivial h

/-- Here the bound is met with no millisecond to spare, so the read comes before the window of 35
seconds after the write is over: first where operations take no time, then where each of them takes
26 milliseconds. -/
theorem poll_read_after_write_demo :
    (∃ e w d : Issue,
      e ∈ (demoPulsed 0 34950).poll.2.link.issued.drop (demoPulsed 0 34950).link.issued.length ∧
        w ∈ Issue.sinceDiscovery (demoPulsed 0 34950).link.issued ∧ w.Lands e.slot ∧
        d.requestedAt.toNat + 1000 * 35 ≤ e.issuedAt.toNat ∧
        e.issuedAt.toNat + 50 = w.issuedAt.toNat + 1000 * 35 ∧
        w.issuedAt.toNat + 1000 * 35 ≤ e.issuedAt.toNat + 2 * 25 + if d = w then 0 else d.took) ∧
    ∃ e w d : Issue,
      e ∈ (demoPulsed 26 34898).poll.2.link.issued.drop (demoPulsed 26 34898).link.issued.length ∧
        w ∈ Issue.sinceDiscovery (demoPulsed 26 34898).link.issued ∧ w.Lands e.slot ∧
        d.requestedAt.toNat + 1000 * 35 ≤ e.issuedAt.toNat ∧
        e.issuedAt.toNat + 76 = w.issuedAt.toNat + 1000 * 35 ∧
        w.issuedAt.toNat + 1000 * 35 ≤
          e.issuedAt.toNat + 2 * 25 + if d = w then 0 else d.took := by
  have hpunctual : Bus.Punctual (Slow Simulation) := fun _ => rfl
  have hread {took rest : UInt64} {e w : Issue}
      (hrest : (demoPulsed took 0).link.now.toNat ≤ (demoPulsed took rest).link.now.toNat)
      (hclock : (demoPulsed took rest).poll.2.link.Forward)
      (he : e ∈ (demoPulsed took rest).poll.2.link.issued.drop
        (demoPulsed took rest).link.issued.length)
      (hw : w ∈ Issue.sinceDiscovery (demoPulsed took rest).link.issued) (hlands : w.Lands e.slot) :
      ∃ d : Issue, d.requestedAt.toNat + 1000 * 35 ≤ e.issuedAt.toNat ∧
        w.issuedAt.toNat + 1000 * 35 ≤
          e.issuedAt.toNat + 2 * 25 + if d = w then 0 else d.took := by
    have hsettings : (demoPulsed took rest).settings = {} := by
      simp only [demoPulsed, amid, settings_call, Gateway.new]
    have hreachable := reachable_demoPulsed (UInt64.le_iff_toNat_le.mpr hrest)
    obtain ⟨d, -, hbegan, hsent⟩ := poll_read_after_write hreachable hclock he hw hlands
    have hsent := hsent hpunctual
    rw [hsettings] at hbegan hsent
    exact ⟨d, hbegan, hsent⟩
  constructor
  · let e : Issue := ⟨.status, 0, none, 35250, 35250, 35250, true⟩
    let w : Issue := ⟨.holding, 0, some [97, 2, 240], 275, 300, 300, true⟩
    have he : e ∈ (demoPulsed 0 34950).poll.2.link.issued.drop
        (demoPulsed 0 34950).link.issued.length := by decide +kernel
    have hw : w ∈ Issue.sinceDiscovery (demoPulsed 0 34950).link.issued := by decide +kernel
    have hlands : w.Lands e.slot := ⟨rfl, rfl, rfl, rfl⟩
    obtain ⟨d, hbegan, hsent⟩ := hread (by decide +kernel) (by unfold BusLink.Forward; decide +kernel)
      he hw hlands
    exact ⟨e, w, d, he, hw, hlands, hbegan, by decide, hsent⟩
  · let e : Issue := ⟨.status, 0, none, 35536, 35536, 35562, true⟩
    let w : Issue := ⟨.holding, 0, some [97, 2, 240], 587, 612, 638, true⟩
    have he : e ∈ (demoPulsed 26 34898).poll.2.link.issued.drop
        (demoPulsed 26 34898).link.issued.length := by decide +kernel
    have hw : w ∈ Issue.sinceDiscovery (demoPulsed 26 34898).link.issued := by decide +kernel
    have hlands : w.Lands e.slot := ⟨rfl, rfl, rfl, rfl⟩
    obtain ⟨d, hbegan, hsent⟩ := hread (by decide +kernel) (by unfold BusLink.Forward; decide +kernel)
      he hw hlands
    exact ⟨e, w, d, he, hw, hlands, hbegan, by decide, hsent⟩

end Gateway

end ClimateBus
