import ClimateBus.Proofs.GatewaySteps
import Mathlib

/-!
The bus operations of a call, one after the other, over any bus.

A call moves the link on by reads and writes of the link and in no other way, but for the time that
goes by between the two halves of a command (`BusLink.Leads`). Each operation is kept: whom it was
for, when it was asked for, when it went out and when it was over. To wait moves the clock forward
as long as its count of milliseconds does not wrap around; the log tells that as well
(`BusLink.Forward`). And a bus that keeps a record of what it was asked for (`Bus.Records`) has the
operations of the log in it, one for one and in order: nothing reaches the bus without being in the
log.
-/
namespace ClimateBus

namespace BusLink

variable {β : Type} [Bus β]

/-- The link after one read or one write, and how that is kept. -/
inductive Issues (l : BusLink β) : Issue → BusLink β → Prop
  | read (kind : BlockKind) (slot : UInt8) (buffer : Image kind.size) :
      Issues l (l.readIssue kind slot (l.read kind slot buffer).result.isOk
        (l.read kind slot buffer).link.now) (l.read kind slot buffer).link
  | write (slot : UInt8) (ws : Words) :
      Issues l (l.writeIssue slot ws (l.write slot ws).1.isOk (l.write slot ws).2.now)
        (l.write slot ws).2

/-- The link goes on by operations that satisfy a condition. -/
inductive Leads (p : Issue → Prop) (l : BusLink β) : BusLink β → Prop
  | stay : Leads p l l
  | issue {l' l'' : BusLink β} {e : Issue} (h : Leads p l l') (hop : l'.Issues e l'') (hp : p e) :
      Leads p l l''
  | idle {l' : BusLink β} (h : Leads p l l') : Leads p l l'.idle

omit [Bus β] in
theorem toNat_pause_le (l : BusLink β) : l.pause.toNat ≤ l.throttleMs.toNat := by
  unfold pause
  split
  · simp
  · exact (Nat.mod_le _ _).trans (Nat.sub_le _ _)

theorem throttle_now (h : Bus.Punctual β) (l : BusLink β) : l.throttle.now = l.now + l.pause := by
  rw [throttle, h l.bus, Clock.later_zero]

/-- On a bus that does not let it wait any longer, an operation waits for one pause at most. -/
theorem toNat_throttle_le (h : Bus.Punctual β) (l : BusLink β) :
    l.throttle.now.toNat ≤ l.now.toNat + l.throttleMs.toNat := by
  have hwraps : l.throttle.now.toNat ≤ l.now.toNat + l.pause.toNat := by
    rw [throttle_now h, UInt64.toNat_add]
    exact Nat.mod_le _ _
  have hpause := l.toNat_pause_le
  omega

/-- No wait made the clock wrap around. -/
def Forward (l : BusLink β) : Prop := ∀ e ∈ l.issued, e.requestedAt ≤ e.issuedAt

namespace Issues

variable {l l' : BusLink β} {e : Issue}

theorem leads {p : Issue → Prop} (h : l.Issues e l') (hp : p e) : l.Leads p l' :=
  .issue .stay h hp

theorem requestedAt (h : l.Issues e l') : e.requestedAt = l.now := by cases h <;> rfl

theorem issuedAt (h : l.Issues e l') : e.issuedAt = l.throttle.now := by cases h <;> rfl

/-- An operation is over at the time the link has afterwards. -/
theorem endedAt (h : l.Issues e l') : e.endedAt = l'.now := by cases h <;> rfl

theorem lastOp (h : l.Issues e l') : l'.lastOp = some l'.now := by cases h <;> rfl

theorem throttleMs (h : l.Issues e l') : l'.throttleMs = l.throttleMs := by cases h <;> rfl

theorem issued (h : l.Issues e l') : l'.issued = l.issued ++ [e] := by cases h <;> rfl

theorem issuedAt_le (h : l.Issues e l') : e.issuedAt ≤ l'.now := by
  rw [h.issuedAt]
  cases h with
  | read kind slot buffer => exact Clock.le_later l.throttle.now _
  | write slot ws => exact Clock.le_later l.throttle.now _

theorem now_eq (hbus : Bus.Instant β) (h : l.Issues e l') : l'.now = l.throttle.now := by
  cases h with
  | read kind slot buffer => exact l.now_read hbus kind slot buffer
  | write slot ws => exact l.now_write hbus slot ws

theorem forward (h : l.Issues e l') (hforward : l'.Forward) :
    l.Forward ∧ l.now ≤ e.issuedAt ∧ l.now ≤ l'.now := by
  rw [Forward, h.issued] at hforward
  have hlast := hforward e (List.mem_append_right _ (List.mem_singleton_self e))
  rw [h.requestedAt] at hlast
  exact ⟨fun d hd => hforward d (List.mem_append_left _ hd), hlast,
    UInt64.le_trans hlast h.issuedAt_le⟩

end Issues

namespace Leads

variable {p q : Issue → Prop} {l l' l'' : BusLink β}

theorem trans (h : l.Leads p l') (h' : l'.Leads p l'') : l.Leads p l'' := by
  induction h' with
  | stay => exact h
  | issue _ hop hp ih => exact .issue ih hop hp
  | idle _ ih => exact .idle ih

theorem weaken (h : l.Leads p l') (hpq : ∀ e, p e → q e) : l.Leads q l' := by
  induction h with
  | stay => exact .stay
  | issue _ hop hp ih => exact .issue ih hop (hpq _ hp)
  | idle _ ih => exact .idle ih

theorem throttleMs (h : l.Leads p l') : l'.throttleMs = l.throttleMs := by
  induction h with
  | stay => rfl
  | issue _ hop _ ih => exact hop.throttleMs.trans ih
  | idle _ ih => exact ih

theorem issued (h : l.Leads p l') : ∃ new, l'.issued = l.issued ++ new ∧ ∀ e ∈ new, p e := by
  induction h with
  | stay => exact ⟨[], by simp, by simp⟩
  | @issue _ _ e _ hop hp ih =>
    obtain ⟨new, hissued, hnew⟩ := ih
    refine ⟨new ++ [e], by rw [hop.issued, hissued, List.append_assoc], ?_⟩
    intro d hd
    rcases List.mem_append.mp hd with hd | hd
    · exact hnew d hd
    · rwa [List.mem_singleton.mp hd]
  | idle _ ih => exact ih

/-- What every operation is like that goes out at this pause, the operations of the log are like. -/
theorem log {P : UInt32 → Issue → Prop}
    (hop : ∀ (l l' : BusLink β) (e : Issue), l.Issues e l' → P l.throttleMs e) (h : l.Leads p l')
    (hlog : ∀ e ∈ l.issued, P l.throttleMs e) : ∀ e ∈ l'.issued, P l'.throttleMs e := by
  induction h with
  | stay => exact hlog
  | @issue l₁ l₂ e _ hissues _ ih =>
    rw [hissues.issued, hissues.throttleMs]
    exact List.forall_mem_append.mpr ⟨ih, List.forall_mem_singleton.mpr (hop l₁ l₂ e hissues)⟩
  | idle _ ih => exact ih

/-- Unless a wait wraps around, the clock does not go back, and nothing goes out before it was
asked for. -/
theorem forward (h : l.Leads p l') (hforward : l'.Forward) :
    l.Forward ∧ l.now ≤ l'.now ∧ ∀ e ∈ l'.issued.drop l.issued.length, l.now ≤ e.issuedAt := by
  induction h with
  | stay => exact ⟨hforward, UInt64.le_refl _, by simp⟩
  | @issue l₁ l₂ e hleads hop _ ih =>
    obtain ⟨hforward₁, hsent, hle₁⟩ := hop.forward hforward
    obtain ⟨hforward₀, hle₀, hnew⟩ := ih hforward₁
    obtain ⟨new, hissued, -⟩ := hleads.issued
    refine ⟨hforward₀, UInt64.le_trans hle₀ hle₁, fun d hd => ?_⟩
    rw [hop.issued, hissued, List.append_assoc, List.drop_left] at hd
    rw [hissued, List.drop_left] at hnew
    rcases List.mem_append.mp hd with hd | hd
    · exact hnew d hd
    · rw [List.mem_singleton.mp hd]
      exact UInt64.le_trans hle₀ hsent
  | @idle l₁ _ ih =>
    obtain ⟨hforward₀, hle₀, hnew⟩ := ih hforward
    exact ⟨hforward₀, UInt64.le_trans hle₀ (Clock.le_later l₁.now _), hnew⟩

end Leads

end BusLink

/-- The operation as the bus sees it. -/
def Issue.operation (e : Issue) : BusOperation :=
  match e.written with
  | none => .read e.kind.table (e.kind.address e.slot) e.kind.size
  | some ws => .write (e.kind.address e.slot) ws

/-- The operation, and whether it succeeded. -/
def Issue.account (e : Issue) : BusOperation × Bool := (e.operation, e.succeeded)

/-- `seen` lists what a bus was asked for, in order, whether the operation failed or not. -/
structure Bus.Records {β : Type} [Bus β] (seen : β → List BusOperation) : Prop where
  read {n : Nat} (b : β) (t : Table) (a : UInt16) (buffer : Image n) :
    seen (Bus.read b t a buffer).bus = seen b ++ [.read t a n]
  write (b : β) (a : UInt16) (ws : Words) :
    seen (Bus.write b a ws).bus = seen b ++ [.write a ws]

theorem Simulation.records_log : Bus.Records Simulation.log where
  read b t a buffer := by
    simp only [Bus.read, readRegisters]
    split
    · rfl
    · split <;> rfl
  write b a ws := by
    simp only [Bus.write, writeRegisters]
    split
    · rfl
    · split
      · rfl
      · split <;> rfl

namespace BusLink

variable {β : Type} [Bus β] {l l' : BusLink β} {seen : β → List BusOperation}

/-- The log and the record of the bus grow by the same operations. -/
def Tallies (seen : β → List BusOperation) (l l' : BusLink β) : Prop :=
  ∃ new, l'.issued = l.issued ++ new ∧ seen l'.bus = seen l.bus ++ new.map Issue.operation

theorem Issues.records {e : Issue} (hseen : Bus.Records seen) (h : l.Issues e l') :
    seen l'.bus = seen l.bus ++ [e.operation] := by
  cases h with
  | read kind slot buffer => exact hseen.read _ _ _ _
  | write slot ws => exact hseen.write _ _ _

theorem Leads.tallies {p : Issue → Prop} (hseen : Bus.Records seen) (h : l.Leads p l') :
    Tallies seen l l' := by
  induction h with
  | stay => exact ⟨[], by simp, by simp⟩
  | @issue _ _ e _ hop _ ih =>
    obtain ⟨new, hissued, hbus⟩ := ih
    refine ⟨new ++ [e], by rw [hop.issued, hissued, List.append_assoc], ?_⟩
    rw [hop.records hseen, hbus, List.map_append, List.append_assoc]
    rfl
  | idle _ ih => exact ih

end BusLink

/-- A second step is taken from where the first one ended, or not at all. -/
theorem SlotStep.andThen_eq {β : Type} (s : SlotStep β)
    (next : BusLink β → Slot → SlotStep β) :
    s.andThen next = next s.link s.slot ∨ s.andThen next = s := by
  unfold andThen
  split
  · exact .inl rfl
  · exact .inr rfl

namespace Slot

variable {β : Type} [Bus β] (l : BusLink β) (u : Slot)

/-- What a write of the holding image may do: nothing without an edit, else one operation. -/
theorem writeHolding_cases (stamp : UInt64) :
    writeHolding l u stamp = ⟨.ok (), u, l⟩ ∨ ∃ l' : BusLink β,
      l.Issues (l.writeIssue u.index u.holding.image.words true l'.now) l' ∧
          writeHolding l u stamp = ⟨.ok (), u.written stamp, l'⟩ ∨
        ∃ e, l.Issues (l.writeIssue u.index u.holding.image.words false l'.now) l' ∧
          writeHolding l u stamp = ⟨.error e, u, l'⟩ := by
  by_cases hdirty : u.holding.dirty = true
  · have hissues : l.Issues _ _ := .write u.index u.holding.image.words
    simp only [writeHolding, BusLink.writeIfDirty, hdirty, if_true]
    generalize l.write u.index u.holding.image.words = w at hissues ⊢
    obtain ⟨result, l'⟩ := w
    refine .inr ⟨l', ?_⟩
    cases result with
    | ok _ => exact .inl ⟨hissues, by rw [written]⟩
    | error e => exact .inr ⟨e, hissues, rfl⟩
  · refine .inl ?_
    simp only [writeHolding, BusLink.writeIfDirty, hdirty, Bool.false_eq_true, if_false]

/-- What a preparation may do: nothing, a read that fails, or a read and then a write. -/
theorem prepare_cases (window : UInt32) :
    prepare window l u = ⟨.ok (), u, l⟩ ∨ ∃ (l' : BusLink β) (m : Image BlockKind.holding.size),
      (∃ e, l.Issues (l.readIssue .holding u.index false l'.now) l' ∧ prepare window l u =
          ⟨.error e, { u with holding := { u.holding with image := m } }, l'⟩) ∨
        l.Issues (l.readIssue .holding u.index true l'.now) l' ∧
          prepare window l u = writeHolding l' (u.reloaded m l.now).sync l.now := by
  by_cases hstale : u.stale l.now window = true
  · have hissues : l.Issues _ _ := .read .holding u.index u.holding.image
    simp only [prepare, hstale, if_true]
    generalize l.read .holding u.index u.holding.image = r at hissues ⊢
    obtain ⟨result, m, l'⟩ := r
    refine .inr ⟨l', m, ?_⟩
    cases result with
    | ok _ => exact .inr ⟨hissues, by rw [reloaded]⟩
    | error e => exact .inl ⟨e, hissues, rfl⟩
  · exact .inl (by rw [prepare, if_neg hstale])

theorem writeHolding_leads (stamp : UInt64) :
    l.Leads (fun e => e.slot = u.index) (writeHolding l u stamp).link := by
  rcases writeHolding_cases l u stamp with h | ⟨l', ⟨hissues, h⟩ | ⟨e, hissues, h⟩⟩
  · rw [h]
    exact .stay
  · rw [h]
    exact hissues.leads rfl
  · rw [h]
    exact hissues.leads rfl

theorem prepare_leads (window : UInt32) :
    l.Leads (fun e => e.slot = u.index) (prepare window l u).link := by
  rcases prepare_cases l u window with h | ⟨l', m, ⟨e, hissues, h⟩ | ⟨hissues, h⟩⟩
  · rw [h]
    exact .stay
  · rw [h]
    exact hissues.leads rfl
  · rw [h]
    have hwrite := writeHolding_leads l' (u.reloaded m l.now).sync l.now
    rw [sync_index, reloaded_index] at hwrite
    exact .trans (hissues.leads rfl) hwrite

theorem endPulse_leads (stamp : UInt64) :
    l.Leads (fun e => e.slot = u.index) (endPulse stamp l u).link := by
  unfold endPulse
  split_ifs
  · exact writeHolding_leads l u.withdrawn stamp
  · exact .stay

theorem commit_leads : l.Leads (fun e => e.slot = u.index) (commit l u).link := by
  have hwrite := writeHolding_leads l u.sync l.now
  rw [sync_index] at hwrite
  rcases (writeHolding l u.sync l.now).andThen_eq (endPulse l.now) with h | h
  · have hpulse := endPulse_leads (writeHolding l u.sync l.now).link
      (writeHolding l u.sync l.now).slot l.now
    rw [(writeHolding_record l u.sync l.now).index, sync_index] at hpulse
    rw [commit, h]
    exact hwrite.trans hpulse
  · rw [commit, h]
    exact hwrite

theorem apply_leads (window : UInt32) (c : Command) :
    l.Leads (fun e => e.slot = u.index) (apply window c l u).link := by
  have hprepare := prepare_leads l u window
  rcases (prepare window l u).andThen_eq (fun l u => commit l.idle (u.edit c)) with h | h
  · have hcommit := commit_leads (prepare window l u).link.idle ((prepare window l u).slot.edit c)
    rw [edit_index, (prepare_record window l u).index] at hcommit
    rw [apply, h]
    exact hprepare.idle.trans hcommit
  · rw [apply, h]
    exact hprepare

theorem readError_leads (secs : UInt32) :
    l.Leads (fun e => e.slot = u.index) (readError secs l u).link := by
  unfold readError
  split_ifs
  · exact .stay
  · have hissues : l.Issues _ _ := .read .error u.index u.error.image
    dsimp only
    split <;> exact hissues.leads rfl

theorem discover_leads (system : SystemImage) :
    l.Leads (fun e => e.written = none) (u.discover system l).2 := by
  unfold discover
  dsimp only
  split_ifs
  · let r := l.read .capability u.reset.index u.reset.capability.image
    have hcapability : l.Leads (fun e => e.written = none) r.link :=
      .issue .stay (.read _ _ _) rfl
    split
    · exact hcapability
    · have hstatus : r.link.Issues _ _ := .read .status u.reset.index u.reset.status.image
      split <;> exact .issue hcapability hstatus rfl
  · exact .stay

end Slot

namespace Gateway

variable {β : Type} [Bus β]

theorem scan_leads (system : SystemImage) (us : List Slot) (l : BusLink β) :
    l.Leads (fun e => e.written = none) (scan system l us).2 := by
  induction us generalizing l with
  | nil => exact .stay
  | cons v rest ih => exact (v.discover_leads l system).trans (ih (v.discover system l).2)

/-- A poll pass reads the status of units that are there and were not written recently. -/
theorem refresh_leads (now : UInt64) (window : UInt32) (us : List Slot) (l : BusLink β) :
    l.Leads (fun e => ∃ v ∈ us, e.slot = v.index ∧ e.kind = .status ∧ e.written = none ∧
      v.holding.writeWithin now window = false) (refresh now window l us).2.2 := by
  induction us generalizing l with
  | nil => exact .stay
  | cons v rest ih =>
    rw [refresh_visit]
    split_ifs with hread
    · have hwritten : v.holding.writeWithin now window = false := by
        simp only [Bool.and_eq_true, Bool.not_eq_true'] at hread
        exact hread.2
      have hissues : l.Issues _ _ := .read .status v.index v.status.image
      refine (hissues.leads ⟨v, List.mem_cons_self, rfl, rfl, rfl, hwritten⟩).trans ?_
      refine (ih _).weaken ?_
      rintro e ⟨w, hw, he⟩
      exact ⟨w, List.mem_cons_of_mem _ hw, he⟩
    · refine (ih l).weaken ?_
      rintro e ⟨w, hw, he⟩
      exact ⟨w, List.mem_cons_of_mem _ hw, he⟩

variable {g : Gateway β}

theorem onPresent_leads {p : Issue → Prop} {i : UInt8} {step : BusLink β → Slot → SlotStep β}
    (h : ∀ u, g.present? i = .ok u → g.link.Leads p (step g.link u).link) :
    g.link.Leads p (g.onPresent i step).2.link := by
  cases hu : g.present? i with
  | error e =>
    rw [onPresent_absent hu]
    exact .stay
  | ok u =>
    rw [onPresent_present hu]
    exact h u hu

/-- What a discovery may do: a read that fails, or a read that succeeds and then a scan. -/
theorem discover_cases (g : Gateway β) : ∃ (l' : BusLink β) (system : SystemImage),
    g.link.Issues (g.link.readIssue .system 0 false l'.now) l' ∧
        g.discover.2 = { g with link := l', system := system } ∨
      g.link.Issues (g.link.readIssue .system 0 true l'.now) l' ∧
        g.discover.2.slots = (scan system l' g.slots).1 ∧
        g.discover.2.link = (scan system l' g.slots).2 ∧ g.discover.2.settings = g.settings := by
  have hissues : g.link.Issues _ _ := .read .system 0 g.system.image
  unfold discover
  generalize g.link.read .system 0 g.system.image = r at hissues ⊢
  obtain ⟨result, m, l'⟩ := r
  refine ⟨l', ⟨m⟩, ?_⟩
  cases result with
  | ok _ => exact .inr ⟨hissues, rfl, rfl, rfl⟩
  | error e => exact .inl ⟨hissues, rfl⟩

theorem discover_leads (g : Gateway β) :
    g.link.Leads (fun e => e.written = none) g.discover.2.link := by
  obtain ⟨l', system, ⟨hissues, h⟩ | ⟨hissues, -, h, -⟩⟩ := g.discover_cases
  · rw [h]
    exact hissues.leads rfl
  · rw [h]
    exact .trans (hissues.leads rfl) (scan_leads system g.slots l')

/-- A call moves the link on by operations alone. -/
theorem call_leads (g : Gateway β) (k : Call) : g.link.Leads (fun _ => True) (g.call k).link := by
  cases k with
  | discover => exact g.discover_leads.weaken fun _ _ => trivial
  | poll => exact (refresh_leads _ _ _ _).weaken fun _ _ => trivial
  | readError i =>
    exact onPresent_leads fun u _ => (u.readError_leads _ _).weaken fun _ _ => trivial
  | prepare i => exact onPresent_leads fun u _ => (u.prepare_leads _ _).weaken fun _ _ => trivial
  | commit i => exact onPresent_leads fun u _ => (u.commit_leads _).weaken fun _ _ => trivial
  | apply i c => exact onPresent_leads fun u _ => (u.apply_leads _ _ c).weaken fun _ _ => trivial

theorem settings_call (g : Gateway β) (k : Call) : (g.call k).settings = g.settings := by
  have honPresent (i : UInt8) (step : BusLink β → Slot → SlotStep β) :
      (g.onPresent i step).2.settings = g.settings := by
    cases hu : g.present? i with
    | error e => rw [onPresent_absent hu]
    | ok u => rw [onPresent_present hu]
  cases k with
  | discover =>
    obtain ⟨l', system, ⟨-, h⟩ | ⟨-, -, -, h⟩⟩ := g.discover_cases
    · rw [call, h]
    · exact h
  | poll => rfl
  | readError i | prepare i | commit i | apply i c => exact honPresent i _

/-- The pause between operations is the one the gateway was set up with. -/
theorem Reachable.throttleMs {s : Surroundings β} (h : Reachable s g) :
    g.link.throttleMs = g.settings.throttleMs := by
  refine h.invariant (P := fun g => g.link.throttleMs = g.settings.throttleMs)
    (fun _ _ _ _ => rfl) (fun g k hg => ?_) fun _ _ _ _ _ hg => hg
  rw [settings_call, ← hg, (g.call_leads k).throttleMs]

/-- What every operation is like that goes out, all operations of a run are like. -/
theorem Reachable.log {s : Surroundings β} (h : Reachable s g) {P : UInt32 → Issue → Prop}
    (hop : ∀ (l l' : BusLink β) (e : Issue), l.Issues e l' → P l.throttleMs e) :
    ∀ e ∈ g.link.issued, P g.settings.throttleMs e := by
  rw [← h.throttleMs]
  refine h.invariant (P := fun g => ∀ e ∈ g.link.issued, P g.link.throttleMs e) ?_
    (fun g k hg => (g.call_leads k).log hop hg) fun _ _ _ _ _ hg => hg
  intro bus now device settings e he
  simp [Gateway.new] at he

/-- The settings never change. -/
theorem Run.settings {s : Surroundings β} {start : Gateway β} {ks : List Call}
    (h : Run s start ks g) : g.settings = start.settings :=
  h.preserves (P := fun g => g.settings = start.settings) (fun _ => True) (fun _ _ => trivial) rfl
    (fun g k _ hg => (g.settings_call k).trans hg) fun _ _ _ _ _ hg => hg

/-- What was issued by the end of a call stays in the log. -/
theorem History.issued_prefix {s : Surroundings β} {start : Gateway β}
    {cs : List (Gateway β × Call)} (h : History s start cs g) {c : Gateway β × Call} (hc : c ∈ cs) :
    (c.1.call c.2).link.issued <+: g.link.issued := by
  induction h with
  | start => cases hc
  | @call cs h _ k ih =>
    rcases List.mem_append.mp hc with hc | hc
    · obtain ⟨new, hissued, -⟩ := (h.call_leads k).issued
      exact (ih hc).trans ⟨new, hissued.symm⟩
    · obtain rfl := List.mem_singleton.mp hc
      exact List.prefix_refl _
  | outside _ _ _ ih => exact ih hc

/-- Anything may happen to the bus, and the clock does not go back. -/
def forwardClock (β : Type) : Surroundings β where
  bus _ _ := True
  clock t t' := t ≤ t'

end Gateway

end ClimateBus
