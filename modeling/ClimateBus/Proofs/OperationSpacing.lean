import ClimateBus.Proofs.LinkHistory
import Mathlib

/-!
How far apart the operations on a bus are.

An operation that comes too early waits for the rest of the pause, and one that does not goes out at
once: it is issued when it is asked for or one pause after the end of the operation before it,
whichever is later. This needs the log and the last time the link remembers to agree, after
operations that failed as well, a clock that neither goes back nor wraps around, and a bus on which
operations go out as soon as they may.
-/
namespace ClimateBus

/-- An operation goes out when it is asked for or one pause after the end of the operation before
it, whichever is later. -/
def Issue.Spaced (throttleMs : UInt32) (before e : Issue) : Prop :=
  e.issuedAt.toNat = max e.requestedAt.toNat (before.endedAt.toNat + throttleMs.toNat)

namespace BusLink

variable {β : Type} [Bus β] {l l' : BusLink β}

/-- The first operation of all does not wait. -/
theorem throttle_now_of_first (hbus : Bus.Punctual β) (h : l.lastOp = none) :
    l.throttle.now = l.now := by
  simp only [throttle_now hbus, pause, h, UInt64.add_zero]

theorem toNat_throttle_now (hbus : Bus.Punctual β) {last : UInt64} (hlast : l.lastOp = some last)
    (hpast : last ≤ l.now) (hwrap : l.now ≤ l.throttle.now) :
    l.throttle.now.toNat = max l.now.toNat (last.toNat + l.throttleMs.toNat) := by
  have hthrottle : l.throttleMs.toNat < 2 ^ 32 := l.throttleMs.toNat_lt
  have hnow : l.now.toNat < 2 ^ 64 := l.now.toNat_lt
  rw [UInt64.le_iff_toNat_le] at hpast hwrap
  have hpause : l.pause.toNat = l.throttleMs.toNat - (l.now.toNat - last.toNat) := by
    simp only [pause, hlast, UInt64.toNat_ofNat']
    omega
  -- A pause is shorter than the whole range of the clock, so a sum that wrapped would lie behind.
  have hsum : l.throttle.now.toNat = l.now.toNat + l.pause.toNat := by
    rw [throttle_now hbus, UInt64.toNat_add] at hwrap ⊢
    omega
  omega

/-- The operations so far are spaced, and the link knows when the last one was over. -/
structure Paced (l : BusLink β) : Prop where
  first : ∀ e ∈ l.issued.head?, e.issuedAt = e.requestedAt
  spaced : l.issued.IsChain (Issue.Spaced l.throttleMs)
  lastOp : l.lastOp = l.issued.getLast?.map Issue.endedAt
  past : ∀ e ∈ l.issued.getLast?, e.endedAt ≤ l.now

namespace Paced

/-- One more operation, failed or not. -/
theorem issue (hbus : Bus.Punctual β) (h : l.Paced) {e : Issue} (hissues : l.Issues e l')
    (hforward : l.now ≤ l.throttle.now) : l'.Paced := by
  constructor
  · intro d hd
    rw [hissues.issued, List.head?_append] at hd
    cases hhead : l.issued.head? with
    | some d' =>
      rw [hhead] at hd
      exact h.first d (hhead ▸ hd)
    | none =>
      obtain rfl : e = d := by simpa [hhead] using hd
      have hfirst : l.lastOp = none := by rw [h.lastOp, List.head?_eq_none_iff.mp hhead]; rfl
      rw [hissues.issuedAt, hissues.requestedAt, throttle_now_of_first hbus hfirst]
  · rw [hissues.issued, hissues.throttleMs, List.isChain_append]
    refine ⟨h.spaced, List.isChain_singleton e, ?_⟩
    intro d hd e' he'
    obtain rfl : e = e' := by simpa using he'
    have hlast : l.lastOp = some d.endedAt := by rw [h.lastOp, hd]; rfl
    have htime := toNat_throttle_now hbus hlast (h.past d hd) hforward
    rw [Issue.Spaced, hissues.issuedAt, hissues.requestedAt, htime]
  · rw [hissues.lastOp, hissues.issued, List.getLast?_concat, Option.map_some, hissues.endedAt]
  · intro d hd
    rw [hissues.issued, List.getLast?_concat] at hd
    obtain rfl : e = d := Option.some.inj hd
    exact UInt64.le_of_eq hissues.endedAt

omit [Bus β] in
/-- Time that goes by on its own. -/
theorem later (h : l.Paced) (bus : β) {now : UInt64} (hle : l.now ≤ now) :
    { l with bus, now }.Paced :=
  ⟨h.first, h.spaced, h.lastOp, fun e he => UInt64.le_trans (h.past e he) hle⟩

theorem leads {p : Issue → Prop} (hbus : Bus.Punctual β) (h : l.Paced) (hleads : l.Leads p l')
    (hforward : l'.Forward) : l'.Paced := by
  induction hleads with
  | stay => exact h
  | issue _ hop _ ih =>
    obtain ⟨hbefore, hsent, -⟩ := hop.forward hforward
    rw [hop.issuedAt] at hsent
    exact (ih hbefore).issue hbus hop hsent
  | @idle l₁ _ ih => exact (ih hforward).later l₁.bus (Clock.le_later l₁.now _)

end Paced

end BusLink

/-- Operations that are spaced are a pause apart for each step from one to the other, from the end of
one to the issue of the next. -/
theorem Issue.pairwise_of_spaced {log : List Issue} {throttleMs : UInt32}
    (h : log.IsChain (Issue.Spaced throttleMs))
    (hended : ∀ e ∈ log, e.issuedAt.toNat ≤ e.endedAt.toNat) :
    log.Pairwise fun d e => d.endedAt.toNat + throttleMs.toNat ≤ e.issuedAt.toNat := by
  let Behind (d e : Issue) : Prop :=
    d.endedAt.toNat + throttleMs.toNat ≤ e.issuedAt.toNat ∧ e.issuedAt.toNat ≤ e.endedAt.toNat
  have hchain : log.IsChain Behind := by
    refine h.imp_of_mem_imp fun d e _ he hspaced => ⟨?_, hended e he⟩
    rw [hspaced]
    exact le_max_right _ _
  have : IsTrans Issue Behind :=
    ⟨fun d e f ⟨hde, hed⟩ ⟨hef, hfed⟩ => ⟨by omega, hfed⟩⟩
  exact hchain.pairwise.imp fun hbehind => hbehind.1

namespace Gateway

variable {β : Type} [Bus β] {g : Gateway β}

theorem Reachable.paced (hbus : Bus.Punctual β) (h : Reachable (forwardClock β) g)
    (hclock : g.link.Forward) : g.link.Paced := by
  revert hclock
  refine h.invariant (P := fun g => g.link.Forward → g.link.Paced) ?_ ?_ ?_
  · intro bus now device settings _
    constructor <;> simp [Gateway.new]
  · intro g k hpaced hforward
    have hleads := g.call_leads k
    exact (hpaced (hleads.forward hforward).1).leads hbus hleads hforward
  · intro g bus now _ hle hpaced hforward
    exact (hpaced hforward).later bus hle

/-- Along a run on a clock that goes forward, over a bus on which operations go out as soon as they
may, the first operation goes out when it is asked for and every other one then or a pause after the
end of the one before it, whichever is later. So operations are a pause apart, and none waits longer
than it has to. On a clock that stands still while an operation is under way, the end of an operation
is when it went out. What is in the log is what the bus was asked for. -/
theorem operations_spaced (hbus : Bus.Punctual β) (h : Reachable (forwardClock β) g)
    (hclock : g.link.Forward) :
    (∀ e ∈ g.link.issued.head?, e.issuedAt = e.requestedAt) ∧
      (g.link.issued.IsChain fun d e => e.issuedAt.toNat =
        max e.requestedAt.toNat (d.endedAt.toNat + g.settings.throttleMs.toNat)) ∧
      (∀ e ∈ g.link.issued, e.issuedAt.toNat ≤ e.endedAt.toNat) ∧
      (g.link.issued.Pairwise fun d e =>
        d.endedAt.toNat + g.settings.throttleMs.toNat ≤ e.issuedAt.toNat) ∧
      (Bus.Instant β →
        (g.link.issued.IsChain fun d e => e.issuedAt.toNat =
          max e.requestedAt.toNat (d.issuedAt.toNat + g.settings.throttleMs.toNat)) ∧
        g.link.issued.Pairwise fun d e =>
          d.issuedAt.toNat + g.settings.throttleMs.toNat ≤ e.issuedAt.toNat) ∧
      ∀ seen, Bus.Records seen → ∀ k, g.link.Tallies seen (g.call k).link := by
  have hpaced := h.paced hbus hclock
  have hspaced := hpaced.spaced
  rw [h.throttleMs] at hspaced
  have hended : ∀ e ∈ g.link.issued, e.issuedAt.toNat ≤ e.endedAt.toNat :=
    h.log (P := fun _ e => e.issuedAt.toNat ≤ e.endedAt.toNat) fun l l' e hissues => by
      rw [hissues.endedAt]
      exact UInt64.le_iff_toNat_le.mp hissues.issuedAt_le
  have hapart := Issue.pairwise_of_spaced hspaced hended
  refine ⟨hpaced.first, hspaced, hended, hapart, fun hinstant => ?_, ?_⟩
  · have hsame : ∀ e ∈ g.link.issued, e.endedAt = e.issuedAt :=
      h.log (P := fun _ e => e.endedAt = e.issuedAt) fun l l' e hissues => by
        rw [hissues.endedAt, hissues.issuedAt, hissues.now_eq hinstant]
    constructor
    · refine hspaced.imp_of_mem_imp fun d e hd _ hde => ?_
      rwa [Issue.Spaced, hsame d hd] at hde
    · refine hapart.imp_of_mem fun hd _ hde => ?_
      rwa [hsame _ hd] at hde
  · intro seen hseen k
    exact (g.call_leads k).tallies hseen

/-- A command that was refused ten milliseconds after a discovery, and again a second later. -/
def demoRefused : Gateway Simulation :=
  let g := (Gateway.new Simulation.demo 7 1 {}).call .discover
  let g := g.amid (g.link.bus.failWrites 2003 .timeout) (g.link.now + 10)
  let g := g.call (.apply 1 (.power true))
  (g.amid g.link.bus (g.link.now + 1000)).call (.apply 1 (.power true))

/-- Here the first read of the command waits for the rest of a pause, its write for a whole one, and
the write that is tried again later not at all. -/
theorem operations_spaced_demo :
    ((demoRefused.link.issued.drop 9).map fun e => (e.requestedAt, e.issuedAt, e.succeeded)) =
        [(217, 232, true), (232, 257, false), (1257, 1257, false)] ∧
      (∀ e ∈ demoRefused.link.issued.head?, e.issuedAt = e.requestedAt) ∧
      (demoRefused.link.issued.IsChain fun d e => e.issuedAt.toNat =
        max e.requestedAt.toNat (d.issuedAt.toNat + demoRefused.settings.throttleMs.toNat)) ∧
      demoRefused.link.Tallies Simulation.log (demoRefused.call .poll).link := by
  have hreachable : Reachable (forwardClock Simulation) demoRefused := by
    unfold demoRefused
    exact (((((Reachable.new _ _ _ _).call .discover).amid trivial
      (UInt64.le_iff_toNat_le.mpr (by decide +kernel))).call (.apply 1 (.power true))).amid trivial
      (UInt64.le_iff_toNat_le.mpr (by decide +kernel))).call (.apply 1 (.power true))
  have hclock : demoRefused.link.Forward := by
    unfold BusLink.Forward
    decide +kernel
  obtain ⟨hfirst, -, -, -, hinstant, htallies⟩ :=
    operations_spaced Simulation.instant.punctual hreachable hclock
  exact ⟨by decide +kernel, hfirst, (hinstant Simulation.instant).1,
    htallies _ Simulation.records_log .poll⟩

end Gateway

end ClimateBus
