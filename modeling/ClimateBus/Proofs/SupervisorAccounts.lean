import ClimateBus.Proofs.SupervisorRuns
import Mathlib

/-!
The books of a supervisor: its counts, its journal and the mark of a discovery against what was
asked and answered.

Every entry follows from the answers, over any bus, with one gap: a rescan that failed on the bus is
in no count of errors, though a poll cycle counts the same failure.
-/
namespace ClimateBus

namespace Supervisor

variable {β : Type} [Bus β]

/-- What a history added to the state it began in. -/
structure Tallied (start : Supervisor β) (history : List Served) (s : Supervisor β) : Prop where
  discovered : s.discovered = (history.any Served.succeeds || start.discovered)
  discoveries : s.stats.discoveries = start.stats.discoveries + history.countP Served.discovers
  commands : s.stats.commands = start.stats.commands + history.countP Served.commands
  pollCycles : s.stats.pollCycles = start.stats.pollCycles + history.countP Served.cycles
  errors : s.stats.errors = start.stats.errors + (history.countP Served.discoveryFails +
    history.countP Served.pollFails + history.countP Served.commandFails)
  busy : s.stats.busy = start.stats.busy + history.countP Served.givesUp
  journal : s.journal.lastSeq = start.journal.lastSeq + ((history.map Served.reported).sum +
    history.countP Served.discovers + history.countP Served.discoveryFails +
    history.countP Served.pollFails + history.countP Served.commands)

theorem countP_snoc (p : Served → Bool) (history : List Served) (e : Served) :
    (history ++ [e]).countP p = history.countP p + (p e).toNat := by
  rw [List.countP_append, List.countP_singleton]
  cases p e <;> rfl

omit [Bus β] in
theorem Tallied.snoc {start s s' : Supervisor β} {history : List Served} {e : Served}
    (h : Tallied start history s) (hstep : Accounted s e s') :
    Tallied start (history ++ [e]) s' where
  discovered := by
    rw [hstep.discovered, h.discovered, List.any_append, List.any_cons, List.any_nil, Bool.or_false,
      ← Bool.or_assoc, Bool.or_comm e.succeeds]
  discoveries := by
    rw [hstep.discoveries, h.discoveries, countP_snoc]
    omega
  commands := by
    rw [hstep.commands, h.commands, countP_snoc]
    omega
  pollCycles := by
    rw [hstep.pollCycles, h.pollCycles, countP_snoc]
    omega
  errors := by
    rw [hstep.errors, h.errors, countP_snoc, countP_snoc, countP_snoc]
    omega
  busy := by
    rw [hstep.busy, h.busy, countP_snoc]
    omega
  journal := by
    rw [hstep.journal, h.journal, countP_snoc, countP_snoc, countP_snoc, countP_snoc,
      List.map_append, List.sum_append, List.map_singleton, List.sum_singleton]
    omega

theorem Run.tallied {start s : Supervisor β} {history : List Served} (h : Run start history s) :
    Tallied start history s := by
  induction h with
  | start => exact ⟨rfl, rfl, rfl, rfl, rfl, rfl, rfl⟩
  | call _ k ih => exact ih.snoc (serve_accounted _ k)
  | outside _ bus now clock held ih =>
    exact ⟨ih.discovered, ih.discoveries, ih.commands, ih.pollCycles, ih.errors, ih.busy,
      ih.journal⟩

/-- One call is one failure at most. -/
theorem fails_le_one (e : Served) :
    e.discoveryFails.toNat + e.pollFails.toNat + e.commandFails.toNat ≤ 1 := by
  cases e with
  | pollCycle answer =>
    cases answer with
    | error e => exact Bool.toNat_le (SupervisorError.onBus (.error e))
    | ok outcome =>
      cases outcome with
      | discovered _ => exact Nat.zero_le 1
      | polled summary =>
        simp [Served.discoveryFails, Served.pollFails, Served.commandFails, SupervisorError.onBus,
          Bool.toNat_le]
  | execute _ _ answer | executeRequest _ _ _ answer =>
    simp [Served.discoveryFails, Served.pollFails, Served.commandFails, Bool.toNat_le]
  | rescan _ | reportStatus _ | errorReport _ _ | snapshot _ => exact Nat.zero_le 1

theorem countP_fails_le (history : List Served) : history.countP Served.discoveryFails +
    history.countP Served.pollFails + history.countP Served.commandFails ≤ history.length := by
  induction history using List.reverseRecOn with
  | nil => exact Nat.le_refl 0
  | append_singleton history e ih =>
    have hone := fails_le_one e
    rw [countP_snoc, countP_snoc, countP_snoc, List.length_append, List.length_singleton]
    omega

/-- No count gets ahead of the number of calls. So a count of 64 bits does not overflow before
`2 ^ 64` calls were made, and until then it is the count that is kept here. -/
theorem Run.stats_le {gateway : Gateway β} {settings : SupervisorSettings} {history : List Served}
    {s : Supervisor β} (h : Run (.new gateway settings) history s) :
    s.stats.pollCycles ≤ history.length ∧ s.stats.discoveries ≤ history.length ∧
      s.stats.commands ≤ history.length ∧ s.stats.errors ≤ history.length ∧
      s.stats.busy ≤ history.length := by
  have htallied := h.tallied
  refine ⟨?_, ?_, ?_, ?_, ?_⟩
  · exact (htallied.pollCycles.trans (Nat.zero_add _)).trans_le List.countP_le_length
  · exact (htallied.discoveries.trans (Nat.zero_add _)).trans_le List.countP_le_length
  · exact (htallied.commands.trans (Nat.zero_add _)).trans_le List.countP_le_length
  · exact (htallied.errors.trans (Nat.zero_add _)).trans_le (countP_fails_le history)
  · exact (htallied.busy.trans (Nat.zero_add _)).trans_le List.countP_le_length

/-- Until there has been a discovery, a poll cycle is one, and counts the units it found. -/
theorem pollCycle_first {s : Supervisor β} (hheld : s.held = false) (hfirst : s.discovered = false) :
    s.pollCycle.2.gateway = s.gateway.discover.2 ∧
      (∀ n, s.gateway.discover.1 = .ok n → s.pollCycle.1 = .ok (.discovered n) ∧
        n = s.pollCycle.2.gateway.presentSlots.length) ∧
      ∀ e, s.gateway.discover.1 = .error e → s.pollCycle.1 = .error (.gateway e) := by
  have hcycled := s.pollCycle_cycled
  generalize s.pollCycle = r at hcycled
  cases hcycled with
  | busy hbusy => simp [hheld] at hbusy
  | found _ _ n h =>
    refine ⟨rfl, ?_, ?_⟩
    · intro n' hn'
      obtain rfl : n = n' := Except.ok.inj (h.symm.trans hn')
      exact ⟨rfl, Gateway.discover_eq_ok h⟩
    · intro e he
      cases h.symm.trans he
  | lost _ _ t h =>
    refine ⟨rfl, ?_, ?_⟩
    · intro n hn
      cases h.symm.trans hn
    · intro e he
      rw [← Except.error.inj (h.symm.trans he)]
  | polled _ hlater => simp [hfirst] at hlater
  | missed _ hlater => simp [hfirst] at hlater

/-- From then on a poll cycle is a poll pass. -/
theorem pollCycle_later {s : Supervisor β} (hheld : s.held = false) (hlater : s.discovered = true) :
    s.pollCycle.2.gateway = s.gateway.poll.2 ∧
      s.pollCycle.1 = .ok (.polled s.gateway.poll.1) := by
  have hcycled := s.pollCycle_cycled
  generalize s.pollCycle = r at hcycled
  cases hcycled with
  | busy hbusy => simp [hheld] at hbusy
  | found _ hfirst | lost _ hfirst => simp [hlater] at hfirst
  | polled | missed => exact ⟨rfl, rfl⟩

/-- A supervisor that was set up with a journal of its own has found units exactly if a poll cycle
or a rescan has come back with a result. Until then a poll cycle that gets the gateway looks for
units, and afterwards it polls them. The counts of discoveries, of commands and of poll cycles are
the numbers of those answers, and the last number of the journal is the number of the answers and
reported lines that are told there. -/
theorem history_accounted {gateway : Gateway β} {settings : SupervisorSettings}
    {history : List Served} {s : Supervisor β} (h : Run (.new gateway settings) history s) :
    (s.discovered = true ↔ ∃ e ∈ history, e.succeeds = true) ∧
    (s.held = true → s.pollCycle.1 = .error (.busy Activity.poll.name)) ∧
    (s.held = false → (∀ e ∈ history, e.succeeds = false) →
      s.pollCycle.2.gateway = s.gateway.discover.2 ∧
        (∀ n, s.gateway.discover.1 = .ok n → s.pollCycle.1 = .ok (.discovered n) ∧
          n = s.pollCycle.2.gateway.presentSlots.length) ∧
        ∀ e, s.gateway.discover.1 = .error e → s.pollCycle.1 = .error (.gateway e)) ∧
    (s.held = false → (∃ e ∈ history, e.succeeds = true) →
      s.pollCycle.2.gateway = s.gateway.poll.2 ∧
        s.pollCycle.1 = .ok (.polled s.gateway.poll.1)) ∧
    s.stats.discoveries = history.countP Served.discovers ∧
    s.stats.commands = history.countP Served.commands ∧
    s.stats.pollCycles = history.countP Served.cycles ∧
    s.journal.lastSeq = history.countP Served.discovers + history.countP Served.discoveryFails +
      history.countP Served.pollFails + history.countP Served.commands +
      (history.map Served.reported).sum := by
  have htallied := h.tallied
  have hmark : s.discovered = true ↔ ∃ e ∈ history, e.succeeds = true := by
    rw [htallied.discovered, ← List.any_eq_true]
    exact iff_of_eq (congrArg (· = true) (Bool.or_false _))
  refine ⟨hmark, ?busy, ?first, ?later, ?_, ?_, ?_, ?_⟩
  case busy =>
    intro hheld
    rw [pollCycle, withGateway_held hheld]
  case first =>
    intro hheld hnone
    refine pollCycle_first hheld (Bool.eq_false_iff.mpr fun hmarked => ?_)
    obtain ⟨e, he, hsucceeds⟩ := hmark.mp hmarked
    exact Bool.false_ne_true ((hnone e he).symm.trans hsucceeds)
  case later =>
    intro hheld hsome
    exact pollCycle_later hheld (hmark.mpr hsome)
  · exact htallied.discoveries.trans (Nat.zero_add _)
  · exact htallied.commands.trans (Nat.zero_add _)
  · exact htallied.pollCycles.trans (Nat.zero_add _)
  · rw [htallied.journal]
    change 0 + _ = _
    omega

/-- A small installation whose system block cannot be read: a rescan fails, and then a poll cycle. -/
def demoFaulty : Supervisor Simulation :=
  .new (.new (Simulation.demo.failReads .input 0 .timeout) 0 1 {}) {}

def demoFailed : Supervisor Simulation := ((demoFaulty.serve .rescan).2.serve .pollCycle).2

/-- The fault goes away: four units are found, and one is switched on. -/
def demoMended : Supervisor Simulation := demoFailed.amid Simulation.demo 1000 default false

def demoFound : Supervisor Simulation :=
  ((demoMended.serve .pollCycle).2.serve (.execute 1 (.power true))).2

/-- One of the others does not answer the next poll, and a report is made. -/
def demoUnread : Supervisor Simulation :=
  demoFound.amid (demoFound.gateway.link.bus.failReads .input 2000 .timeout) 90000 default false

def demoEnd : Supervisor Simulation := ((demoUnread.serve .pollCycle).2.serve .reportStatus).2

def demoHistory : List Served :=
  [(demoFaulty.serve .rescan).1, ((demoFaulty.serve .rescan).2.serve .pollCycle).1,
    (demoMended.serve .pollCycle).1,
    ((demoMended.serve .pollCycle).2.serve (.execute 1 (.power true))).1,
    (demoUnread.serve .pollCycle).1, ((demoUnread.serve .pollCycle).2.serve .reportStatus).1]

theorem demo_run : Run demoFaulty demoHistory demoEnd := by
  have hfailed : Run demoFaulty _ demoFailed := (Run.start.call .rescan).call .pollCycle
  have hfound : Run demoFaulty _ demoFound :=
    ((hfailed.outside Simulation.demo 1000 default false).call .pollCycle).call
      (.execute 1 (.power true))
  exact ((hfound.outside (demoFound.gateway.link.bus.failReads .input 2000 .timeout) 90000 default
    false).call .pollCycle).call .reportStatus

theorem history_accounted_demo : Run demoFaulty demoHistory demoEnd ∧
    demoEnd.discovered = true ∧ demoEnd.stats.discoveries = 1 ∧ demoEnd.stats.commands = 1 ∧
    demoEnd.stats.pollCycles = 3 ∧ demoEnd.journal.lastSeq = 1 + 1 + 1 + 1 + 5 := by
  obtain ⟨hmark, -, -, -, hdiscoveries, hcommands, hcycles, hjournal⟩ := history_accounted demo_run
  refine ⟨demo_run, hmark.mpr ?_, ?_, ?_, ?_, ?_⟩
  · exact ⟨(demoMended.serve .pollCycle).1, by simp [demoHistory], by decide +kernel⟩
  · exact hdiscoveries.trans (by decide +kernel)
  · exact hcommands.trans (by decide +kernel)
  · exact hcycles.trans (by decide +kernel)
  · exact hjournal.trans (by decide +kernel)

/-- What fails is counted, in a poll cycle and in a command, but not in a rescan: the count of errors
is the number of all failures exactly if no rescan failed on the bus. -/
theorem failures_counted_but_rescans {gateway : Gateway β} {settings : SupervisorSettings}
    {history : List Served} {s : Supervisor β} (h : Run (.new gateway settings) history s) :
    s.stats.errors = history.countP Served.discoveryFails + history.countP Served.pollFails +
      history.countP Served.commandFails ∧
    (s.stats.errors = history.countP Served.discoveryFails + history.countP Served.pollFails +
        history.countP Served.rescanFails + history.countP Served.commandFails ↔
      ∀ e ∈ history, e.rescanFails = false) := by
  have herrors : s.stats.errors = history.countP Served.discoveryFails +
      history.countP Served.pollFails + history.countP Served.commandFails :=
    h.tallied.errors.trans (Nat.zero_add _)
  have hnone : history.countP Served.rescanFails = 0 ↔ ∀ e ∈ history, e.rescanFails = false := by
    simp only [List.countP_eq_zero, Bool.not_eq_true]
  refine ⟨herrors, ?_⟩
  rw [herrors, ← hnone]
  omega

/-- Of three failures one is not counted: the rescan. -/
theorem failures_counted_but_rescans_demo : Run demoFaulty demoHistory demoEnd ∧
    demoEnd.stats.errors = 2 ∧ demoHistory.countP Served.rescanFails = 1 ∧
    demoEnd.stats.errors ≠ demoHistory.countP Served.discoveryFails +
      demoHistory.countP Served.pollFails + demoHistory.countP Served.rescanFails +
      demoHistory.countP Served.commandFails := by
  obtain ⟨herrors, hall⟩ := failures_counted_but_rescans demo_run
  refine ⟨demo_run, herrors.trans (by decide +kernel), by decide +kernel, fun heq => ?_⟩
  have hfailed : (demoFaulty.serve .rescan).1.rescanFails = true := by decide +kernel
  have hnone := hall.mp heq _ List.mem_cons_self
  exact Bool.false_ne_true (hnone.symm.trans hfailed)

end Supervisor

end ClimateBus
