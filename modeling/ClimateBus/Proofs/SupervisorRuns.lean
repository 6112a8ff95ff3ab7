import ClimateBus.Proofs.GatewaySteps
import ClimateBus.Supervisor
import Mathlib

/-!
Runs of a supervisor: calls in any order, each with its answer, and between them whatever the
surroundings do to the bus, the clocks and the hold on the gateway.

An answer tells what its call added to the counts, to the journal and to the mark of a discovery
(`Supervisor.Accounted`), whatever state the call was made in.
-/
namespace ClimateBus

inductive SupervisorCall where
  | pollCycle
  | rescan
  | execute (index : UInt8) (c : Command)
  | executeRequest (index : UInt8) (name : String) (value : Option Binary64)
  | reportStatus
  | errorReport (index : UInt8)
  | snapshot

/-- A call and its answer. -/
inductive Served where
  | pollCycle (answer : Except SupervisorError PollOutcome)
  | rescan (answer : Except SupervisorError Nat)
  | execute (index : UInt8) (c : Command) (answer : Except SupervisorError Unit)
  | executeRequest (index : UInt8) (name : String) (value : Option Binary64)
      (answer : Except SupervisorError Unit)
  | reportStatus (answer : Except SupervisorError (List String))
  | errorReport (index : UInt8) (answer : Except SupervisorError ErrorReport)
  | snapshot (answer : Except SupervisorError (List UnitReport))

/-- The call got as far as the bus, and the bus failed. -/
def SupervisorError.onBus {α : Type} : Except SupervisorError α → Bool
  | .error (.gateway (.bus _)) => true
  | _ => false

/-- Another caller held the gateway for too long. -/
def SupervisorError.turnedDown {α : Type} : Except SupervisorError α → Bool
  | .error (.busy _) => true
  | _ => false

theorem SupervisorError.turnedDown_mapError {α : Type} (answer : Except GatewayError α) :
    turnedDown (answer.mapError .gateway) = false := by
  cases answer with
  | error e => rfl
  | ok a => rfl

namespace Served

open SupervisorError (onBus turnedDown)

/-- A poll cycle or a rescan that came back with a result. -/
def succeeds : Served → Bool
  | .pollCycle answer => answer.isOk
  | .rescan answer => answer.isOk
  | _ => false

/-- A successful discovery, by a poll cycle or by a rescan. -/
def discovers : Served → Bool
  | .pollCycle (.ok (.discovered _)) => true
  | .rescan answer => answer.isOk
  | _ => false

/-- A poll cycle that got the gateway. -/
def cycles : Served → Bool
  | .pollCycle (.error (.busy _)) => false
  | .pollCycle _ => true
  | _ => false

/-- A command that was carried out. -/
def commands : Served → Bool
  | .execute _ _ answer | .executeRequest _ _ _ answer => answer.isOk
  | _ => false

/-- A poll cycle whose discovery failed. -/
def discoveryFails : Served → Bool
  | .pollCycle answer => onBus answer
  | _ => false

/-- A poll cycle with at least one unit that could not be read. -/
def pollFails : Served → Bool
  | .pollCycle (.ok (.polled summary)) => summary.failed != 0
  | _ => false

def rescanFails : Served → Bool
  | .rescan answer => onBus answer
  | _ => false

def commandFails : Served → Bool
  | .execute _ _ answer | .executeRequest _ _ _ answer => onBus answer
  | _ => false

/-- A call that waited too long for the gateway. -/
def givesUp : Served → Bool
  | .pollCycle answer => turnedDown answer
  | .rescan answer => turnedDown answer
  | .execute _ _ answer | .executeRequest _ _ _ answer => turnedDown answer
  | .reportStatus answer => turnedDown answer
  | .errorReport _ answer => turnedDown answer
  | .snapshot answer => turnedDown answer

/-- How many lines a report returned. -/
def reported : Served → Nat
  | .reportStatus (.ok lines) => lines.length
  | _ => 0

end Served

namespace Gateway

variable {β : Type} {g : Gateway β}

/-- Who gets as far as a unit fails on the bus or not at all. -/
theorem onPresent_eq_error {i : UInt8} {u : Slot} {step : BusLink β → Slot → SlotStep β}
    {e : GatewayError} (hu : g.present? i = .ok u) (h : (g.onPresent i step).1 = .error e) :
    ∃ t, e = .bus t := by
  rw [onPresent_present hu] at h
  cases hresult : (step g.link u).result with
  | ok _ => rw [hresult] at h; cases h
  | error t =>
    rw [hresult] at h
    exact ⟨t, (Except.error.inj h).symm⟩

variable [Bus β]

theorem discover_eq_error {e : GatewayError} (h : g.discover.1 = .error e) : ∃ t, e = .bus t := by
  unfold discover at h
  dsimp only at h
  split at h
  · next t _ => exact ⟨t, (Except.error.inj h).symm⟩
  · cases h

theorem discover_eq_ok {n : Nat} (h : g.discover.1 = .ok n) :
    n = g.discover.2.presentSlots.length := by
  unfold discover at h ⊢
  generalize g.link.read .system 0 g.system.image = r at h ⊢
  obtain ⟨result, buffer, link⟩ := r
  cases result with
  | error e => cases h
  | ok _ => exact (Except.ok.inj h).symm

end Gateway

/-- Bus and clock may change in any way. -/
def Surroundings.arbitrary (β : Type) : Surroundings β := ⟨fun _ _ => True, fun _ _ => True⟩

namespace Supervisor

variable {β : Type}

/-- The supervisor with bus, clocks and hold as others left them. -/
def amid (s : Supervisor β) (bus : β) (now : UInt64) (clock : Stamp) (held : Bool) :
    Supervisor β :=
  { s with gateway := s.gateway.amid bus now, clock, held }

variable [Bus β]

def serve (s : Supervisor β) : SupervisorCall → Served × Supervisor β
  | .pollCycle => (.pollCycle s.pollCycle.1, s.pollCycle.2)
  | .rescan => (.rescan s.rescan.1, s.rescan.2)
  | .execute index c => (.execute index c (s.execute index c).1, (s.execute index c).2)
  | .executeRequest index name value =>
    (.executeRequest index name value (s.executeRequest index name value).1,
      (s.executeRequest index name value).2)
  | .reportStatus => (.reportStatus s.reportStatus.1, s.reportStatus.2)
  | .errorReport index => (.errorReport index (s.errorReport index).1, (s.errorReport index).2)
  | .snapshot => (.snapshot s.snapshot.1, s.snapshot.2)

/-- The supervisor gets from one state to another, and this was asked and answered on the way. -/
inductive Run (start : Supervisor β) : List Served → Supervisor β → Prop
  | start : Run start [] start
  | call {history : List Served} {s : Supervisor β} (run : Run start history s)
      (k : SupervisorCall) : Run start (history ++ [(s.serve k).1]) (s.serve k).2
  | outside {history : List Served} {s : Supervisor β} (run : Run start history s) (bus : β)
      (now : UInt64) (clock : Stamp) (held : Bool) : Run start history (s.amid bus now clock held)

/-- The supervisor after it turned a call away. -/
def turnedAway (s : Supervisor β) : Supervisor β :=
  s.count fun c => { c with busy := c.busy + 1 }

section Gateway

variable {α : Type} {s : Supervisor β} {activity : Activity}
  {run : Supervisor β → Except SupervisorError α × Supervisor β}

omit [Bus β] in
theorem withGateway_held (h : s.held = true) :
    s.withGateway activity run = (.error (.busy activity.name), s.turnedAway) := by
  rw [withGateway, if_pos h]
  rfl

omit [Bus β] in
theorem withGateway_free (h : s.held = false) : s.withGateway activity run = run s := by
  rw [withGateway, if_neg (by rw [h]; exact Bool.false_ne_true)]

end Gateway

/-- The supervisor once a poll cycle has begun and has used the gateway. -/
def inCycle (s : Supervisor β) (gateway : Gateway β) : Supervisor β :=
  { s.count (fun c => { c with pollCycles := c.pollCycles + 1 }) with gateway }

/-- What a poll cycle comes to. -/
inductive Cycled (s : Supervisor β) : Except SupervisorError PollOutcome × Supervisor β → Prop
  | busy (hheld : s.held = true) : Cycled s (.error (.busy Activity.poll.name), s.turnedAway)
  | found (hheld : s.held = false) (hfirst : s.discovered = false) (n : Nat)
      (h : s.gateway.discover.1 = .ok n) :
      Cycled s (.ok (.discovered n), (s.inCycle s.gateway.discover.2).noteDiscovery n)
  | lost (hheld : s.held = false) (hfirst : s.discovered = false) (t : TransportError)
      (h : s.gateway.discover.1 = .error (.bus t)) :
      Cycled s (.error (.gateway (.bus t)), ((s.inCycle s.gateway.discover.2).log
        ("discover failed: " ++ GatewayError.message (.bus t))).countError)
  | polled (hheld : s.held = false) (hlater : s.discovered = true)
      (h : s.gateway.poll.1.failed = 0) :
      Cycled s (.ok (.polled s.gateway.poll.1), s.inCycle s.gateway.poll.2)
  | missed (hheld : s.held = false) (hlater : s.discovered = true)
      (h : s.gateway.poll.1.failed ≠ 0) (text : String) :
      Cycled s (.ok (.polled s.gateway.poll.1),
        ((s.inCycle s.gateway.poll.2).log text).countError)

theorem pollCycle_cycled (s : Supervisor β) : Cycled s s.pollCycle := by
  cases hheld : s.held with
  | true =>
    rw [pollCycle, withGateway_held hheld]
    exact .busy hheld
  | false =>
    rw [pollCycle, withGateway_free hheld]
    have hmark : (s.count fun c => { c with pollCycles := c.pollCycles + 1 }).discovered =
        s.discovered := rfl
    dsimp only
    cases hdiscovered : s.discovered with
    | true =>
      rw [if_pos (hmark.trans hdiscovered)]
      split_ifs with hfailed
      · exact .polled hheld hdiscovered hfailed
      · exact .missed hheld hdiscovered hfailed _
    | false =>
      have hgateway : (s.count fun c => { c with pollCycles := c.pollCycles + 1 }).gateway =
          s.gateway := rfl
      rw [if_neg (by rw [hmark, hdiscovered]; exact Bool.false_ne_true), hgateway]
      cases hanswer : s.gateway.discover.1 with
      | ok n =>
        have hpair : s.gateway.discover = (.ok n, s.gateway.discover.2) := Prod.ext hanswer rfl
        rw [hpair]
        exact .found hheld hdiscovered n hanswer
      | error e =>
        obtain ⟨t, rfl⟩ := Gateway.discover_eq_error hanswer
        have hpair : s.gateway.discover = (.error (.bus t), s.gateway.discover.2) :=
          Prod.ext hanswer rfl
        rw [hpair]
        exact .lost hheld hdiscovered t hanswer

/-- What a command comes to. -/
inductive Executed (s : Supervisor β) (index : UInt8) (c : Command) :
    Except SupervisorError Unit × Supervisor β → Prop
  | busy (hheld : s.held = true) :
      Executed s index c (.error (.busy Activity.command.name), s.turnedAway)
  | refused (hheld : s.held = false) (e : GatewayError) (h : s.gateway.present? index = .error e) :
      Executed s index c (.error (.gateway e), s)
  | failed (hheld : s.held = false) (t : TransportError)
      (h : (s.gateway.apply index c).1 = .error (.bus t)) :
      Executed s index c (.error (.gateway (.bus t)),
        { s with gateway := (s.gateway.apply index c).2 }.countError)
  | done (hheld : s.held = false) (h : (s.gateway.apply index c).1 = .ok ()) (text : String) :
      Executed s index c (.ok (),
        ({ s with gateway := (s.gateway.apply index c).2 }.count
          fun n => { n with commands := n.commands + 1 }).log text)

theorem execute_executed (s : Supervisor β) (index : UInt8) (c : Command) :
    Executed s index c (s.execute index c) := by
  cases hheld : s.held with
  | true =>
    rw [execute, withGateway_held hheld]
    exact .busy hheld
  | false =>
    rw [execute, withGateway_free hheld]
    cases hu : s.gateway.present? index with
    | error e => exact .refused hheld e hu
    | ok u =>
      cases hanswer : (s.gateway.apply index c).1 with
      | error e =>
        obtain ⟨t, rfl⟩ := Gateway.onPresent_eq_error hu hanswer
        have hpair : s.gateway.apply index c = (.error (.bus t), (s.gateway.apply index c).2) :=
          Prod.ext hanswer rfl
        dsimp only
        rw [hpair]
        exact .failed hheld t hanswer
      | ok _ =>
        have hpair : s.gateway.apply index c = (.ok (), (s.gateway.apply index c).2) :=
          Prod.ext hanswer rfl
        dsimp only
        rw [hpair]
        exact .done hheld hanswer _

/-- What a call that was answered in this way added. -/
structure Accounted (s : Supervisor β) (e : Served) (s' : Supervisor β) : Prop where
  discovered : s'.discovered = (e.succeeds || s.discovered)
  discoveries : s'.stats.discoveries = s.stats.discoveries + e.discovers.toNat
  commands : s'.stats.commands = s.stats.commands + e.commands.toNat
  pollCycles : s'.stats.pollCycles = s.stats.pollCycles + e.cycles.toNat
  errors : s'.stats.errors = s.stats.errors +
    (e.discoveryFails.toNat + e.pollFails.toNat + e.commandFails.toNat)
  busy : s'.stats.busy = s.stats.busy + e.givesUp.toNat
  journal : s'.journal.lastSeq = s.journal.lastSeq + (e.reported + e.discovers.toNat +
    e.discoveryFails.toNat + e.pollFails.toNat + e.commands.toNat)

theorem pollCycle_accounted (s : Supervisor β) :
    Accounted s (.pollCycle s.pollCycle.1) s.pollCycle.2 := by
  have hcycled := s.pollCycle_cycled
  generalize s.pollCycle = r at hcycled
  cases hcycled with
  | busy hheld => exact ⟨rfl, rfl, rfl, rfl, rfl, rfl, rfl⟩
  | found hheld hfirst n h => exact ⟨rfl, rfl, rfl, rfl, rfl, rfl, rfl⟩
  | lost hheld hfirst t h => exact ⟨rfl, rfl, rfl, rfl, rfl, rfl, rfl⟩
  | polled hheld hlater h =>
    have hnone : (Served.pollCycle (.ok (.polled s.gateway.poll.1))).pollFails = false :=
      bne_eq_false_iff_eq.mpr h
    refine ⟨hlater, rfl, rfl, rfl, ?_, rfl, ?_⟩
    · rw [hnone]
      rfl
    · rw [hnone]
      rfl
  | missed hheld hlater h text =>
    have hsome : (Served.pollCycle (.ok (.polled s.gateway.poll.1))).pollFails = true :=
      bne_iff_ne.mpr h
    refine ⟨hlater, rfl, rfl, rfl, ?_, rfl, ?_⟩
    · rw [hsome]
      rfl
    · rw [hsome]
      rfl

omit [Bus β] in
/-- A call that does not wait too long is accounted for by what it does then. -/
theorem withGateway_accounted {α : Type} {s : Supervisor β} {activity : Activity}
    {run : Supervisor β → Except SupervisorError α × Supervisor β}
    (served : Except SupervisorError α → Served)
    (hbusy : Accounted s (served (.error (.busy activity.name))) s.turnedAway)
    (h : Accounted s (served (run s).1) (run s).2) :
    Accounted s (served (s.withGateway activity run).1) (s.withGateway activity run).2 := by
  cases hheld : s.held with
  | true => rwa [withGateway_held hheld]
  | false => rwa [withGateway_free hheld]

theorem rescan_accounted (s : Supervisor β) : Accounted s (.rescan s.rescan.1) s.rescan.2 := by
  refine withGateway_accounted .rescan ⟨rfl, rfl, rfl, rfl, rfl, rfl, rfl⟩ ?_
  obtain ⟨answer, gateway⟩ := s.gateway.discover
  cases answer with
  | ok n => exact ⟨rfl, rfl, rfl, rfl, rfl, rfl, rfl⟩
  | error e => exact ⟨rfl, rfl, rfl, rfl, rfl, rfl, rfl⟩

theorem execute_accounted (s : Supervisor β) (index : UInt8) (c : Command) :
    Accounted s (.execute index c (s.execute index c).1) (s.execute index c).2 := by
  have hexecuted := s.execute_executed index c
  generalize s.execute index c = r at hexecuted
  cases hexecuted with
  | busy hheld => exact ⟨rfl, rfl, rfl, rfl, rfl, rfl, rfl⟩
  | refused hheld e h =>
    rcases Gateway.present?_eq_error.mp h with ⟨-, rfl⟩ | ⟨u, -, -, rfl⟩
    · exact ⟨rfl, rfl, rfl, rfl, rfl, rfl, rfl⟩
    · exact ⟨rfl, rfl, rfl, rfl, rfl, rfl, rfl⟩
  | failed hheld t h => exact ⟨rfl, rfl, rfl, rfl, rfl, rfl, rfl⟩
  | done hheld h text => exact ⟨rfl, rfl, rfl, rfl, rfl, rfl, rfl⟩

/-- A request that is a command is accounted for as that command, any other one not at all. -/
theorem executeRequest_accounted (s : Supervisor β) (index : UInt8) (name : String)
    (value : Option Binary64) :
    Accounted s (.executeRequest index name value (s.executeRequest index name value).1)
      (s.executeRequest index name value).2 := by
  unfold executeRequest
  cases Command.ofRequest name value with
  | error e => exact ⟨rfl, rfl, rfl, rfl, rfl, rfl, rfl⟩
  | ok c =>
    obtain ⟨hdiscovered, hdiscoveries, hcommands, hcycles, herrors, hbusy, hjournal⟩ :=
      s.execute_accounted index c
    exact ⟨hdiscovered, hdiscoveries, hcommands, hcycles, herrors, hbusy, hjournal⟩

omit [Bus β] in
theorem foldl_log (lines : List String) (s : Supervisor β) :
    ∃ journal, lines.foldl log s = { s with journal } ∧
      journal.lastSeq = s.journal.lastSeq + lines.length := by
  induction lines generalizing s with
  | nil => exact ⟨s.journal, rfl, rfl⟩
  | cons line rest ih =>
    obtain ⟨journal, hfold, hlast⟩ := ih (s.log line)
    refine ⟨journal, hfold, hlast.trans ?_⟩
    rw [List.length_cons, Nat.add_comm rest.length, ← Nat.add_assoc]
    rfl

omit [Bus β] in
theorem reportStatus_accounted (s : Supervisor β) :
    Accounted s (.reportStatus s.reportStatus.1) s.reportStatus.2 := by
  refine withGateway_accounted .reportStatus ⟨rfl, rfl, rfl, rfl, rfl, rfl, rfl⟩ ?_
  obtain ⟨journal, hfold, hlast⟩ := foldl_log (statusLines s.gateway) s
  dsimp only
  rw [hfold]
  exact ⟨rfl, rfl, rfl, rfl, rfl, rfl, hlast⟩

theorem errorReport_accounted (s : Supervisor β) (index : UInt8) :
    Accounted s (.errorReport index (s.errorReport index).1) (s.errorReport index).2 := by
  refine withGateway_accounted (.errorReport index) ⟨rfl, rfl, rfl, rfl, rfl, rfl, rfl⟩
    ⟨rfl, rfl, rfl, rfl, rfl, ?_, rfl⟩
  -- A call that has the gateway does not give up.
  dsimp only [Served.givesUp]
  rw [SupervisorError.turnedDown_mapError]
  rfl

omit [Bus β] in
theorem snapshot_accounted (s : Supervisor β) :
    Accounted s (.snapshot s.snapshot.1) s.snapshot.2 :=
  withGateway_accounted .snapshot ⟨rfl, rfl, rfl, rfl, rfl, rfl, rfl⟩ ⟨rfl, rfl, rfl, rfl, rfl, rfl, rfl⟩

theorem serve_accounted (s : Supervisor β) (k : SupervisorCall) :
    Accounted s (s.serve k).1 (s.serve k).2 := by
  cases k with
  | pollCycle => exact s.pollCycle_accounted
  | rescan => exact s.rescan_accounted
  | execute index c => exact s.execute_accounted index c
  | executeRequest index name value => exact s.executeRequest_accounted index name value
  | reportStatus => exact s.reportStatus_accounted
  | errorReport index => exact s.errorReport_accounted index
  | snapshot => exact s.snapshot_accounted

/-- The gateway was left alone or made to do one thing. -/
def UsedOnce (g g' : Gateway β) : Prop := g' = g ∨ ∃ call, g' = g.call call

theorem withGateway_usedOnce {α : Type} {s : Supervisor β} {activity : Activity}
    {run : Supervisor β → Except SupervisorError α × Supervisor β}
    (h : UsedOnce s.gateway (run s).2.gateway) :
    UsedOnce s.gateway (s.withGateway activity run).2.gateway := by
  cases hheld : s.held with
  | true =>
    rw [withGateway_held hheld]
    exact .inl rfl
  | false => rwa [withGateway_free hheld]

theorem pollCycle_usedOnce (s : Supervisor β) : UsedOnce s.gateway s.pollCycle.2.gateway := by
  have hcycled := s.pollCycle_cycled
  generalize s.pollCycle = r at hcycled
  cases hcycled with
  | busy _ => exact .inl rfl
  | found _ _ n h => exact .inr ⟨.discover, rfl⟩
  | lost _ _ t h => exact .inr ⟨.discover, rfl⟩
  | polled _ _ h => exact .inr ⟨.poll, rfl⟩
  | missed _ _ h text => exact .inr ⟨.poll, rfl⟩

theorem execute_usedOnce (s : Supervisor β) (index : UInt8) (c : Command) :
    UsedOnce s.gateway (s.execute index c).2.gateway := by
  have hexecuted := s.execute_executed index c
  generalize s.execute index c = r at hexecuted
  cases hexecuted with
  | busy _ => exact .inl rfl
  | refused _ e h => exact .inl rfl
  | failed _ t h => exact .inr ⟨.apply index c, rfl⟩
  | done _ h text => exact .inr ⟨.apply index c, rfl⟩

theorem serve_usedOnce (s : Supervisor β) (k : SupervisorCall) :
    UsedOnce s.gateway (s.serve k).2.gateway := by
  cases k with
  | pollCycle => exact s.pollCycle_usedOnce
  | rescan =>
    refine withGateway_usedOnce (.inr ⟨.discover, ?_⟩)
    unfold Gateway.call
    obtain ⟨answer, gateway⟩ := s.gateway.discover
    cases answer with
    | ok n => rfl
    | error e => rfl
  | execute index c => exact s.execute_usedOnce index c
  | executeRequest index name value =>
    change UsedOnce s.gateway (s.executeRequest index name value).2.gateway
    unfold executeRequest
    cases Command.ofRequest name value with
    | error e => exact .inl rfl
    | ok c => exact s.execute_usedOnce index c
  | reportStatus =>
    refine withGateway_usedOnce (.inl ?_)
    obtain ⟨journal, hfold, -⟩ := foldl_log (statusLines s.gateway) s
    dsimp only
    rw [hfold]
  | errorReport index => exact withGateway_usedOnce (.inr ⟨.readError index, rfl⟩)
  | snapshot => exact withGateway_usedOnce (.inl rfl)

/-- The gateway of a supervisor gets nowhere it could not get on its own. -/
theorem Run.reachable {start s : Supervisor β} {history : List Served} (h : Run start history s)
    (hstart : Gateway.Reachable (.arbitrary β) start.gateway) : Gateway.Reachable (.arbitrary β) s.gateway := by
  induction h with
  | start => exact hstart
  | @call _ s _ k ih =>
    rcases s.serve_usedOnce k with hsame | ⟨call, hcall⟩
    · rwa [hsame]
    · rw [hcall]
      exact ih.call call
  | outside _ bus now clock held ih => exact ih.amid trivial trivial

end Supervisor

end ClimateBus
