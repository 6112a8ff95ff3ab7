import ClimateBus.Gateway.Basic
import ClimateBus.Journal

/-!
One gateway shared by a poller, a reporter and callers with commands.

Each call needs the gateway for itself and gives up if another caller holds it for longer than the
call's time limit. What happened is counted, and told in a journal. Counts have no bound here, and
none is ever greater than the number of calls (`Supervisor.Run.stats_le`).
-/
namespace ClimateBus

inductive Activity where
  | poll | status | command | discover | errorRead | snapshot | query
  deriving DecidableEq, Repr

def Activity.name : Activity → String
  | .poll => "poll"
  | .status => "status"
  | .command => "command"
  | .discover => "discover"
  | .errorRead => "error read"
  | .snapshot => "snapshot"
  | .query => "query"

inductive SupervisorError where
  /-- Another caller held the gateway too long; the activity that gave up is named. -/
  | busy (activity : String)
  | gateway (e : GatewayError)
  | command (e : CommandError)
  deriving DecidableEq, Repr

def SupervisorError.message : SupervisorError → String
  | .busy activity => s!"gateway busy ({activity})"
  | .gateway e => e.message
  | .command e => e.message

structure SupervisorSettings where
  /-- Seconds between status reports. -/
  statusIntervalS : UInt64 := 5
  /-- Time limits, in milliseconds, for a poll, a report, a command, and everything else. -/
  pollLockMs : UInt64 := 4000
  statusLockMs : UInt64 := 200
  commandLockMs : UInt64 := 5000
  queryLockMs : UInt64 := 2000
  /-- Lines the journal keeps. -/
  logCapacity : UInt64 := 128
  deriving DecidableEq, Repr

structure Statistics where
  pollCycles : Nat := 0
  discoveries : Nat := 0
  commands : Nat := 0
  /-- Failed discoveries, polls and commands. -/
  errors : Nat := 0
  /-- Calls that gave up waiting. -/
  busy : Nat := 0
  deriving DecidableEq, Repr

inductive PollOutcome where
  | discovered (count : Nat)
  | polled (summary : PollSummary)
  deriving DecidableEq, Repr

structure Supervisor (β : Type) where
  gateway : Gateway β
  journal : Journal
  settings : SupervisorSettings
  /-- A discovery has succeeded. -/
  discovered : Bool := false
  stats : Statistics := {}
  /-- Another caller holds the gateway for longer than any time limit. -/
  held : Bool := false
  /-- The time of day that lines are stamped with. -/
  clock : Stamp := default

namespace Supervisor

variable {β : Type}

def new (gateway : Gateway β) (settings : SupervisorSettings) : Supervisor β :=
  { gateway, settings, journal := .empty settings.logCapacity.toNat }

def log (s : Supervisor β) (text : String) : Supervisor β :=
  { s with journal := s.journal.push s.clock text }

def count (s : Supervisor β) (f : Statistics → Statistics) : Supervisor β :=
  { s with stats := f s.stats }

def countError (s : Supervisor β) : Supervisor β :=
  s.count fun c => { c with errors := c.errors + 1 }

def withGateway {α : Type} (s : Supervisor β) (activity : Activity)
    (run : Supervisor β → Except SupervisorError α × Supervisor β) :
    Except SupervisorError α × Supervisor β :=
  if s.held then
    (.error (.busy activity.name), s.count fun c => { c with busy := c.busy + 1 })
  else run s

variable [Bus β]

/-- Takes note of a successful discovery. -/
def noteDiscovery (s : Supervisor β) (count : Nat) : Supervisor β :=
  { (s.log s!"discovered {count} units").count (fun c => { c with discoveries := c.discoveries + 1 })
    with discovered := true }

/-- One turn of the poller: a discovery until one has succeeded, then polls. -/
def pollCycle (s : Supervisor β) : Except SupervisorError PollOutcome × Supervisor β :=
  s.withGateway .poll fun s =>
    let s := s.count fun c => { c with pollCycles := c.pollCycles + 1 }
    if s.discovered then
      let (summary, gateway) := s.gateway.poll
      let s := { s with gateway }
      let s :=
        if summary.failed = 0 then s
        else
          let total := summary.failed + summary.polled
          (s.log s!"poll failed: {summary.failed} of {total} units").countError
      (.ok (.polled summary), s)
    else
      match s.gateway.discover with
      | (.ok count, gateway) => (.ok (.discovered count), { s with gateway }.noteDiscovery count)
      | (.error e, gateway) =>
        let s := { s with gateway }
        (.error (.gateway e), (s.log ("discover failed: " ++ e.message)).countError)

def statusLine (u : Slot) : String :=
  let power := if u.status.power then "1" else "0"
  s!"{u.id} pwr={power} mode={u.status.modeCode.toNat}" ++
    s!" set={u.status.setpoint.tenthsText} cur={u.status.room.tenthsText}"

def statusLines (g : Gateway β) : List String :=
  s!"units={g.discovered}" :: g.presentSlots.map statusLine

/-- Tells the journal about every unit, and returns the lines. -/
def reportStatus (s : Supervisor β) : Except SupervisorError (List String) × Supervisor β :=
  s.withGateway .status fun s =>
    let lines := statusLines s.gateway
    (.ok lines, lines.foldl log s)

def execute (s : Supervisor β) (index : UInt8) (c : Command) :
    Except SupervisorError Unit × Supervisor β :=
  s.withGateway .command fun s =>
    match s.gateway.present? index with
    | .error e => (.error (.gateway e), s)
    | .ok _ =>
      match s.gateway.apply index c with
      | (.error e, gateway) => (.error (.gateway e), { s with gateway }.countError)
      | (.ok (), gateway) =>
        let s := { s with gateway }.count fun n => { n with commands := n.commands + 1 }
        (.ok (), s.log s!"hvac cmd idx={index.toNat} {c.name}")

def executeRequest (s : Supervisor β) (index : UInt8) (name : String) (value : Option Binary64) :
    Except SupervisorError Unit × Supervisor β :=
  match Command.ofRequest name value with
  | .error e => (.error (.command e), s)
  | .ok c => s.execute index c

def rescan (s : Supervisor β) : Except SupervisorError Nat × Supervisor β :=
  s.withGateway .discover fun s =>
    match s.gateway.discover with
    | (.ok count, gateway) => (.ok count, { s with gateway }.noteDiscovery count)
    | (.error e, gateway) => (.error (.gateway e), { s with gateway })

/-- The error of a unit, read from the bus or recently enough. -/
def errorReport (s : Supervisor β) (index : UInt8) :
    Except SupervisorError ErrorReport × Supervisor β :=
  s.withGateway .errorRead fun s =>
    let (result, gateway) := s.gateway.readError index
    let report : Except GatewayError ErrorReport := do
      result
      return .ofSlot (← gateway.slot? index)
    (report.mapError .gateway, { s with gateway })

def snapshot (s : Supervisor β) : Except SupervisorError (List UnitReport) × Supervisor β :=
  s.withGateway .snapshot fun s => (.ok s.gateway.reports, s)

/-- One turn of the poller and one of the reporter; what they return is not kept. -/
def runOnce (s : Supervisor β) : Supervisor β := s.pollCycle.2.reportStatus.2

end Supervisor

end ClimateBus
