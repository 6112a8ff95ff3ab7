import ClimateBus.Console.Listing
import ClimateBus.Console.Outcome
import ClimateBus.Settings.Store

/-!
What the console is asked to do, and what it does with an installation.

A task on the units opens a bus, finds the units there, and comes to an answer. How the bus is
opened is left to the caller. An answer is data; `Answer.text` makes of it what is printed, and
cannot fail. What a step says on the way stands even if the step fails.
-/
namespace ClimateBus.Console

/-- The options that every task takes. -/
structure Common where
  config : Option String := none
  port : Option String := none
  baud : Option UInt32 := none
  dataBits : Option UInt8 := none
  parity : Option Parity := none
  stopBits : Option UInt8 := none
  timeout : Option UInt64 := none
  slave : Option UInt8 := none
  txEnable : Option ControlLine := none
  format : Option Listing.Format := none
  simulate : Bool := false
  verbose : Bool := false
  quiet : Bool := false
  deriving Repr

inductive Target where
  | units (indices : List UInt8)
  | all
  deriving Repr

inductive UnitTask where
  | scan
  | status (target : Target)
  | errors (target : Target) (clear : Bool)
  | control (index : UInt8) (commands : List Command)
  deriving Repr

inductive SettingsTask where
  | show
  | init
  | path
  deriving DecidableEq, Repr

inductive Task where
  | ports
  | units (task : UnitTask)
  /-- Samples units every so many seconds, for so many seconds if the number is positive. -/
  | watch (indices : List UInt8) (interval : UInt64) (duration : Int) (out : Option String)
  | settings (task : SettingsTask)
  | exitCodes
  deriving Repr

/-! ## Steps -/

structure Progress where
  files : Files
  /-- Lines told to the user beside the result. -/
  notices : List String := []
  /-- Lines of samples, as far as they do not go to a file. -/
  samples : List String := []

/-- A step of a run. What it has done stands even if it fails. -/
abbrev Act (α : Type) := ExceptT Causes (StateM Progress) α

namespace Act

def ofExcept {ε α : Type} (error : ε → LibraryError) : Except ε α → Act α
  | .ok x => pure x
  | .error e => throw (.ofError (error e))

/-- Says what was being done, should the step fail. -/
def during {α : Type} (what : String) (act : Act α) : Act α :=
  tryCatch act fun cs => throw (cs.during what)

def notice (text : String) : Act Unit :=
  modify fun p => { p with notices := p.notices ++ [text] }

/-- Runs a step of a supervisor, which goes on whatever the step returns. -/
def ofSupervisor {α β : Type} (r : Except SupervisorError α × Supervisor β) :
    Act (α × Supervisor β) := do
  return (← ofExcept .supervisor r.1, r.2)

end Act

/-! ## Tasks on the units -/

section Units

variable {β : Type} [Bus β]

/-- Opens a bus and finds the units there. -/
def connect (opening : Act β) (c : Common) (s : Settings) : Act (Supervisor β) := do
  let bus ← opening
  let gateway := Gateway.new bus 0 s.master.slave s.gateway
  let (count, installation) ←
    Act.during "discovery" (Act.ofSupervisor (Supervisor.new gateway s.supervisor).rescan)
  if c.verbose then Act.notice s!"Discovered {count} units"
  return installation

/-- The reports of some units in the order they are asked for; fails at the first that is not
among them. -/
def select (reports : List UnitReport) (indices : List UInt8) :
    Except GatewayError (List UnitReport) :=
  indices.mapM fun index =>
    match reports.find? fun r => r.index == index with
    | some r => .ok r
    | none => .error (.unitNotPresent index)

/-- The reports of the units a task is about. -/
def selected (i : Supervisor β) (t : Target) : Act (List UnitReport × Supervisor β) := do
  let (reports, i) ← Act.ofSupervisor i.snapshot
  match t with
  | .all => return (reports, i)
  | .units indices => return (← Act.ofExcept .gateway (select reports indices), i)

/-- Reads the errors of units one after the other. -/
def readErrors : List UnitReport → Supervisor β → Act (List ErrorReport × Supervisor β)
  | [], i => return ([], i)
  | r :: rest, i => do
    let (e, i) ← Act.ofSupervisor (i.errorReport r.index)
    let (es, i) ← readErrors rest i
    return (e :: es, i)

/-- Sends commands to a unit one after the other. -/
def sendAll (verbose : Bool) (index : UInt8) :
    List Command → Supervisor β → Act (Supervisor β)
  | [], i => return i
  | command :: rest, i => do
    let what := s!"unit {index.toNat}: {command.describe}"
    let ((), i) ← Act.during what (Act.ofSupervisor (i.execute index command))
    if verbose then Act.notice what
    sendAll verbose index rest i

/-- What a task on the units finds out. -/
inductive Answer where
  | found (system : SystemImage) (present : List String)
  | units (reports : List UnitReport)
  | errors (reports : List ErrorReport)
  | nothing

namespace UnitTask

/-- What a task does once the units are found. -/
def onUnits (c : Common) (i : Supervisor β) : UnitTask → Act Answer
  | .scan => do
    let (answer, _) ← Act.ofSupervisor <| i.withGateway .query fun s =>
      (.ok (.found s.gateway.system (s.gateway.presentSlots.map Slot.id)), s)
    return answer
  | .status target => do
    let (reports, _) ← selected i target
    return .units reports
  | .errors target clear => do
    let (reports, i) ← selected i target
    let (found, _) ← readErrors reports i
    return .errors (if clear then found else found.filter (·.active))
  | .control index commands => do
    let i ← sendAll c.verbose index commands i
    if c.quiet then return .nothing
    let (reports, _) ← selected i (.units [index])
    return .units reports

def perform (opening : Act β) (c : Common) (s : Settings) (task : UnitTask) : Act Answer := do
  task.onUnits c (← connect opening c s)

end UnitTask

end Units

/-! ## What is printed of an answer -/

def foundText (f : Listing.Format) (system : SystemImage) (present : List String) : String :=
  match f with
  | .json => (Json.obj [
      ("healthy", .arr (system.healthySlots.map .ofNat)),
      ("initialized", .bool system.initialized),
      ("other_master", .bool system.otherMaster),
      ("present", .arr (present.map .str))]).pretty
  | .text =>
    Listing.lines [
      s!"initialized={system.initialized} other_master={system.otherMaster}",
      "healthy slots: [" ++ String.intercalate ", " (system.healthySlots.map toString) ++ "]",
      s!"present units ({present.length}): " ++ String.intercalate " " present]

def Answer.text (f : Listing.Format) : Answer → Option String
  | .found system present => foundText f system present
  | .units reports => Listing.units f reports
  | .errors reports =>
    if reports.isEmpty && f = .text then "No active errors." else Listing.errors f reports
  | .nothing => none

end ClimateBus.Console
