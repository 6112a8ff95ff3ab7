import ClimateBus.Console.Arguments
import ClimateBus.Simulation
import ClimateBus.Toml.Document

/-!
Carrying out a command line.

A task works on the files it is given and on a bus of its own, and ends in an outcome. The simulated
installation is the only bus at hand: no serial port can be opened from here, so each is reported as
not found. The tasks themselves know nothing of that (`UnitTask.perform`).
-/
namespace ClimateBus.Console

structure Environment where
  home : Home
  vars : Variables := {}
  files : Files
  /-- The time that samples are stamped with. -/
  now : String := ""

abbrev Installation := Supervisor Simulation

/-- Loads the settings and puts what the options say in place of them. -/
def effective (env : Environment) (c : Common) : Act Settings := do
  let files := (← get).files
  let loaded := match c.config with
    | some path => Settings.loadFrom files path
    | none => Settings.load files env.home
  return c.override (← Act.ofExcept .settings loaded)

def openBus (c : Common) (s : Settings) : Act Simulation := do
  if c.simulate then return .demo
  if !c.quiet then Act.notice s!"Connecting to {s.serial.summary}..."
  Act.during s!"opening {s.serial.port}" do
    throw (.ofError (.transport (.portNotFound s.serial.port)))

/-! ## Watching -/

structure Watch where
  installation : Installation
  indices : List UInt8
  /-- Seconds from one sample to the next. -/
  interval : Nat
  /-- Seconds after which the watch ends, if it ends by itself. -/
  duration : Option Nat
  /-- The file that samples are added to, if they are not printed. -/
  out : Option String
  /-- Failed samples are told. -/
  verbose : Bool

namespace Watch

/-- Refreshes the units and gives a line for each that is watched, or what went wrong. -/
def sample (w : Watch) (now : String) : Except SupervisorError (List String) × Watch :=
  let (polled, i) := w.installation.withGateway .query fun s =>
    let (summary, gateway) := s.gateway.poll
    (.ok summary, { s with gateway })
  let (reports, i) := i.snapshot
  let line (r : UnitReport) : String :=
    (Json.obj [("ts", .str now), ("unit", r.toJson)]).compact
  let lines := do
    let _ ← polled
    return ((← reports).filter fun r => r.index ∈ w.indices).map line
  (lines, { w with installation := i })

def emit (w : Watch) (lines : List String) : Act Unit := do
  match w.out with
  | none => modify fun p => { p with samples := p.samples ++ lines }
  | some path =>
    match (← get).files.append path (String.join (lines.map (· ++ "\n"))) with
    | .ok files => modify fun p => { p with files }
    | .error e => throw [.note e.message]

/-- Takes one sample. A failed one is left out. -/
def turn (w : Watch) (now : String) : Act Watch := do
  let (lines, w) := w.sample now
  match lines with
  | .ok lines => w.emit lines
  | .error e => if w.verbose then Act.notice s!"sample skipped: {e.message}"
  return w

end Watch

/-- Starts a watch with a first sample. -/
def startWatch (env : Environment) (c : Common) (s : Settings) (indices : List UInt8)
    (interval : UInt64) (duration : Int) (out : Option String) : Act Watch := do
  let i ← connect (openBus c s) c s
  let (_, i) ← selected i (.units indices)
  if let some path := out then
    if let .error e := (← get).files.locate path true then
      throw [.note s!"opening {path}", .note e.message]
  let watch : Watch := {
    installation := i, indices, out, verbose := c.verbose
    interval := max interval.toNat 1
    duration := if 0 < duration then some duration.toNat else none }
  watch.turn env.now

/-! ## Tasks -/

/-- How a task leaves things: ended, or watching on. -/
inductive Result where
  | said (text : Option String)
  | watching (w : Watch)

/-- The file that settings are loaded from and saved to. -/
def settingsPath (env : Environment) (c : Common) : Act String :=
  match c.config with
  | some path => return path
  | none => Act.ofExcept .settings env.home.settingsFile

def runSettings (env : Environment) (c : Common) (s : Settings) : SettingsTask → Act String
  | .show => Act.ofExcept .settings s.render
  | .path => settingsPath env c
  | .init => do
    let path ← settingsPath env c
    let files ← Act.ofExcept .settings (s.saveTo (← get).files path)
    modify fun p => { p with files }
    return s!"Wrote {path}"

def runTask (env : Environment) (c : Common) (s : Settings) : Task → Act Result
  | .ports => return .said (Listing.ports (c.format.getD .text) [])
  | .units task => do
    let answer ← task.perform (openBus c s) c s
    return .said (answer.text (c.format.getD .text))
  | .watch indices interval duration out =>
    return .watching (← startWatch env c s indices interval duration out)
  | .settings task => return .said (← runSettings env c s task)
  | .exitCodes => return .said ExitCode.table

/-- How a run ends, or that it watches on. -/
inductive Ending where
  | ended (o : Outcome)
  | watching (w : Watch)
  | stopped (s : Stop)

def run (env : Environment) (words : List String) : Ending × Progress :=
  let start : Progress := { files := env.files }
  match Invocation.ofWords env.vars words with
  | .error stop => (.stopped stop, start)
  | .ok i =>
    let act : Act Result := do runTask env i.common (← effective env i.common) i.task
    match (act.run).run start with
    | (.ok (.said text), p) => (.ended (.success text), p)
    | (.ok (.watching w), p) => (.watching w, p)
    | (.error cs, p) => (.ended (.ofCauses cs), p)

/-- The files that a command line is about: the settings it loads, and the samples it adds to. -/
def filesNamed (home : Home) (v : Variables) (words : List String) : List String × Option String :=
  match Invocation.ofWords v words with
  | .error _ => ([], none)
  | .ok i =>
    let settings := (i.common.config <|> home.settingsFile.toOption).toList
    match i.task with
    | .watch _ _ _ out => (settings, out)
    | _ => (settings, none)

/-! ## What is printed -/

def versionText : String := "d3net-cli 0.1.0"

def usageText : String :=
  "Usage: d3net-cli [OPTIONS] <ports|scan|status|errors|control|watch|config|exit-codes>"

def Ending.code : Ending → UInt8
  | .ended o => o.code
  | .watching _ => ExitCode.success.value
  | .stopped .usage => ExitCode.invalidArguments.value
  | .stopped _ => ExitCode.success.value

/-- Lines of text, each with its end. -/
def printed (lines : List String) : String := String.join (lines.map (· ++ "\n"))

def Ending.output (p : Progress) : Ending → String
  | .ended (.success (some text)) => printed (p.samples ++ [text])
  | .stopped .version => printed [versionText]
  | .stopped .help => printed [usageText]
  | _ => printed p.samples

def Ending.complaint (p : Progress) : Ending → String
  | .ended (.failure _ text) => printed (p.notices ++ ["Error: " ++ text])
  | .stopped .usage => printed [usageText]
  | _ => printed p.notices

end ClimateBus.Console
