import ClimateBus.Serial.Exchange
import ClimateBus.Settings.Spelled
import ClimateBus.Supervisor

/-!
The settings of the program, section by section.

One list of sections (`Settings.sections`) says how settings are read and how they are written, so
what is written reads back. Every setting has a default, and a document only replaces what it names.
How documents are read and written is left to a TOML library.
-/
namespace ClimateBus

structure LoggingSettings where
  /-- Which messages are let through. -/
  level : String := "info"
  json : Bool := false
  /-- Messages also go to a file, a new one each day. -/
  file : Bool := false
  /-- Where that file goes; by default to the user's data. -/
  directory : Option String := none
  /-- Lines of the journal are also printed. -/
  followRing : Bool := true
  deriving DecidableEq, Repr

structure Settings where
  serial : LineSettings := {}
  master : MasterSettings := {}
  gateway : GatewaySettings := {}
  supervisor : SupervisorSettings := {}
  logging : LoggingSettings := {}
  deriving DecidableEq, Repr

namespace Settings

/-- One setting: its key, and how it is written and read. -/
structure Entry where
  key : String
  write : Settings → Option Tree
  read : Dialect → Tree → Settings → Option Settings

/-- A setting of a type that can be written and read. -/
def entry {α : Type} [Spelled α] (key : String) (get : Settings → α)
    (set : Settings → α → Settings) : Entry where
  key := key
  write s := Spelled.write (get s)
  read d t s := (Spelled.read d t).map (set s)

structure Section where
  name : String
  entries : List Entry

def serialSection : Section where
  name := "serial"
  entries := [
    entry "port" (·.serial.port) fun s v => { s with serial.port := v },
    entry "baud_rate" (·.serial.baudRate) fun s v => { s with serial.baudRate := v },
    entry "data_bits" (·.serial.dataBits) fun s v => { s with serial.dataBits := v },
    entry "stop_bits" (·.serial.stopBits) fun s v => { s with serial.stopBits := v },
    entry "parity" (·.serial.parity) fun s v => { s with serial.parity := v }]

def masterSection : Section where
  name := "rtu"
  entries := [
    entry "slave_id" (·.master.slave) fun s v => { s with master.slave := v },
    entry "timeout_ms" (·.master.timeoutMs) fun s v => { s with master.timeoutMs := v },
    entry "tx_enable" (·.master.txEnable) fun s v => { s with master.txEnable := v },
    entry "rx_enable" (·.master.rxEnable) fun s v => { s with master.rxEnable := v }]

def gatewaySection : Section where
  name := "gateway"
  entries := [
    entry "poll_interval_s" (·.gateway.pollIntervalS) fun s v =>
      { s with gateway.pollIntervalS := v },
    entry "throttle_ms" (·.gateway.throttleMs) fun s v => { s with gateway.throttleMs := v },
    entry "cache_write_s" (·.gateway.cacheWriteS) fun s v => { s with gateway.cacheWriteS := v },
    entry "cache_error_s" (·.gateway.cacheErrorS) fun s v => { s with gateway.cacheErrorS := v }]

def supervisorSection : Section where
  name := "bridge"
  entries := [
    entry "status_interval_s" (·.supervisor.statusIntervalS) fun s v =>
      { s with supervisor.statusIntervalS := v },
    entry "poll_lock_ms" (·.supervisor.pollLockMs) fun s v =>
      { s with supervisor.pollLockMs := v },
    entry "status_lock_ms" (·.supervisor.statusLockMs) fun s v =>
      { s with supervisor.statusLockMs := v },
    entry "command_lock_ms" (·.supervisor.commandLockMs) fun s v =>
      { s with supervisor.commandLockMs := v },
    entry "query_lock_ms" (·.supervisor.queryLockMs) fun s v =>
      { s with supervisor.queryLockMs := v },
    entry "log_capacity" (·.supervisor.logCapacity) fun s v =>
      { s with supervisor.logCapacity := v }]

def loggingSection : Section where
  name := "logging"
  entries := [
    entry "level" (·.logging.level) fun s v => { s with logging.level := v },
    entry "json" (·.logging.json) fun s v => { s with logging.json := v },
    entry "file" (·.logging.file) fun s v => { s with logging.file := v },
    entry "directory" (·.logging.directory) fun s v => { s with logging.directory := v },
    entry "follow_ring" (·.logging.followRing) fun s v => { s with logging.followRing := v }]

def sections : List Section :=
  [serialSection, masterSection, gatewaySection, supervisorSection, loggingSection]

/-- What a tree gives for the parts of a record: by their names, or in their order. A moment is a
record that names none of them. -/
def parts (d : Dialect) (names : List String) : Tree → Option (List (String × Tree))
  | .table entries => some entries
  | .moment => some []
  | .list ts => if d.surplus || ts.length ≤ names.length then some (names.zip ts) else none
  | _ => none

/-- Replaces a setting by what is given for it, if anything is. -/
def Entry.apply (d : Dialect) (given : List (String × Tree)) (s : Settings) (e : Entry) :
    Option Settings :=
  match given.lookup e.key with
  | some t => e.read d t s
  | none => some s

/-- Replaces the settings of a section that are given. -/
def Section.apply (d : Dialect) (given : List (String × Tree)) (s : Settings) (x : Section) :
    Option Settings :=
  match given.lookup x.name with
  | some t => do
    let inner ← parts d (x.entries.map (·.key)) t
    x.entries.foldlM (Entry.apply d inner) s
  | none => some s

/-- The defaults, with what a tree gives in place of them. Keys that name no setting are let go. -/
def ofTree (d : Dialect) (t : Tree) : Option Settings := do
  let given ← parts d (sections.map (·.name)) t
  sections.foldlM (Section.apply d given) {}

def toSections (s : Settings) : List Toml.Section :=
  sections.map fun x =>
    (x.name, x.entries.filterMap fun e => (e.write s).map fun t => (e.key, t))

def ofToml? [Toml.Library] (text : String) : Option Settings :=
  (Toml.Library.read text).bind (ofTree .toml)

/-- The document for the settings; there is none if a number is too large for it. -/
def toToml? [Toml.Library] (s : Settings) : Option String := Toml.Library.write s.toSections

end Settings

end ClimateBus
