import ClimateBus.Console.Options
import ClimateBus.Console.Task
import ClimateBus.Number.Numeral

/-!
The command line: common options, and one task with options of its own.

A common option may stand before or after the name of the task. Given at several places, the one
nearest to the end counts.
-/
namespace ClimateBus.Console

structure Invocation where
  common : Common
  task : Task
  deriving Repr

/-! ## Values -/

def readInt (low high : Int) (text : String) : Option Int :=
  (Numeral.int? text.toList).filter fun i => low ≤ i ∧ i ≤ high

def readUInt8 (text : String) : Option UInt8 := (readInt 0 255 text).map (UInt8.ofNat ·.toNat)

def readUInt32 (text : String) : Option UInt32 :=
  (readInt 0 0xFFFFFFFF text).map (UInt32.ofNat ·.toNat)

/-- Reads a number of 64 bits, which takes no minus sign. -/
def readUInt64 (text : String) : Option UInt64 :=
  if text.startsWith "-" then none
  else (readInt 0 0xFFFFFFFFFFFFFFFF text).map (UInt64.ofNat ·.toNat)

def readPath (text : String) : Option String := if text.isEmpty then none else some text

def readTemperature (text : String) : Option Celsius :=
  (Numeral.ofChars? text.toList).map Numeral.toBinary32

def readLabel {α : Type} [Labelled α] (text : String) : Option α :=
  (Labelled.ofName text).toOption

def readSwitch : String → Option Bool
  | "on" => some true
  | "off" => some false
  | _ => none

def readFormat : String → Option Listing.Format
  | "text" => some .text
  | "json" => some .json
  | _ => none

/-! ## Options -/

namespace Common

def options : List (Opt Common) := [
  .single "config" 'c' false readPath (·.config) fun s v => { s with config := v },
  .single "port" 'p' false some (·.port) fun s v => { s with port := v },
  .single "baud" 'b' false readUInt32 (·.baud) fun s v => { s with baud := v },
  .single "data-bits" none false readUInt8 (·.dataBits) fun s v => { s with dataBits := v },
  .single "parity" none false (fun t => (Parity.ofText t).toOption) (·.parity) fun s v =>
    { s with parity := v },
  .single "stop-bits" none false readUInt8 (·.stopBits) fun s v => { s with stopBits := v },
  .single "timeout" none false readUInt64 (·.timeout) fun s v => { s with timeout := v },
  .single "slave" none false readUInt8 (·.slave) fun s v => { s with slave := v },
  .single "tx-enable" none false (fun t => (ControlLine.ofText t).toOption) (·.txEnable) fun s v =>
    { s with txEnable := v },
  .single "format" 'f' false readFormat (·.format) fun s v => { s with format := v },
  .once "simulate" none (·.simulate) fun s => { s with simulate := true },
  .once "verbose" 'v' (·.verbose) fun s => { s with verbose := true },
  .once "quiet" 'q' (·.quiet) fun s => { s with quiet := true },
  .stopping "help" 'h' .help]

/-- Options of two places together; the later place counts. -/
def followedBy (earlier later : Common) : Common where
  config := later.config <|> earlier.config
  port := later.port <|> earlier.port
  baud := later.baud <|> earlier.baud
  dataBits := later.dataBits <|> earlier.dataBits
  parity := later.parity <|> earlier.parity
  stopBits := later.stopBits <|> earlier.stopBits
  timeout := later.timeout <|> earlier.timeout
  slave := later.slave <|> earlier.slave
  txEnable := later.txEnable <|> earlier.txEnable
  format := later.format <|> earlier.format
  simulate := later.simulate || earlier.simulate
  verbose := later.verbose || earlier.verbose
  quiet := later.quiet || earlier.quiet

/-- The settings with what the options say in place of what was loaded. -/
def override (c : Common) (s : Settings) : Settings :=
  { s with
    serial := {
      port := c.port.getD s.serial.port
      baudRate := c.baud.getD s.serial.baudRate
      dataBits := c.dataBits.getD s.serial.dataBits
      stopBits := c.stopBits.getD s.serial.stopBits
      parity := c.parity.getD s.serial.parity }
    master := { s.master with
      slave := c.slave.getD s.master.slave
      timeoutMs := c.timeout.getD s.master.timeoutMs
      txEnable := c.txEnable <|> s.master.txEnable } }

end Common

/-- The environment variables in place of options that are not given. -/
structure Variables where
  config : Option String := none
  port : Option String := none

namespace Variables

/-- Options with the variables in place of what is not given. -/
def under (v : Variables) (c : Common) : Common :=
  { c with config := c.config <|> v.config, port := c.port <|> v.port }

/-- A variable that stands in for an option at some place must have a value that the option
takes. -/
def accepts (v : Variables) (c : Common) : Bool :=
  c.config.isSome || v.config.all fun text => (readPath text).isSome

end Variables

/-- What has been read at one place of the command line. -/
structure Reading (σ : Type) where
  common : Common := {}
  own : σ

variable {σ : Type}

/-- The options at a place: those of the task, and the common ones. -/
def optionsWith (own : List (Opt σ)) : List (Opt (Reading σ)) :=
  own.map (Opt.on (·.own) fun r o => { r with own := o })
    ++ Common.options.map (Opt.on (·.common) fun r c => { r with common := c })

/-- Reads the options of a task up to the end of the command line. -/
def readLast (v : Variables) (own : List (Opt σ)) (start : σ)
    (finish : σ → Option Task) (words : List String) : Except Stop Invocation := do
  match ← readLevel (optionsWith own) words { own := start } with
  | (r, none) =>
    match finish r.own, v.accepts r.common with
    | some task, true => .ok ⟨r.common, task⟩
    | _, _ => .error .usage
  | (_, some _) => .error .usage

/-! ## Tasks -/

structure Selection where
  indices : List UInt8 := []
  all : Bool := false
  clear : Bool := false

namespace Selection

def options : List (Opt Selection) := [
  .repeated "unit" 'u' readUInt8 fun s v => { s with indices := s.indices ++ [v] },
  .once "all" 'a' (·.all) fun s => { s with all := true }]

def clearOption : Opt Selection := .once "show-clear" none (·.clear) fun s => { s with clear := true }

/-- Either some units are named, or all are asked for. -/
def target (s : Selection) : Option Target :=
  match s.indices, s.all with
  | [], true => some .all
  | [], false => none
  | indices, false => some (.units indices)
  | _, true => none

end Selection

structure Orders where
  index : Option UInt8 := none
  power : Option Bool := none
  mode : Option Mode := none
  setpoint : Option Celsius := none
  fanSpeed : Option FanSpeed := none
  fanDirection : Option FanDirection := none
  filterReset : Bool := false

namespace Orders

def options : List (Opt Orders) := [
  .single "unit" 'u' false readUInt8 (·.index) fun s v => { s with index := v },
  .single "power" none false readSwitch (·.power) fun s v => { s with power := v },
  .single "mode" none false readLabel (·.mode) fun s v => { s with mode := v },
  .single "setpoint" none true readTemperature (·.setpoint) fun s v => { s with setpoint := v },
  .single "fan-speed" none false readLabel (·.fanSpeed) fun s v => { s with fanSpeed := v },
  .single "fan-direction" none false readLabel (·.fanDirection) fun s v =>
    { s with fanDirection := v },
  .once "filter-reset" none (·.filterReset) fun s => { s with filterReset := true }]

/-- The commands in the order they are sent. A mode switches the unit on, so the power command
comes after it. -/
def commands (o : Orders) : List Command :=
  (o.mode.map .mode).toList ++ (o.power.map .power).toList ++ (o.setpoint.map .setpoint).toList
    ++ (o.fanSpeed.map .fanSpeed).toList ++ (o.fanDirection.map .fanDirection).toList
    ++ (if o.filterReset then [.filterReset] else [])

def task (o : Orders) : Option Task :=
  if o.commands.isEmpty then none else o.index.map fun index => .units (.control index o.commands)

end Orders

structure Watching where
  indices : List UInt8 := []
  interval : Option UInt64 := none
  duration : Option Int := none
  out : Option String := none

namespace Watching

def options : List (Opt Watching) := [
  .repeated "unit" 'u' readUInt8 fun s v => { s with indices := s.indices ++ [v] },
  .single "interval" 'i' false readUInt64 (·.interval) fun s v => { s with interval := v },
  .single "duration" 'd' true (readInt Int64.minValue.toInt Int64.maxValue.toInt) (·.duration)
    fun s v => { s with duration := v },
  .single "out" 'o' false readPath (·.out) fun s v => { s with out := v }]

def task (w : Watching) : Option Task :=
  if w.indices.isEmpty then none
  else some (.watch w.indices (w.interval.getD 10) (w.duration.getD 0) w.out)

end Watching

/-- Readers of command lines by the words that choose them. -/
abbrev Menu := List (String × (List String → Except Stop Invocation))

/-- Reads the options of one place and the word that chooses how to go on. The word `help` asks
about one of the topics instead. -/
def readMenu (v : Variables) (own : List (Opt Unit)) (menu : Menu) (topics : List (List String))
    (words : List String) : Except Stop Invocation := do
  match ← readLevel (optionsWith own) words { own := () } with
  | (_, none) => .error .usage
  | (r, some (name, rest)) =>
    match menu.lookup name with
    | none => .error (if name = "help" ∧ rest ∈ topics then .help else .usage)
    | some read =>
      let i ← read rest
      if v.accepts r.common then .ok { i with common := r.common.followedBy i.common }
      else .error .usage

def settingsMenu (v : Variables) : Menu := [
  ("show", readLast v [] () fun _ => some (.settings .show)),
  ("init", readLast v [] () fun _ => some (.settings .init)),
  ("path", readLast v [] () fun _ => some (.settings .path))]

/-- What one can ask about: the whole menu, or one of its entries. -/
def topicsOf (menu : Menu) : List (List String) := [] :: menu.map fun (name, _) => [name]

def mainMenu (v : Variables) : Menu := [
  ("ports", readLast v [] () fun _ => some .ports),
  ("scan", readLast v [] () fun _ => some (.units .scan)),
  ("status", readLast v Selection.options {} fun s =>
    s.target.map fun t => .units (.status t)),
  ("errors", readLast v (Selection.options ++ [Selection.clearOption]) {} fun s =>
    s.target.map fun t => .units (.errors t s.clear)),
  ("control", readLast v Orders.options {} Orders.task),
  ("watch", readLast v Watching.options {} Watching.task),
  ("config", readMenu v [] (settingsMenu v) (topicsOf (settingsMenu v))),
  ("exit-codes", readLast v [] () fun _ => some .exitCodes)]

def Invocation.ofWords (v : Variables) (words : List String) : Except Stop Invocation := do
  let topics := topicsOf (mainMenu v) ++ (topicsOf (settingsMenu v)).map ("config" :: ·)
  let i ← readMenu v [.stopping "version" 'V' .version] (mainMenu v) topics words
  .ok { i with common := v.under i.common }

end ClimateBus.Console
