import ClimateBus.Block.Status
import ClimateBus.Text.Json

/-!
Commands to a unit, and how a named request becomes one.

A request names the command and may carry a number. Switching on and off takes a number on either
side of one half, an enumeration takes the code of a member, the fraction being cut off.
-/
namespace ClimateBus

inductive Command where
  | power (on : Bool)
  /-- Selects a mode and switches the unit on. -/
  | mode (m : Mode)
  | setpoint (c : Celsius)
  | fanSpeed (v : FanSpeed)
  | fanDirection (d : FanDirection)
  /-- Asks for the filter sign to be cleared. -/
  | filterReset
  deriving DecidableEq, Repr

/-- Why a request is no command. -/
inductive CommandError where
  | unknownCommand (name : String)
  | missingValue (command : String)
  | invalidValue (command : String) (value : Binary64)
  deriving DecidableEq, Repr

def CommandError.message : CommandError → String
  | .unknownCommand name => s!"unknown command '{name}'"
  | .missingValue command => s!"command '{command}' requires a value"
  | .invalidValue command value => s!"invalid value {value.plain} for command '{command}'"

namespace Command

def name : Command → String
  | .power _ => "power"
  | .mode _ => "mode"
  | .setpoint _ => "setpoint"
  | .fanSpeed _ => "fan_speed"
  | .fanDirection _ => "fan_dir"
  | .filterReset => "filter_reset"

/-- The whole part of a number as an enumeration code: none below zero or beyond 32 bits. -/
def wholeCode (negative : Bool) (x : Ratio) : Option UInt32 :=
  if negative && x.num != 0 then none
  else if (UInt32.size - 1) * x.den < x.num then none
  else some (UInt32.ofNat (x.num / x.den))

/-- The command of a kind that takes a number. -/
def ofNumber (kind : String) (value : Binary64) (negative : Bool) (x : Ratio) : Option Command :=
  let member {α : Type} [Labelled α] (make : α → Command) : Option Command :=
    ((wholeCode negative x).bind Labelled.ofCode?).map make
  match kind with
  | "power" => some (.power (!negative && decide (x.den < 2 * x.num)))
  | "setpoint" => some (.setpoint value.toBinary32)
  | "mode" => member Command.mode
  | "fan_speed" => member Command.fanSpeed
  | _ => member Command.fanDirection

/-- The kinds of command that take a number, by the names they are asked for. -/
def kindOf? : String → Option String
  | "power" => some "power"
  | "mode" => some "mode"
  | "setpoint" => some "setpoint"
  | "fan_speed" => some "fan_speed"
  | "fan_dir" | "fan_direction" => some "fan_dir"
  | _ => none

def ofRequest (name : String) (value : Option Binary64) : Except CommandError Command :=
  if name = "filter_reset" then .ok .filterReset
  else
    match kindOf? name, value with
    | none, _ => .error (.unknownCommand name)
    | some kind, none => .error (.missingValue kind)
    | some kind, some value =>
      match value.value with
      | .finite negative m e =>
        match ofNumber kind value negative (Ratio.ofScaled m e) with
        | some command => .ok command
        | none => .error (.invalidValue kind value)
      | _ => .error (.invalidValue kind value)

/-- The command as it is shown to a person; a setpoint has one decimal place. -/
def describe : Command → String
  | .power on => "power=" ++ (if on then "on" else "off")
  | .mode m => "mode=" ++ Labelled.name m
  | .setpoint c => "setpoint=" ++ c.tenthsText
  | .fanSpeed v => "fan_speed=" ++ Labelled.name v
  | .fanDirection d => "fan_dir=" ++ Labelled.name d
  | .filterReset => "filter_reset"

def toJson (c : Command) : Json :=
  let value := match c with
    | .power on => [("value", Json.bool on)]
    | .mode m => [("value", Json.str (Labelled.name m))]
    | .setpoint t => [("value", Json.real t)]
    | .fanSpeed v => [("value", Json.str (Labelled.name v))]
    | .fanDirection d => [("value", Json.str (Labelled.name d))]
    | .filterReset => []
  .obj (("cmd", .str c.name) :: value)

end Command

end ClimateBus
