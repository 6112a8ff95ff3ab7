import ClimateBus.Block.Capability
import ClimateBus.Block.Error
import ClimateBus.Block.Holding
import ClimateBus.Text.Json

/-!
The local record of one unit slot, and what is reported about a unit: its state and its error, and
both as JSON.

The slot number is the bus address and never changes.
-/
namespace ClimateBus

structure Slot where
  index : UInt8
  id : String
  present : Bool
  lastErrorRead : Option UInt64
  capability : CapabilityImage
  status : StatusImage
  holding : HoldingCache
  error : ErrorImage
  deriving DecidableEq

namespace Slot

/-- Units are shown as group and number, sixteen to a group, such as `1-05`. -/
def displayId (index : UInt8) : String :=
  toString (index.toNat / 16 + 1) ++ "-" ++ Blank.zeroPadded 2 (index.toNat % 16)

def empty (index : UInt8) : Slot :=
  ⟨index, displayId index, false, none, default, default, default, default⟩

instance : Inhabited Slot := ⟨empty 0⟩

/-- The slot as if nothing had been found in it. -/
def reset (u : Slot) : Slot := empty u.index

end Slot

structure UnitReport where
  index : UInt8
  id : String
  present : Bool
  power : Bool
  /-- None if the code stands for no mode. -/
  mode : Option Mode
  modeCode : UInt32
  currentMode : Option Mode
  setpoint : Celsius
  room : Celsius
  fanSpeed : Option FanSpeed
  fanDirection : Option FanDirection
  filterWarning : Bool
  heating : Bool
  thermo : Bool
  defrost : Bool
  /-- An edit of the holding block has not been written. -/
  pending : Bool
  capability : Capability
  deriving DecidableEq

structure ErrorReport where
  index : UInt8
  id : String
  error : Bool
  alarm : Bool
  warning : Bool
  /-- The code without the blanks and zero bytes around it. -/
  code : String
  subcode : UInt8
  unitNumber : UInt8
  deriving DecidableEq, Repr

namespace UnitReport

def ofSlot (u : Slot) : UnitReport where
  index := u.index
  id := u.id
  present := u.present
  power := u.status.power
  mode := u.status.mode
  modeCode := u.status.modeCode
  currentMode := u.status.currentMode
  setpoint := u.status.setpoint
  room := u.status.room
  fanSpeed := u.status.fanSpeed
  fanDirection := u.status.fanDirection
  filterWarning := u.status.filterWarning
  heating := u.status.heating
  thermo := u.status.thermo
  defrost := u.status.defrost
  pending := u.holding.dirty
  capability := u.capability.decode

end UnitReport

def Limits.toJson (l : Limits) : Json := .arr [.int l.lower.toInt, .int l.upper.toInt]

def Capability.toJson (c : Capability) : Json :=
  .obj [
    ("fan", .bool c.fan), ("cool", .bool c.cool), ("heat", .bool c.heat), ("auto", .bool c.auto),
    ("dry", .bool c.dry), ("fan_direction", .bool c.fanDirection),
    ("fan_direction_steps", .ofNat c.fanDirectionSteps.toNat), ("fan_speed", .bool c.fanSpeed),
    ("fan_speed_steps", .ofNat c.fanSpeedSteps.toNat), ("cool_setpoint", c.coolLimits.toJson),
    ("heat_setpoint", c.heatLimits.toJson)]

def UnitReport.toJson (r : UnitReport) : Json :=
  let named {α : Type} [Labelled α] (v : Option α) : Json := .optional (.str ∘ Labelled.name) v
  .obj [
    ("index", .ofNat r.index.toNat), ("id", .str r.id), ("present", .bool r.present),
    ("power", .bool r.power), ("mode", named r.mode), ("mode_code", .ofNat r.modeCode.toNat),
    ("current_mode", named r.currentMode), ("setpoint", .real r.setpoint),
    ("room_temperature", .real r.room), ("fan_speed", named r.fanSpeed),
    ("fan_direction", named r.fanDirection), ("filter_warning", .bool r.filterWarning),
    ("heat", .bool r.heating), ("thermo", .bool r.thermo), ("defrost", .bool r.defrost),
    ("holding_dirty", .bool r.pending), ("capability", r.capability.toJson)]

namespace ErrorReport

def ofSlot (u : Slot) : ErrorReport where
  index := u.index
  id := u.id
  error := u.error.error
  alarm := u.error.alarm
  warning := u.error.warning
  code := String.ofList (Blank.stripBoth (fun c => c == '\x00' || c == ' ') u.error.code)
  subcode := u.error.subcode
  unitNumber := u.error.unitNumber

def active (r : ErrorReport) : Bool := r.error || r.alarm || r.warning

def toJson (r : ErrorReport) : Json :=
  .obj [
    ("index", .ofNat r.index.toNat), ("id", .str r.id), ("error", .bool r.error),
    ("alarm", .bool r.alarm), ("warning", .bool r.warning), ("code", .str r.code),
    ("sub_code", .ofNat r.subcode.toNat), ("unit_number", .ofNat r.unitNumber.toNat)]

end ErrorReport

end ClimateBus
