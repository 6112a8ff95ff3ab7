import ClimateBus.Block.Kind

/-!
The capability block of a unit and the features it states.
-/
namespace ClimateBus

structure CapabilityImage where
  image : Image BlockKind.capability.size
  deriving DecidableEq, Inhabited

/-- Setpoint limits in whole degrees. -/
structure Limits where
  lower : Int8
  upper : Int8
  deriving DecidableEq, Repr

structure Capability where
  fan : Bool
  cool : Bool
  heat : Bool
  auto : Bool
  dry : Bool
  fanDirection : Bool
  fanDirectionSteps : UInt8
  fanSpeed : Bool
  fanSpeedSteps : UInt8
  coolLimits : Limits
  heatLimits : Limits
  deriving DecidableEq, Repr

def CapabilityImage.decode (c : CapabilityImage) : Capability :=
  let steps (start : Nat) := (c.image.unsigned ⟨start, 3⟩).toUInt8
  let degrees (start : Nat) := (c.image.signed ⟨start, 8⟩).toInt8
  { fan := c.image.bit 0
    cool := c.image.bit 1
    heat := c.image.bit 2
    auto := c.image.bit 3
    dry := c.image.bit 4
    fanDirection := c.image.bit 11
    fanDirectionSteps := steps 8
    fanSpeed := c.image.bit 15
    fanSpeedSteps := steps 12
    coolLimits := ⟨degrees 24, degrees 16⟩
    heatLimits := ⟨degrees 40, degrees 32⟩ }

end ClimateBus
