import ClimateBus.Block.Kind
import ClimateBus.Field.Label

/-!
The status block of a unit: what it was asked to do, what it is doing, and what it measures.

`Layout` names the fields that status and holding blocks share.
-/
namespace ClimateBus

namespace Layout

def power : Nat := 0

def fanControl : Field := ⟨4, 4⟩

/-- The code that hands the fan over to remote control. -/
def fanControlRemote : UInt32 := 6

def fanDirection : Field := ⟨8, 3⟩

def fanSpeed : Field := ⟨12, 3⟩

def mode : Field := ⟨16, 4⟩

def filter : Field := ⟨20, 4⟩

/-- The code that asks for the filter sign to be cleared. -/
def filterReset : UInt32 := 15

def currentMode : Field := ⟨24, 4⟩

def setpoint : Field := ⟨32, 16⟩

def room : Field := ⟨64, 16⟩

end Layout

structure StatusImage where
  image : Image BlockKind.status.size
  deriving DecidableEq, Inhabited

namespace StatusImage

def power (s : StatusImage) : Bool := s.image.bit Layout.power

def heating (s : StatusImage) : Bool := s.image.bit 6

/-- The thermostat asks for heating or cooling. -/
def thermo (s : StatusImage) : Bool := s.image.bit 7

def defrost (s : StatusImage) : Bool := s.image.bit 29

def modeCode (s : StatusImage) : UInt32 := s.image.unsigned Layout.mode

def mode (s : StatusImage) : Option Mode := Labelled.ofCode? s.modeCode

def currentMode (s : StatusImage) : Option Mode :=
  Labelled.ofCode? (s.image.unsigned Layout.currentMode)

def fanSpeedCode (s : StatusImage) : UInt32 := s.image.unsigned Layout.fanSpeed

def fanSpeed (s : StatusImage) : Option FanSpeed := Labelled.ofCode? s.fanSpeedCode

def fanDirectionCode (s : StatusImage) : UInt32 := s.image.unsigned Layout.fanDirection

def fanDirection (s : StatusImage) : Option FanDirection := Labelled.ofCode? s.fanDirectionCode

def filterWarning (s : StatusImage) : Bool := s.image.unsigned Layout.filter != 0

def setpoint (s : StatusImage) : Celsius := s.image.temperature Layout.setpoint

def room (s : StatusImage) : Celsius := s.image.temperature Layout.room

def setPower (s : StatusImage) (on : Bool) : StatusImage := ⟨(s.image.setBit Layout.power on).image⟩

def setMode (s : StatusImage) (m : Mode) : StatusImage :=
  ⟨(s.image.setUnsigned Layout.mode (Labelled.code m)).image⟩

def setFanSpeed (s : StatusImage) (v : FanSpeed) : StatusImage :=
  ⟨(s.image.setUnsigned Layout.fanSpeed (Labelled.code v)).image⟩

def setFanDirection (s : StatusImage) (d : FanDirection) : StatusImage :=
  ⟨(s.image.setUnsigned Layout.fanDirection (Labelled.code d)).image⟩

def setSetpoint (s : StatusImage) (c : Celsius) : StatusImage :=
  ⟨(s.image.setTemperature Layout.setpoint c).image⟩

end StatusImage

end ClimateBus
