import ClimateBus.Block.Status

/-!
The local image of a holding block.

Beside the words it keeps whether they hold an edit that has not been written, and when the block
was last read and written, in milliseconds of the gateway clock. A setter marks the image as
edited if it changes a stored bit; only `markWritten` takes the mark away.
-/
namespace ClimateBus

structure HoldingCache where
  image : Image BlockKind.holding.size
  dirty : Bool
  lastRead : Option UInt64
  lastWrite : Option UInt64
  deriving DecidableEq, Inhabited

/-- Whether `stamp` lies less than `secs` seconds before `now`; a later stamp does. -/
def stampWithin (stamp : Option UInt64) (now : UInt64) (secs : UInt32) : Bool :=
  stamp.any fun t => decide (now.toNat - t.toNat < secs.toNat * 1000)

namespace HoldingCache

/-- Words that were never read or written. -/
def ofImage (m : Image BlockKind.holding.size) : HoldingCache := ⟨m, false, none, none⟩

def power (h : HoldingCache) : Bool := h.image.bit Layout.power

def mode (h : HoldingCache) : Option Mode := Labelled.ofCode? (h.image.unsigned Layout.mode)

def setpoint (h : HoldingCache) : Celsius := h.image.temperature Layout.setpoint

def fanSpeed (h : HoldingCache) : Option FanSpeed :=
  Labelled.ofCode? (h.image.unsigned Layout.fanSpeed)

def fanDirection (h : HoldingCache) : Option FanDirection :=
  Labelled.ofCode? (h.image.unsigned Layout.fanDirection)

/-- The fan is under remote control. -/
def fanControl (h : HoldingCache) : Bool :=
  h.image.unsigned Layout.fanControl == Layout.fanControlRemote

/-- The filter sign is asked to be cleared. -/
def filterReset (h : HoldingCache) : Bool := h.image.unsigned Layout.filter != 0

def edit (h : HoldingCache) (e : Edit BlockKind.holding.size) : HoldingCache :=
  { h with image := e.image, dirty := h.dirty || e.changed }

def setPower (h : HoldingCache) (on : Bool) : HoldingCache :=
  h.edit (h.image.setBit Layout.power on)

def setCode (h : HoldingCache) (f : Field) (code : UInt32) : HoldingCache :=
  h.edit (h.image.setUnsigned f code)

def setFanControl (h : HoldingCache) (on : Bool) : HoldingCache :=
  h.setCode Layout.fanControl (if on then Layout.fanControlRemote else 0)

def setMode (h : HoldingCache) (m : Mode) : HoldingCache :=
  h.setCode Layout.mode (Labelled.code m)

def setSetpoint (h : HoldingCache) (c : Celsius) : HoldingCache :=
  h.edit (h.image.setTemperature Layout.setpoint c)

/-- A fan speed takes effect under remote control, so that is turned on as well. -/
def setFanSpeedCode (h : HoldingCache) (code : UInt32) : HoldingCache :=
  (h.setCode Layout.fanSpeed code).setFanControl true

def setFanSpeed (h : HoldingCache) (v : FanSpeed) : HoldingCache :=
  h.setFanSpeedCode (Labelled.code v)

/-- A louvre position takes effect under remote control, so that is turned on as well. -/
def setFanDirectionCode (h : HoldingCache) (code : UInt32) : HoldingCache :=
  (h.setCode Layout.fanDirection code).setFanControl true

def setFanDirection (h : HoldingCache) (d : FanDirection) : HoldingCache :=
  h.setFanDirectionCode (Labelled.code d)

def setFilterReset (h : HoldingCache) (on : Bool) : HoldingCache :=
  h.setCode Layout.filter (if on then Layout.filterReset else 0)

def markRead (h : HoldingCache) (now : UInt64) : HoldingCache := { h with lastRead := some now }

def markWritten (h : HoldingCache) (now : UInt64) : HoldingCache :=
  { h with lastWrite := some now, dirty := false }

def readWithin (h : HoldingCache) (now : UInt64) (secs : UInt32) : Bool :=
  stampWithin h.lastRead now secs

def writeWithin (h : HoldingCache) (now : UInt64) (secs : UInt32) : Bool :=
  stampWithin h.lastWrite now secs

/-- Takes every field a command can set over from the status image. -/
def syncFrom (h : HoldingCache) (s : StatusImage) : HoldingCache :=
  ((((h.setPower s.power).setFanDirectionCode s.fanDirectionCode).setFanSpeedCode s.fanSpeedCode
    ).setCode Layout.mode s.modeCode).setSetpoint s.setpoint

end HoldingCache

end ClimateBus
