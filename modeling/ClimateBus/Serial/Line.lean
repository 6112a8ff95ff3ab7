import ClimateBus.Text.Basic

/-!
The serial line to the adapter: its framing and the control lines that switch its direction.
-/
namespace ClimateBus

inductive Parity where
  | none | odd | even
  deriving DecidableEq, Repr

/-- A modem control line that drives the transceiver's direction. -/
inductive ControlLine where
  | rts | dtr
  deriving DecidableEq, Repr

namespace Parity

def name : Parity → String
  | .none => "none"
  | .odd => "odd"
  | .even => "even"

/-- The letter that stands for the parity in a framing such as `8E1`. -/
def letter : Parity → String
  | .none => "N"
  | .odd => "O"
  | .even => "E"

/-- Reads a name or its first letter in either case; fails with the message for the user. -/
def ofText (text : String) : Except String Parity :=
  match Letter.lowerText text with
  | "none" | "n" => .ok .none
  | "odd" | "o" => .ok .odd
  | "even" | "e" => .ok .even
  | other => .error s!"unknown parity '{other}', expected n, e or o"

end Parity

namespace ControlLine

def name : ControlLine → String
  | .rts => "rts"
  | .dtr => "dtr"

/-- Reads a name in either case; fails with the message for the user. -/
def ofText (text : String) : Except String ControlLine :=
  match Letter.lowerText text with
  | "rts" => .ok .rts
  | "dtr" => .ok .dtr
  | other => .error s!"unknown direction line '{other}', expected rts or dtr"

end ControlLine

/-- The port and its framing; the bus runs at 8E1. -/
structure LineSettings where
  port : String := "/dev/ttyUSB0"
  baudRate : UInt32 := 9600
  dataBits : UInt8 := 8
  stopBits : UInt8 := 1
  parity : Parity := .even
  deriving DecidableEq, Repr

/-- A summary such as `/dev/ttyUSB0 @ 9600 baud (8E1)`. -/
def LineSettings.summary (s : LineSettings) : String :=
  s!"{s.port} @ {s.baudRate.toNat} baud " ++
    s!"({s.dataBits.toNat}{s.parity.letter}{s.stopBits.toNat})"

end ClimateBus
