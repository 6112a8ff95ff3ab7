import ClimateBus.Register.Image

/-!
The register map: five kinds of block, each with its table, base address and size. Blocks of one
kind follow each other, one per slot.
-/
namespace ClimateBus

/-- The two register tables of the bus: inputs are read-only. -/
inductive Table where
  | input | holding
  deriving DecidableEq, Repr

def slotCount : Nat := 64

inductive BlockKind where
  /-- Adapter flags and the maps of connected and failing slots. -/
  | system
  /-- What a unit supports. -/
  | capability
  /-- What a unit is doing. -/
  | status
  /-- What a unit was asked to do. -/
  | holding
  /-- The error a unit reports. -/
  | error
  deriving DecidableEq, Repr

namespace BlockKind

def table : BlockKind → Table
  | .holding => .holding
  | .system | .capability | .status | .error => .input

def base : BlockKind → UInt16
  | .system => 0
  | .capability => 1000
  | .status => 2000
  | .holding => 2000
  | .error => 3600

@[reducible]
def size : BlockKind → Nat
  | .system => 9
  | .capability => 3
  | .status => 6
  | .holding => 3
  | .error => 2

/-- Address of the first word of a slot's block. -/
def address (k : BlockKind) (slot : UInt8) : UInt16 :=
  k.base + slot.toUInt16 * UInt16.ofNat k.size

end BlockKind

end ClimateBus
