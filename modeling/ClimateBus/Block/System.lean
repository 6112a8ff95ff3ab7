import ClimateBus.Block.Kind

/-!
The adapter's own block: whether it is initialised, whether another master is on the bus, and
which slots are connected or failing.
-/
namespace ClimateBus

structure SystemImage where
  image : Image BlockKind.system.size
  deriving DecidableEq, Inhabited

namespace SystemImage

/-- First bit of the map of connected slots. -/
def connectedStart : Nat := 16

/-- First bit of the map of slots in error; it follows the map of connected slots. -/
def errorStart : Nat := 80

def initialized (s : SystemImage) : Bool := s.image.bit 0

def otherMaster (s : SystemImage) : Bool := s.image.bit 1

def connected (s : SystemImage) (slot : Nat) : Bool :=
  decide (slot < slotCount) && s.image.bit (connectedStart + slot)

def inError (s : SystemImage) (slot : Nat) : Bool :=
  decide (slot < slotCount) && s.image.bit (errorStart + slot)

/-- A slot is healthy if it is connected and not in error. -/
def healthy (s : SystemImage) (slot : Nat) : Bool := s.connected slot && !s.inError slot

def slotsWhere (p : Nat → Bool) : List Nat := (List.range slotCount).filter p

def healthySlots (s : SystemImage) : List Nat := slotsWhere s.healthy

end SystemImage

end ClimateBus
