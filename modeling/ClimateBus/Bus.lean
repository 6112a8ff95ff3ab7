import ClimateBus.Block.Kind
import ClimateBus.Frame.Reply

/-!
What a register bus offers, and how an operation on it can fail.

A read fills a buffer of fixed length and may leave anything in it when it fails; that a failed
read leaves the buffer alone is a law some buses keep (`Bus.KeepsBuffer`), not part of the
interface. Operations take time, and time goes by around them as well: how much is up to the bus and
differs from one operation to the next.
-/
namespace ClimateBus

inductive TransportError where
  | connectionFailed (detail : String)
  | portNotFound (name : String)
  | permissionDenied (detail : String)
  /-- The call was refused before anything was sent. -/
  | invalidArgument (what : String)
  /-- The request or its reply does not fit a frame. -/
  | invalidSize (bytes : Nat)
  /-- The deadline passed before the whole reply was there. -/
  | timeout (expected received : Nat)
  /-- The reply does not echo the request. -/
  | framing (part : String)
  | checkMismatch (calculated received : UInt16)
  | io (detail : String)
  deriving DecidableEq, Repr

namespace TransportError

def message : TransportError → String
  | .connectionFailed detail => s!"Connection failed: {detail}"
  | .portNotFound name => s!"Port not found: {name}"
  | .permissionDenied detail => s!"Permission denied: {detail}"
  | .invalidArgument what => s!"Invalid argument: {what}"
  | .invalidSize bytes => s!"Invalid size: {bytes} bytes"
  | .timeout expected received => s!"Timeout: received {received} of {expected} bytes"
  | .framing part => s!"Framing error: {part}"
  | .checkMismatch calculated received => checkMessage calculated received
  | .io detail => s!"I/O error: {detail}"

def ofFrame : FrameError → TransportError
  | .truncated expected actual => .timeout expected actual
  | .mismatch part => .framing part.name
  | .check calculated received => .checkMismatch calculated received

/-- The refusal of an operation on no registers at all. -/
def noRegisters : TransportError := .invalidArgument "register count is zero"

end TransportError

/-- What a read leaves behind: its result, the buffer, and the bus. -/
structure BusRead (β : Type) (n : Nat) where
  result : Except TransportError Unit
  buffer : Image n
  bus : β
  /-- The milliseconds from sending the request to the end of the operation. -/
  took : UInt64

structure BusWrite (β : Type) where
  result : Except TransportError Unit
  bus : β
  took : UInt64

/-- A bus of register tables. -/
class Bus (β : Type) where
  /-- Reads the `n` registers from an address on into a buffer. -/
  read {n : Nat} (bus : β) (table : Table) (address : UInt16) (buffer : Image n) : BusRead β n
  write (bus : β) (address : UInt16) (ws : Words) : BusWrite β
  /-- The milliseconds by which the next operation goes out later than it might, such as when who
  waits for the bus wakes up late. -/
  lag : β → UInt64 := fun _ => 0
  /-- The milliseconds that go by between the two halves of a command. -/
  idle : β → UInt64 := fun _ => 0

/-- A failed read leaves the buffer as it was. -/
def Bus.KeepsBuffer (β : Type) [Bus β] : Prop :=
  ∀ (b : β) (n : Nat) (t : Table) (a : UInt16) (buffer : Image n) (e : TransportError),
    (Bus.read b t a buffer).result = .error e → (Bus.read b t a buffer).buffer = buffer

/-- Every operation goes out as soon as it may. -/
def Bus.Punctual (β : Type) [Bus β] : Prop := ∀ b : β, Bus.lag b = 0

/-- No time goes by while an operation waits for its turn or is under way. -/
structure Bus.Instant (β : Type) [Bus β] : Prop where
  punctual : Bus.Punctual β
  read {n : Nat} (b : β) (t : Table) (a : UInt16) (buffer : Image n) :
    (Bus.read b t a buffer).took = 0
  write (b : β) (a : UInt16) (ws : Words) : (Bus.write b a ws).took = 0

end ClimateBus
