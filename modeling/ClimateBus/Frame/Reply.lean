import ClimateBus.Frame.Request
import ClimateBus.Text.Basic

/-!
Checking and reading replies.

A reply is checked in a fixed order: its length, the header that echoes the request, and last its
check. Bytes beyond the expected length are ignored.
-/
namespace ClimateBus

/-- The parts of a header that a reply has to echo. -/
inductive HeaderPart where
  | slave | function | byteCount | addressOrQuantity
  deriving DecidableEq, Repr

def HeaderPart.name : HeaderPart → String
  | .slave => "slave id"
  | .function => "function code"
  | .byteCount => "byte count"
  | .addressOrQuantity => "address or quantity"

inductive FrameError where
  | truncated (expected actual : Nat)
  | mismatch (part : HeaderPart)
  | check (calculated received : UInt16)
  deriving DecidableEq, Repr

def checkMessage (calculated received : UInt16) : String :=
  s!"CRC mismatch: calculated {Hex.upper 4 calculated.toNat}, received {Hex.upper 4 received.toNat}"

def FrameError.message : FrameError → String
  | .truncated expected actual => s!"response truncated: expected {expected} bytes, got {actual}"
  | .mismatch part => s!"unexpected response: {part.name}"
  | .check calculated received => checkMessage calculated received

namespace Frame

/-- Words sent high byte first; a single byte left over counts as a zero word. -/
def registers : Bytes → List UInt16
  | high :: low :: rest => Checksum.wordOf high low :: registers rest
  | [_] => [0]
  | [] => []

def verify (frame : Bytes) : Except FrameError Unit :=
  match Checksum.split frame with
  | some (calculated, received) =>
    if calculated = received then .ok () else .error (.check calculated received)
  | none => .error (.truncated 2 frame.length)

/-- Fails with a mismatch of `part` unless the condition holds. -/
def require (p : Prop) [Decidable p] (part : HeaderPart) : Except FrameError Unit :=
  if p then .ok () else .error (.mismatch part)

/-- The registers in the reply to a read of `count` registers. -/
def readReply (data : Bytes) (slave : UInt8) (f : Function) (count : UInt16) :
    Except FrameError (List UInt16) :=
  let expected := readReplyLength count.toNat
  if data.length < expected then .error (.truncated expected data.length)
  else do
    let frame := data.take expected
    require (frame[0]? = some slave) .slave
    require (frame[1]? = some f.code) .function
    require (frame[2]? = some (UInt8.ofNat (2 * count.toNat))) .byteCount
    verify frame
    return registers ((frame.drop 3).take (2 * count.toNat))

def checkWriteReply (data request : Bytes) : Except FrameError Unit :=
  if data.length < writeReplyLength then .error (.truncated writeReplyLength data.length)
  else do
    let frame := data.take writeReplyLength
    require (6 ≤ request.length ∧ frame[0]? = request[0]?) .slave
    require (frame[1]? = some Function.writeMultiple.code) .function
    require ((frame.drop 2).take 4 = (request.drop 2).take 4) .addressOrQuantity
    verify frame

/-- A frame as it is shown in a trace. -/
def describe (data : Bytes) : String :=
  match data, data.drop (data.length - 2) with
  | slave :: code :: rest@(_ :: _ :: _), [low, high] =>
    let name := ((Function.ofCode? (code &&& 0x7F)).map Function.name).getD "Unknown"
    let exception := if code &&& 0x80 = 0 then "" else " exception"
    let check := Hex.upper 4 (Checksum.wordOf high low).toNat
    s!"RTU: Slave={Hex.upper 2 slave.toNat} Func={Hex.upper 2 code.toNat} ({name}{exception})" ++
      s!" Data={Hex.ofBytes (rest.take (rest.length - 2))} CRC={check}"
  | _, _ => s!"RTU: short frame {Hex.ofBytes data}"

end Frame

end ClimateBus
