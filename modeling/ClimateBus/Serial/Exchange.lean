import ClimateBus.Bus
import ClimateBus.Serial.Line

/-!
A master on a half-duplex serial line.

One call is one exchange: what still waits to be received is dropped, the control lines are
raised, the request is sent and leaves the wire, the lines are lowered again whatever happened,
and the reply is collected. One deadline, taken at the start, covers all of it. Nothing is retried.
-/
namespace ClimateBus

/-- Why an operation on the line failed; running out of time is told apart. -/
structure LineFailure where
  timedOut : Bool
  detail : String
  deriving DecidableEq, Repr

/-- Byte-level access to a half-duplex line with a deadline that is set once per exchange. -/
class Link (l : Type) where
  /-- Sets the deadline of a new exchange so many milliseconds ahead. -/
  start (link : l) (timeoutMs : UInt64) : l
  /-- Whether the deadline has passed. -/
  expired (link : l) : Bool × l
  discard (link : l) : Except LineFailure Unit × l
  setLine (link : l) (line : ControlLine) (level : Bool) : Except LineFailure Unit × l
  transmit (link : l) (frame : Bytes) : Except LineFailure Unit × l
  /-- Waits until the frame has left the wire. -/
  drain (link : l) : Except LineFailure Unit × l
  /-- Receives at most so many bytes; none at all if nothing arrived in time. -/
  receive (link : l) (asked : Nat) : Except LineFailure Bytes × l
  /-- The milliseconds that have gone by on the line so far. -/
  elapsed : l → UInt64 := fun _ => 0

structure MasterSettings where
  slave : UInt8 := 1
  timeoutMs : UInt64 := 1200
  /-- Raised while sending, for a driver's enable input. -/
  txEnable : Option ControlLine := none
  /-- Raised while sending, for a receiver's disable input. -/
  rxEnable : Option ControlLine := none
  deriving DecidableEq, Repr

structure Master (l : Type) where
  link : l
  settings : MasterSettings

namespace Exchange

variable {l : Type} [Link l]

/-- Shortest reply that counts as one. -/
def minReply : Nat := 5

def directionLines (s : MasterSettings) : List ControlLine :=
  s.txEnable.toList ++ s.rxEnable.toList

/-- Sets lines to one level in order, up to the first failure. -/
def setLines (link : l) (level : Bool) : List ControlLine → Except LineFailure Unit × l
  | [] => (.ok (), link)
  | line :: rest =>
    match Link.setLine link line level with
    | (.ok (), link) => setLines link level rest
    | (.error e, link) => (.error e, link)

/-- Raises the lines, sends the request and waits until it has left the wire. -/
def send (link : l) (lines : List ControlLine) (request : Bytes) : Except LineFailure Unit × l :=
  match setLines link true lines with
  | (.error e, link) => (.error e, link)
  | (.ok (), link) =>
    match Link.transmit link request with
    | (.error e, link) => (.error e, link)
    | (.ok (), link) => Link.drain link

/-- Collects bytes until there are `expected`, the deadline has passed, or nothing more comes. -/
def collect (link : l) (expected : Nat) (got : Bytes) : Except LineFailure Bytes × l :=
  if _missing : got.length < expected then
    let (expired, link) := Link.expired link
    if expired then (.ok got, link)
    else
      match Link.receive link (expected - got.length) with
      | (.error e, link) => (.error e, link)
      | (.ok chunk, link) =>
        match chunk.take (expected - got.length) with
        | [] => (.ok got, link)
        | byte :: more => collect link expected (got ++ byte :: more)
  else (.ok got, link)
termination_by expected - got.length
decreasing_by simp only [List.length_append, List.length_cons]; omega

/-- Sends a request and collects the bytes of its reply. -/
def transceive (link : l) (s : MasterSettings) (request : Bytes) (expected : Nat) :
    Except TransportError Bytes × l :=
  let link := Link.start link s.timeoutMs
  let lines := directionLines s
  match Link.discard link with
  | (.error e, link) => (.error (.io e.detail), link)
  | (.ok (), link) =>
    let (sent, link) := send link lines request
    let (restored, link) := setLines link false lines
    match sent, restored with
    | .error e, _ => (.error (if e.timedOut then .timeout expected 0 else .io e.detail), link)
    | .ok (), .error e => (.error (.io e.detail), link)
    | .ok (), .ok () =>
      let (expired, link) := Link.expired link
      if expired then (.error (.timeout expected 0), link)
      else
        match collect link expected [] with
        | (.error e, link) => (.error (.io e.detail), link)
        | (.ok reply, link) =>
          if reply.length < minReply then (.error (.timeout expected reply.length), link)
          else (.ok reply, link)

end Exchange

namespace Master

variable {l : Type} [Link l]

/-- Takes over an open line and leaves it in receive direction. -/
def ofLink (link : l) (s : MasterSettings) : Except TransportError (Master l) × l :=
  match Exchange.setLines link false (Exchange.directionLines s) with
  | (.ok (), link) => (.ok ⟨link, s⟩, link)
  | (.error e, link) => (.error (.io e.detail), link)

def readFunction : Table → Function
  | .holding => .readHolding
  | .input => .readInput

/-- The registers of a read, after one exchange. -/
def readWords (m : Master l) (table : Table) (address : UInt16) (count : Nat) :
    Except TransportError Words × Master l :=
  let expected := Frame.readReplyLength count
  if count = 0 then (.error .noRegisters, m)
  else if UInt16.size ≤ count then (.error (.invalidSize count), m)
  else if Frame.maxReadReply < expected then (.error (.invalidSize expected), m)
  else
    let f := readFunction table
    let request := Frame.readRequest m.settings.slave f address (UInt16.ofNat count)
    match Exchange.transceive m.link m.settings request expected with
    | (.error e, link) => (.error e, { m with link })
    | (.ok reply, link) =>
      ((Frame.readReply reply m.settings.slave f (UInt16.ofNat count)).mapError .ofFrame,
        { m with link })

def writeWords (m : Master l) (address : UInt16) (ws : Words) :
    Except TransportError Unit × Master l :=
  let length := Frame.writeRequestLength ws.length
  if ws.length = 0 then (.error .noRegisters, m)
  else if Frame.maxWriteRequest < length then (.error (.invalidSize length), m)
  else
    let request := Frame.writeRequest m.settings.slave address ws
    match Exchange.transceive m.link m.settings request Frame.writeReplyLength with
    | (.error e, link) => (.error e, { m with link })
    | (.ok reply, link) =>
      ((Frame.checkWriteReply reply request).mapError .ofFrame, { m with link })

/-- The milliseconds from one state of the line to a later one. -/
def took (m m' : Master l) : UInt64 := Link.elapsed m'.link - Link.elapsed m.link

instance : Bus (Master l) where
  read {n} m table address buffer :=
    match m.readWords table address n with
    | (.error e, m') => ⟨.error e, buffer, m', m.took m'⟩
    | (.ok ws, m') => ⟨.ok (), (Image.ofWords? n ws).getD buffer, m', m.took m'⟩
  write m address ws :=
    let (result, m') := m.writeWords address ws
    ⟨result, m', m.took m'⟩

end Master

end ClimateBus
