import ClimateBus.Block.Capability
import ClimateBus.Block.Error
import ClimateBus.Block.Holding
import ClimateBus.Block.System
import ClimateBus.Bus

/-!
A simulated adapter with its units.

Both register tables are total: a register that was never set is zero, and addresses wrap around.
Every operation is logged, failed ones included, and reads and writes that start at a given address
can be made to fail. None of them takes any time. A write of exactly one unit's holding block is
taken up in the unit's status block, the way a unit reports a command it has accepted.
-/
namespace ClimateBus

inductive Fault where
  | timeout | check | framing
  deriving DecidableEq, Repr

/-- The error of a failed operation whose reply would have `expected` bytes. -/
def Fault.error (f : Fault) (expected : Nat) : TransportError :=
  match f with
  | .timeout => .timeout expected 0
  | .check => .checkMismatch 0x0000 0xFFFF
  | .framing => .framing HeaderPart.slave.name

inductive BusOperation where
  | read (table : Table) (address : UInt16) (count : Nat)
  | write (address : UInt16) (ws : Words)
  deriving DecidableEq, Repr

structure Simulation where
  registers : Table → UInt16 → UInt16
  readFault : Table → UInt16 → Option Fault
  writeFault : UInt16 → Option Fault
  /-- The operations in the order they were issued. -/
  log : List BusOperation

namespace Simulation

/-- No units, and an adapter that is not initialised. -/
def empty : Simulation := ⟨fun _ _ => 0, fun _ _ => none, fun _ => none, []⟩

/-- The registers after the words of a list were stored from an address on. -/
def overlay (registers : UInt16 → UInt16) (address : UInt16) (ws : Words) (a : UInt16) : UInt16 :=
  match ws[(a - address).toNat]? with
  | some w => w
  | none => registers a

def store (s : Simulation) (table : Table) (address : UInt16) (ws : Words) : Simulation :=
  { s with registers := fun t =>
      if t = table then overlay (s.registers t) address ws else s.registers t }

def load (s : Simulation) (table : Table) (address : UInt16) (n : Nat) : Image n :=
  .ofFn n fun k => s.registers table (address + UInt16.ofNat k)

def setBlock (s : Simulation) (kind : BlockKind) (slot : UInt8) (m : Image kind.size) : Simulation :=
  s.store kind.table (kind.address slot) m.words

def block (s : Simulation) (kind : BlockKind) (slot : UInt8) : Image kind.size :=
  s.load kind.table (kind.address slot) kind.size

def setSystemBit (s : Simulation) (bit : Nat) (on : Bool) : Simulation :=
  s.setBlock .system 0 ((s.block .system 0).setBit bit on).image

def setInitialized (s : Simulation) (on : Bool) : Simulation := s.setSystemBit 0 on

def addUnit (s : Simulation) (slot : UInt8) (capability : CapabilityImage) (status : StatusImage) :
    Simulation :=
  ((s.setSystemBit (SystemImage.connectedStart + slot.toNat) true).setBlock .capability slot
    capability.image).setBlock .status slot status.image

def setUnitError (s : Simulation) (slot : UInt8) (on : Bool) : Simulation :=
  s.setSystemBit (SystemImage.errorStart + slot.toNat) on

def setRoom (s : Simulation) (slot : UInt8) (c : Celsius) : Simulation :=
  s.setBlock .status slot ((s.block .status slot).setTemperature Layout.room c).image

def failReads (s : Simulation) (table : Table) (address : UInt16) (f : Fault) : Simulation :=
  { s with readFault := fun t a => if t = table ∧ a = address then some f else s.readFault t a }

def failWrites (s : Simulation) (address : UInt16) (f : Fault) : Simulation :=
  { s with writeFault := fun a => if a = address then some f else s.writeFault a }

def clearFaults (s : Simulation) : Simulation :=
  { s with readFault := fun _ _ => none, writeFault := fun _ => none }

def clearLog (s : Simulation) : Simulation := { s with log := [] }

def writes (s : Simulation) : List (UInt16 × Words) :=
  s.log.filterMap fun
    | .write address ws => some (address, ws)
    | .read _ _ _ => none

/-- The status a unit reports once it has accepted a holding block. -/
def accepted (holding : Image BlockKind.holding.size) (status : Image BlockKind.status.size) :
    Image BlockKind.status.size :=
  let copy (target source : Field) (m : Image BlockKind.status.size) :=
    (m.setUnsigned target (holding.unsigned source)).image
  let m := (status.setBit Layout.power (holding.bit Layout.power)).image
  let m := copy Layout.fanDirection Layout.fanDirection m
  let m := copy Layout.fanSpeed Layout.fanSpeed m
  let m := copy Layout.mode Layout.mode m
  let m := copy Layout.currentMode Layout.mode m
  let m := (m.setTemperature Layout.setpoint (holding.temperature Layout.setpoint)).image
  if holding.unsigned Layout.filter = 0 then m else (m.setUnsigned Layout.filter 0).image

/-- The slot whose holding block a write covers exactly, if there is one. -/
def writtenSlot? (address : UInt16) (count : Nat) : Option UInt8 :=
  let base := BlockKind.holding.base.toNat
  let span := BlockKind.holding.size
  let slot := (address.toNat - base) / span
  if base ≤ address.toNat ∧ (address.toNat - base) % span = 0 ∧ count = span ∧ slot < slotCount then
    some (UInt8.ofNat slot)
  else none

/-- Takes a written holding block up in the status of its unit. -/
def accept (s : Simulation) (slot : UInt8) : Simulation :=
  s.setBlock .status slot (accepted (s.block .holding slot) (s.block .status slot))

def record (s : Simulation) (op : BusOperation) : Simulation := { s with log := s.log ++ [op] }

def readRegisters {n : Nat} (s : Simulation) (table : Table) (address : UInt16) (buffer : Image n) :
    BusRead Simulation n :=
  let s := s.record (.read table address n)
  if n = 0 then ⟨.error .noRegisters, buffer, s, 0⟩
  else
    match s.readFault table address with
    | some f => ⟨.error (f.error (Frame.readReplyLength n)), buffer, s, 0⟩
    | none => ⟨.ok (), s.load table address n, s, 0⟩

def writeRegisters (s : Simulation) (address : UInt16) (ws : Words) : BusWrite Simulation :=
  let s := s.record (.write address ws)
  if ws.length = 0 then ⟨.error .noRegisters, s, 0⟩
  else
    match s.writeFault address with
    | some f => ⟨.error (f.error Frame.writeReplyLength), s, 0⟩
    | none =>
      let s := s.store .holding address ws
      match writtenSlot? address ws.length with
      | some slot => ⟨.ok (), s.accept slot, 0⟩
      | none => ⟨.ok (), s, 0⟩

instance : Bus Simulation where
  read := readRegisters
  write := writeRegisters

namespace Demo

/-- All modes, five louvre positions, three fan speeds, cooling 18 to 32 and heating 16 to 30. -/
def capability : CapabilityImage :=
  let bits (m : Image BlockKind.capability.size) (i : Nat) := (m.setBit i true).image
  let fields (m : Image BlockKind.capability.size) (f : Field × UInt32) := (m.setUnsigned f.1 f.2).image
  ⟨[(⟨8, 3⟩, 5), (⟨12, 3⟩, 3), (⟨16, 8⟩, 32), (⟨24, 8⟩, 18), (⟨32, 8⟩, 30), (⟨40, 8⟩, 16)].foldl
    fields ([0, 1, 2, 3, 4, 11, 15].foldl bits default)⟩

/-- A unit in one mode with its setpoint and room temperature in tenths of a degree. -/
def status (on : Bool) (m : Mode) (setpoint room : Int32) : StatusImage :=
  let s := ((default : StatusImage).setPower on).setMode m
  let s := s.setSetpoint (Celsius.ofTenths setpoint)
  ⟨((s.image.setUnsigned Layout.currentMode (Labelled.code m)).image.setTemperature Layout.room
    (Celsius.ofTenths room)).image⟩

end Demo

def demo : Simulation :=
  ((((empty.setInitialized true).addUnit 0 Demo.capability (Demo.status true .cool 240 265)
    ).addUnit 1 Demo.capability (Demo.status false .heat 210 195)
    ).addUnit 5 Demo.capability (Demo.status true .auto 225 220)
    ).addUnit 17 Demo.capability (Demo.status true .fan 200 230)

end Simulation

end ClimateBus
