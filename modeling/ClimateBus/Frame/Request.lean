/-!
The three requests of the register bus, as frames, and the check that closes every frame.

The check is a 16-bit cyclic redundancy check. Its register starts with all bits set, takes each
byte low bit first, and shifts towards its low end with the reversed polynomial `A001`. On the wire
its low byte comes first, while every other word of a frame is sent high byte first.
-/
namespace ClimateBus

abbrev Bytes := List UInt8

namespace Checksum

def polynomial : UInt16 := 0xA001

def shift (crc : UInt16) : UInt16 :=
  if crc &&& 1 = 1 then (crc >>> 1) ^^^ polynomial else crc >>> 1

/-- Takes one byte into the register. -/
def step (crc : UInt16) (byte : UInt8) : UInt16 :=
  (List.range 8).foldl (fun c _ => shift c) (crc ^^^ byte.toUInt16)

def crc (bytes : Bytes) : UInt16 := bytes.foldl step 0xFFFF

def lowByteFirst (w : UInt16) : Bytes := [w.toUInt8, (w >>> 8).toUInt8]

def highByteFirst (w : UInt16) : Bytes := [(w >>> 8).toUInt8, w.toUInt8]

def wordOf (high low : UInt8) : UInt16 := (high.toUInt16 <<< 8) ||| low.toUInt16

/-- The frame whose body is `body`. -/
def close (body : Bytes) : Bytes := body ++ lowByteFirst (crc body)

/-- The check of a frame's body, and the check that the frame carries; none if the frame is too
short to carry one. -/
def split (frame : Bytes) : Option (UInt16 × UInt16) :=
  let body := frame.take (frame.length - 2)
  match frame.drop (frame.length - 2) with
  | [low, high] => some (crc body, wordOf high low)
  | _ => none

end Checksum

inductive Function where
  | readHolding | readInput | writeMultiple
  deriving DecidableEq, Repr

namespace Function

def code : Function → UInt8
  | .readHolding => 0x03
  | .readInput => 0x04
  | .writeMultiple => 0x10

def ofCode? (code : UInt8) : Option Function :=
  [readHolding, readInput, writeMultiple].find? (·.code == code)

def name : Function → String
  | .readHolding => "Read Holding Registers"
  | .readInput => "Read Input Registers"
  | .writeMultiple => "Write Multiple Registers"

end Function

namespace Frame

/-- Longest read reply that is accepted. -/
def maxReadReply : Nat := 260

/-- Longest write request that is sent. -/
def maxWriteRequest : Nat := 256

def writeReplyLength : Nat := 8

def readReplyLength (count : Nat) : Nat := 5 + 2 * count

def writeRequestLength (count : Nat) : Nat := 9 + 2 * count

def readRequest (slave : UInt8) (f : Function) (start quantity : UInt16) : Bytes :=
  Checksum.close
    ([slave, f.code] ++ Checksum.highByteFirst start ++ Checksum.highByteFirst quantity)

/-- A write request. The quantity is sent in 16 bits and the byte count in 8, so a list that is
too long for a frame is announced modulo these. -/
def writeRequest (slave : UInt8) (start : UInt16) (ws : List UInt16) : Bytes :=
  Checksum.close
    ([slave, Function.writeMultiple.code] ++ Checksum.highByteFirst start
      ++ Checksum.highByteFirst (UInt16.ofNat ws.length) ++ [UInt8.ofNat (2 * ws.length)]
      ++ ws.flatMap Checksum.highByteFirst)

end Frame

end ClimateBus
