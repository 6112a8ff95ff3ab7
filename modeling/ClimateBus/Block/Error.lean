import ClimateBus.Block.Kind

/-!
The error block of a unit: a two-character code, a sub-code, and which kinds of error are active.
-/
namespace ClimateBus

structure ErrorImage where
  image : Image BlockKind.error.size
  deriving DecidableEq, Inhabited

namespace ErrorImage

/-- One character of the code; every byte stands for the character of that number. -/
def codeChar (e : ErrorImage) (start : Nat) : Char :=
  Char.ofNat (e.image.unsigned ⟨start, 8⟩).toNat

def firstChar (e : ErrorImage) : Char := e.codeChar 0

def secondChar (e : ErrorImage) : Char := e.codeChar 8

def code (e : ErrorImage) : List Char := [e.firstChar, e.secondChar]

def subcode (e : ErrorImage) : UInt8 := (e.image.unsigned ⟨16, 6⟩).toUInt8

def error (e : ErrorImage) : Bool := e.image.bit 24

def alarm (e : ErrorImage) : Bool := e.image.bit 25

def warning (e : ErrorImage) : Bool := e.image.bit 26

def active (e : ErrorImage) : Bool := e.error || e.alarm || e.warning

/-- The number of the reporting unit within its group. -/
def unitNumber (e : ErrorImage) : UInt8 := (e.image.unsigned ⟨28, 4⟩).toUInt8

end ErrorImage

end ClimateBus
