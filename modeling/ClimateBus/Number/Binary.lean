/-!
Binary floating-point numbers, worked out exactly.

A number is kept by its encoding. `decode` gives the exact value of an encoding as a significand
times a power of two; `nearest` gives the encoding that lies nearest to a quotient of natural
numbers, a tie going to the even significand. The arithmetic of the two widths in use is built
from these, so each operation is correctly rounded by construction.
-/
namespace ClimateBus

/-- Where a quotient goes that lies halfway between two integers. -/
inductive Tie where
  | even | up
  deriving DecidableEq, Repr

/-- `num / den` rounded to the nearest natural number. -/
def roundDiv (tie : Tie) (num den : Nat) : Nat :=
  let q := num / den
  let r := num % den
  if 2 * r < den then q
  else if den < 2 * r then q + 1
  else match tie with
    | .up => q + 1
    | .even => q + q % 2

/-- Number of decimal digits of a natural number, zero having one. -/
def decimalLength (n : Nat) : Nat := (Nat.toDigits 10 n).length

/-- A binary interchange format: significand digits, exponent bits, and the exponent of the
smallest step. -/
structure BinaryFormat where
  digits : Nat
  exponentBits : Nat
  lowest : Int

namespace BinaryFormat

def single : BinaryFormat := ⟨24, 8, -149⟩

def double : BinaryFormat := ⟨53, 11, -1074⟩

def infinity (f : BinaryFormat) : Nat := ((1 <<< f.exponentBits) - 1) <<< (f.digits - 1)

/-- Weight of the sign bit. -/
def signWeight (f : BinaryFormat) : Nat := 1 <<< (f.exponentBits + f.digits - 1)

end BinaryFormat

inductive BinaryValue where
  | nan
  | infinite (negative : Bool)
  /-- The significand times two to the exponent. -/
  | finite (negative : Bool) (significand : Nat) (exponent : Int)
  deriving DecidableEq, Repr

/-- A nonnegative quotient of natural numbers. -/
structure Ratio where
  num : Nat
  den : Nat
  deriving Repr

namespace Ratio

/-- The quotient divided by two to the power `e`. -/
def shift (x : Ratio) (e : Int) : Ratio :=
  if 0 ≤ e then ⟨x.num, x.den <<< e.toNat⟩ else ⟨x.num <<< (-e).toNat, x.den⟩

/-- The exponent of the largest power of two not above a positive quotient. -/
def log2 (x : Ratio) : Int :=
  let guess : Int := (x.num.log2 : Int) - (x.den.log2 : Int)
  let y := x.shift guess
  if y.den ≤ y.num then guess else guess - 1

/-- The exponent of the largest power of ten not above a positive quotient. -/
def log10 (x : Ratio) : Int :=
  if x.den ≤ x.num then (decimalLength (x.num / x.den) : Int) - 1
  else -(decimalLength ((x.den - 1) / x.num) : Int)

def ofScaled (significand : Nat) (exponent : Int) : Ratio := (Ratio.mk significand 1).shift (-exponent)

end Ratio

namespace BinaryFormat

/-- Encoding of the number of the format nearest to a quotient; beyond the largest, infinity.
Significand and exponent are laid side by side, so a significand that rounds up to the next
power of two carries into the exponent. -/
def nearest (f : BinaryFormat) (x : Ratio) : Nat :=
  if x.num = 0 then 0
  else
    let e := max f.lowest (x.log2 - ((f.digits : Int) - 1))
    let y := x.shift e
    min f.infinity (((e - f.lowest).toNat <<< (f.digits - 1)) + roundDiv .even y.num y.den)

def decode (f : BinaryFormat) (bits : Nat) : BinaryValue :=
  let negative := decide (f.signWeight ≤ bits)
  let magnitude := bits % f.signWeight
  let hidden := 1 <<< (f.digits - 1)
  let fraction := magnitude % hidden
  let biased := magnitude / hidden
  if magnitude = f.infinity then .infinite negative
  else if f.infinity < magnitude then .nan
  else if biased = 0 then .finite negative fraction f.lowest
  else .finite negative (fraction + hidden) (f.lowest + (biased - 1 : Nat))

end BinaryFormat

/-- A single-precision number by its encoding. -/
@[ext]
structure Binary32 where
  bits : UInt32
  deriving DecidableEq, Repr

/-- A double-precision number by its encoding. -/
@[ext]
structure Binary64 where
  bits : UInt64
  deriving DecidableEq, Repr

namespace Binary32

def value (x : Binary32) : BinaryValue := BinaryFormat.single.decode x.bits.toNat

def nan : Binary32 := ⟨0x7fc00000⟩

def infinite (negative : Bool) : Binary32 := ⟨if negative then 0xff800000 else 0x7f800000⟩

/-- The number nearest to a quotient with a sign. -/
def ofRatio (negative : Bool) (x : Ratio) : Binary32 :=
  let magnitude := UInt32.ofNat (BinaryFormat.single.nearest x)
  ⟨if negative then magnitude + 0x80000000 else magnitude⟩

def ofInt (i : Int) : Binary32 := ofRatio (i < 0) ⟨i.natAbs, 1⟩

/-- The correctly rounded product with `num / den`. -/
def scale (x : Binary32) (num den : Nat) : Binary32 :=
  match x.value with
  | .nan => nan
  | .infinite negative => infinite negative
  | .finite negative m e =>
    let y := Ratio.ofScaled m e
    ofRatio negative ⟨y.num * num, y.den * den⟩

/-- The nearest 32-bit integer, halves away from zero, clamped to the range; zero for a NaN. -/
def roundToInt (x : Binary32) : Int32 :=
  match x.value with
  | .nan => 0
  | .infinite negative => if negative then Int32.minValue else Int32.maxValue
  | .finite negative m e =>
    let y := Ratio.ofScaled m e
    let magnitude : Int := roundDiv .up y.num y.den
    let i := if negative then -magnitude else magnitude
    Int32.ofInt (max Int32.minValue.toInt (min Int32.maxValue.toInt i))

end Binary32

namespace Binary64

def value (x : Binary64) : BinaryValue := BinaryFormat.double.decode x.bits.toNat

/-- The number nearest to a quotient with a sign. -/
def ofRatio (negative : Bool) (x : Ratio) : Binary64 :=
  let magnitude := UInt64.ofNat (BinaryFormat.double.nearest x)
  ⟨if negative then magnitude + 0x8000000000000000 else magnitude⟩

/-- The nearest single-precision number. -/
def toBinary32 (x : Binary64) : Binary32 :=
  match x.value with
  | .nan => .nan
  | .infinite negative => .infinite negative
  | .finite negative m e => .ofRatio negative (.ofScaled m e)

end Binary64

end ClimateBus
