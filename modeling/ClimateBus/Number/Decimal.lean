import ClimateBus.Number.Binary

/-!
Decimal text of binary floating-point numbers.

`shortest` finds the decimal with the fewest digits that lies so close to a number that it reads
back as that number, and of those the nearest. `fixed` rounds a number to a given count of
decimal places. How digits and exponent are then laid out belongs to a `RealFormat`.
-/
namespace ClimateBus

/-- Decimal digits, read as a natural number, times ten to the exponent. -/
structure Decimal where
  digits : Nat
  exponent : Int
  deriving DecidableEq, Repr

namespace Decimal

/-- The numbers that read back as a number: all between `low` and `high` quarter steps around its
`mid` quarter steps, the ends included if its significand is even. -/
structure Neighbourhood where
  low : Nat
  mid : Nat
  high : Nat
  closed : Bool

/-- The step below a power of two is half as wide, unless it is the smallest step there is. -/
def neighbourhood (f : BinaryFormat) (significand : Nat) (exponent : Int) : Neighbourhood :=
  let narrow := significand = 1 <<< (f.digits - 1) ∧ f.lowest < exponent
  { low := 4 * significand - (if narrow then 1 else 2)
    mid := 4 * significand
    high := 4 * significand + 2
    closed := significand % 2 == 0 }

/-- The multiple of a decimal step nearest to the number, if it reads back; `quarter` is a quarter
step of the format in units of the decimal step. -/
def onGrid (tie : Tie) (h : Neighbourhood) (quarter : Ratio) : Option Nat :=
  let inside (c : Nat) : Bool :=
    let at_ := c * quarter.den
    let low := h.low * quarter.num
    let high := h.high * quarter.num
    if h.closed then decide (low ≤ at_ ∧ at_ ≤ high) else decide (low < at_ ∧ at_ < high)
  let floor := h.mid * quarter.num / quarter.den
  match inside floor, inside (floor + 1) with
  | false, false => none
  | true, false => some floor
  | false, true => some (floor + 1)
  | true, true => some (roundDiv tie (h.mid * quarter.num) quarter.den)

/-- The quotient divided by ten to the power `k`. -/
def perTen (x : Ratio) (k : Int) : Ratio :=
  if 0 ≤ k then ⟨x.num, x.den * Nat.pow 10 k.toNat⟩ else ⟨x.num * Nat.pow 10 (-k).toNat, x.den⟩

/-- The same decimal without zeros at the end; `fuel` bounds how many are dropped. -/
def dropZeros : (fuel : Nat) → Decimal → Decimal
  | 0, d => d
  | fuel + 1, d =>
    if d.digits ≠ 0 ∧ d.digits % 10 = 0 then dropZeros fuel ⟨d.digits / 10, d.exponent + 1⟩ else d

/-- No number of either format needs more digits than this. -/
def maxDigits : Nat := 17

/-- The shortest decimal that reads back as a positive number. -/
def shortest (f : BinaryFormat) (tie : Tie) (significand : Nat) (exponent : Int) : Decimal :=
  let h := neighbourhood f significand exponent
  let quarter := Ratio.ofScaled 1 (exponent - 2)
  let lead := (Ratio.ofScaled significand exponent).log10
  let found := (List.range maxDigits).findSome? fun (more : Nat) =>
    let k := lead - more
    (onGrid tie h (perTen quarter k)).map fun c => Decimal.mk c k
  dropZeros maxDigits (found.getD ⟨significand, exponent⟩)

end Decimal

/-- How the shortest decimal of a number is laid out. -/
structure RealFormat where
  /-- Where a decimal goes that lies halfway between two of equal length. -/
  tie : Tie
  /-- The least and the greatest exponent of the leading digit written without an exponent. -/
  positional : Option (Int × Int)
  /-- Whole numbers end in `.0`. -/
  pointZero : Bool
  nan : String
  infinity : String
  negativeInfinity : String

namespace RealFormat

/-- The digits of a decimal with a point where it belongs. -/
def positionalText (r : RealFormat) (d : Decimal) : String :=
  let digits := Nat.toDigits 10 d.digits
  if 0 ≤ d.exponent then
    String.ofList (digits ++ List.replicate d.exponent.toNat '0')
      ++ (if r.pointZero then ".0" else "")
  else
    let places := (-d.exponent).toNat
    let padded := List.replicate (places + 1 - digits.length) '0' ++ digits
    let whole := padded.length - places
    String.ofList (padded.take whole ++ '.' :: padded.drop whole)

/-- One digit, a point before any others, and a signed exponent. -/
def exponentText (d : Decimal) (lead : Int) : String :=
  let mantissa := match Nat.toDigits 10 d.digits with
    | first :: rest@(_ :: _) => String.ofList (first :: '.' :: rest)
    | digits => String.ofList digits
  mantissa ++ "e" ++ (if lead < 0 then "-" else "+") ++ toString lead.natAbs

def magnitude (r : RealFormat) (f : BinaryFormat) (significand : Nat) (exponent : Int) : String :=
  if significand = 0 then (if r.pointZero then "0.0" else "0")
  else
    let d := Decimal.shortest f r.tie significand exponent
    let lead := d.exponent + decimalLength d.digits - 1
    match r.positional with
    | some (least, greatest) =>
      if least ≤ lead ∧ lead ≤ greatest then r.positionalText d else exponentText d lead
    | none => r.positionalText d

def text (r : RealFormat) (f : BinaryFormat) : BinaryValue → String
  | .nan => r.nan
  | .infinite negative => if negative then r.negativeInfinity else r.infinity
  | .finite negative m e => (if negative then "-" else "") ++ r.magnitude f m e

end RealFormat

/-- A double for a person: the shortest digits, never an exponent. -/
def Binary64.plain (x : Binary64) : String :=
  let format : RealFormat := ⟨.up, none, false, "NaN", "inf", "-inf"⟩
  format.text .double x.value

/-- A number with one decimal place, halves going to the even digit. -/
def Binary32.tenthsText (x : Binary32) : String :=
  match x.value with
  | .nan => "NaN"
  | .infinite negative => if negative then "-inf" else "inf"
  | .finite negative m e =>
    let y := Ratio.ofScaled m e
    let tenths := roundDiv .even (10 * y.num) y.den
    (if negative then "-" else "") ++ toString (tenths / 10) ++ "." ++ toString (tenths % 10)

end ClimateBus
