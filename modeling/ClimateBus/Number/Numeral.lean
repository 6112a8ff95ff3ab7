import ClimateBus.Number.Decimal

/-!
Decimal numerals as people write them, and the binary number nearest to one.
-/
namespace ClimateBus

inductive Numeral where
  | nan
  | infinite (negative : Bool)
  | finite (negative : Bool) (d : Decimal)
  deriving DecidableEq, Repr

namespace Decimal

/-- With the leading digit this many places from the point, a number of either format is infinite
or zero. -/
def reach : Int := 400

/-- Encoding of the number of a format nearest to a decimal. -/
def nearest (f : BinaryFormat) (d : Decimal) : Nat :=
  let lead := d.exponent + decimalLength d.digits - 1
  if d.digits = 0 ∨ lead < -reach then 0
  else if reach < lead then f.infinity
  else f.nearest (perTen ⟨d.digits, 1⟩ (-d.exponent))

end Decimal

namespace Numeral

/-- The number that a row of digits stands for. -/
def natOfDigits (cs : List Char) : Nat :=
  cs.foldl (fun n c => 10 * n + (c.toNat - '0'.toNat)) 0

/-- Reads a natural number without a sign; all characters are digits and there is one. -/
def nat? (cs : List Char) : Option Nat :=
  if !cs.isEmpty && cs.all Char.isDigit then some (natOfDigits cs) else none

/-- A sign at the front, if there is one, and what it stands before. -/
def splitSign : List Char → Bool × List Char
  | '-' :: rest => (true, rest)
  | '+' :: rest => (false, rest)
  | cs => (false, cs)

/-- Reads an integer with or without a sign. -/
def int? (cs : List Char) : Option Int :=
  let (negative, digits) := splitSign cs
  (nat? digits).map fun n => if negative then -n else n

/-- Reads the exponent behind the digits of a numeral; none is zero. -/
def exponent? : List Char → Option Int
  | [] => some 0
  | c :: rest => if c = 'e' || c = 'E' then int? rest else none

/-- Reads a numeral: digits with or without a point among them and an exponent behind them, or the
name of what is no finite number, in either case. -/
def ofChars? (cs : List Char) : Option Numeral :=
  let (negative, cs) := splitSign cs
  match String.ofList (cs.map Char.toLower) with
  | "nan" => some .nan
  | "inf" | "infinity" => some (.infinite negative)
  | _ =>
    let whole := cs.takeWhile Char.isDigit
    let (fraction, rest) := match cs.dropWhile Char.isDigit with
      | '.' :: rest => (rest.takeWhile Char.isDigit, rest.dropWhile Char.isDigit)
      | rest => ([], rest)
    let digits := whole ++ fraction
    if digits.isEmpty then none
    else (exponent? rest).map fun e =>
      .finite negative ⟨natOfDigits digits, e - (fraction.length : Int)⟩

/-- The nearest single-precision number. -/
def toBinary32 : Numeral → Binary32
  | .nan => .nan
  | .infinite negative => .infinite negative
  | .finite negative d =>
    let magnitude := UInt32.ofNat (d.nearest .single)
    ⟨if negative then magnitude + 0x80000000 else magnitude⟩

/-- The decimal is so large that the double nearest to it is infinite. -/
def overflows : Numeral → Bool
  | .finite _ d => d.nearest .double == BinaryFormat.double.infinity
  | _ => false

end Numeral

end ClimateBus
