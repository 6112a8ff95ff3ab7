import ClimateBus.Number.Numeral
import ClimateBus.Toml.Library
import ClimateBus.Toml.Quoted

/-!
Values of TOML without parts: strings, flags, numbers and moments.

A scanner reads from the front of a text and gives what it read and the rest. Of a number it keeps
the integer, and of a number with a point, or a moment, only that it is one.
-/
namespace ClimateBus.Toml

abbrev Scan (α : Type) := List Char → Option (α × List Char)

namespace Scan

/-- Goes on with digits of a number; an underscore must stand between two of them. -/
def moreDigits (p : Char → Bool) : Scan (List Char)
  | [] => some ([], [])
  | '_' :: c :: rest =>
    if p c then (moreDigits p rest).map fun (cs, rest) => (c :: cs, rest) else none
  | c :: rest =>
    if p c then (moreDigits p rest).map fun (cs, rest) => (c :: cs, rest)
    else if c = '_' then none
    else some ([], c :: rest)

/-- Reads digits of a number, without their underscores. -/
def digits (p : Char → Bool) : Scan (List Char)
  | c :: rest => if p c then (moreDigits p rest).map fun (cs, rest) => (c :: cs, rest) else none
  | [] => none

/-- Reads a sign, kept as it is written. -/
def sign : List Char → List Char × List Char
  | '+' :: rest => (['+'], rest)
  | '-' :: rest => (['-'], rest)
  | cs => ([], cs)

/-- Reads a decimal integer; no zero stands in front of another digit. -/
def decimalInteger : Scan (List Char) := fun cs =>
  let (s, cs) := sign cs
  match cs with
  | '0' :: rest => some (s ++ ['0'], rest)
  | cs => (digits Char.isDigit cs).map fun (ds, rest) => (s ++ ds, rest)

/-- Reads the part of a number behind its point. -/
def fraction : Scan (List Char)
  | '.' :: rest => (digits Char.isDigit rest).map fun (ds, rest) => ('.' :: ds, rest)
  | _ => none

def exponent : Scan (List Char)
  | c :: rest =>
    if c = 'e' || c = 'E' then
      let (s, rest) := sign rest
      (digits Char.isDigit rest).map fun (ds, rest) => (c :: s ++ ds, rest)
    else none
  | [] => none

/-- Reads a number with a point or an exponent, or both. -/
def realNumeral : Scan (List Char) := fun cs => do
  let (whole, cs) ← decimalInteger cs
  match fraction cs with
  | none =>
    let (e, cs) ← exponent cs
    some (whole ++ e, cs)
  | some (f, cs) =>
    match exponent cs with
    | none => some (whole ++ f, cs)
    | some (e, cs) => some (whole ++ f ++ e, cs)

/-- Reads the name of an infinity or of what is no number. -/
def namedReal : Scan Tree := fun cs =>
  match (sign cs).2 with
  | 'i' :: 'n' :: 'f' :: rest => some (.real, rest)
  | 'n' :: 'a' :: 'n' :: rest => some (.real, rest)
  | _ => none

/-- Reads a number that is no integer. A positive one must not be too large for a double. -/
def real : Scan Tree := fun cs =>
  match realNumeral cs with
  | none => namedReal cs
  | some (text, rest) =>
    match Numeral.ofChars? text with
    | some (.finite negative d) =>
      if !negative && (Numeral.finite negative d).overflows then none else some (.real, rest)
    | _ => none

/-- A value for an integer that fits. -/
def whole? (i : Int) : Option Tree := if fits i then some (.whole i) else none

/-- Reads an integer with digits of a power of two as its base. -/
def based (base : Nat) (p : Char → Bool) : Scan Tree := fun cs => do
  let (ds, rest) ← digits p cs
  let values ← ds.mapM Quoted.hexDigit?
  let t ← whole? ((values.foldl (fun n d => base * n + d) 0 : Nat) : Int)
  some (t, rest)

def integer : Scan Tree
  | '0' :: 'x' :: rest => based 16 (fun c => (Quoted.hexDigit? c).isSome) rest
  | '0' :: 'o' :: rest => based 8 (fun c => '0' ≤ c && c ≤ '7') rest
  | '0' :: 'b' :: rest => based 2 (fun c => c == '0' || c == '1') rest
  | cs => do
    let (text, rest) ← decimalInteger cs
    let t ← whole? (← Numeral.int? text)
    some (t, rest)

/-- Reads a number of exactly so many digits. -/
def fixedDigits (count : Nat) : Scan Nat := fun cs =>
  (Numeral.nat? (cs.take count)).bind fun n =>
    if (cs.take count).length = count then some (n, cs.drop count) else none

def only (c : Char) : List Char → Option (List Char)
  | x :: rest => if x = c then some rest else none
  | [] => none

def isLeapYear (year : Nat) : Bool := year % 4 = 0 && (year % 100 != 0 || year % 400 = 0)

def daysIn (year month : Nat) : Nat :=
  if month = 2 then (if isLeapYear year then 29 else 28)
  else if month = 4 || month = 6 || month = 9 || month = 11 then 30
  else 31

/-- Reads a day of the calendar and gives the rest. -/
def date (cs : List Char) : Option (List Char) := do
  let (year, cs) ← fixedDigits 4 cs
  let (month, cs) ← fixedDigits 2 (← only '-' cs)
  let (day, cs) ← fixedDigits 2 (← only '-' cs)
  if 1 ≤ month ∧ month ≤ 12 ∧ 1 ≤ day ∧ day ≤ daysIn year month then some cs else none

def hourMinute (cs : List Char) : Option (List Char) := do
  let (hour, cs) ← fixedDigits 2 cs
  let (minute, cs) ← fixedDigits 2 (← only ':' cs)
  if hour ≤ 23 ∧ minute ≤ 59 then some cs else none

def dropFraction : List Char → List Char
  | '.' :: c :: rest => if c.isDigit then rest.dropWhile Char.isDigit else '.' :: c :: rest
  | cs => cs

/-- Reads a time of day; there may be a leap second. -/
def time (cs : List Char) : Option (List Char) := do
  let cs ← hourMinute cs
  let (second, cs) ← fixedDigits 2 (← only ':' cs)
  if second ≤ 60 then some (dropFraction cs) else none

/-- Drops the distance of a local time from universal time. -/
def dropOffset : List Char → List Char
  | 'Z' :: rest | 'z' :: rest => rest
  | '+' :: rest => (hourMinute rest).getD ('+' :: rest)
  | '-' :: rest => (hourMinute rest).getD ('-' :: rest)
  | cs => cs

def dropTime : List Char → List Char
  | c :: rest =>
    if c = 'T' || c = 't' || c = ' ' then
      match time rest with
      | some rest => dropOffset rest
      | none => c :: rest
    else c :: rest
  | [] => []

def moment : Scan Tree := fun cs =>
  match date cs with
  | some rest => some (.moment, dropTime rest)
  | none => (time cs).map fun rest => (.moment, rest)

def number : Scan Tree := fun cs => moment cs <|> real cs <|> integer cs

/-- Reads a value without parts. -/
def scalar : Scan Tree
  | 't' :: 'r' :: 'u' :: 'e' :: rest => some (.flag true, rest)
  | 'f' :: 'a' :: 'l' :: 's' :: 'e' :: rest => some (.flag false, rest)
  | cs =>
    match Quoted.scan cs with
    | some (text, rest) => some (.text (String.ofList text), rest)
    | none => number cs

end Scan

end ClimateBus.Toml
