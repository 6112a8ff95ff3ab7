import ClimateBus.Text.Basic

/-!
Strings of TOML: the four forms they are written in, and how each is read.

A basic string has escapes, a literal string none; either may run over several lines between
tripled quotes. `write` picks the form that needs the fewest escapes, and `scan` reads all of them.
-/
namespace ClimateBus.Toml.Quoted

inductive Form where
  | basic | literal | basicLines | literalLines
  deriving DecidableEq, Repr

/-! ## Writing -/

/-- A character that cannot stand in a string without an escape. -/
def isControl (c : Char) : Bool := (c.toNat < 0x20 && c != '\t' && c != '\n') || c == '\x7f'

/-- The longest run of a character; `run` is the length of the one that is going on. -/
def longestRun (q : Char) : (run : Nat) → List Char → Nat
  | run, [] => run
  | run, c :: rest => if c = q then longestRun q (run + 1) rest else max run (longestRun q 0 rest)

/-- The form a text is written in: the plainest that takes it without escapes, if there is one. -/
def formOf (cs : List Char) : Form :=
  let control := cs.any isControl
  let backslash := cs.contains '\\'
  let newline := cs.contains '\n'
  let doubles := longestRun '"' 0 cs
  let singles := longestRun '\'' 0 cs
  if !control && !backslash && !newline && doubles = 0 then .basic
  else if !control && !newline && singles = 0 then .literal
  else if !control && !backslash && doubles ≤ 2 then .basicLines
  else if !control && singles ≤ 2 then .literalLines
  else if newline then .basicLines
  else .basic

/-- A character of a basic string other than a quote. -/
def escape (lines : Bool) (c : Char) : List Char :=
  if c = '\\' then ['\\', '\\']
  else if c = '\x08' then ['\\', 'b']
  else if c = '\t' then ['\\', 't']
  else if c = '\n' then (if lines then ['\n'] else ['\\', 'n'])
  else if c = '\x0c' then ['\\', 'f']
  else if c = '\r' then ['\\', 'r']
  else if isControl c then
    ['\\', 'u'] ++ (Hex.digits 4 c.toNat).map Char.toUpper
  else [c]

/-- The inside of a basic string. A quote may stand for itself only over several lines, and then
not a third one in a row; `run` counts the ones that stand. -/
def body (lines : Bool) : (run : Nat) → List Char → List Char
  | _, [] => []
  | run, c :: rest =>
    if c = '"' then
      if lines && run < 2 then '"' :: body lines (run + 1) rest
      else '\\' :: '"' :: body lines 0 rest
    else escape lines c ++ body lines 0 rest

/-- A line break that is dropped again when the string is read, for a text that has one. -/
def opening (cs : List Char) : List Char := if cs.contains '\n' then ['\n'] else []

def writeAs (form : Form) (cs : List Char) : List Char :=
  let double := ['"', '"', '"']
  let single := ['\'', '\'', '\'']
  match form with
  | .basic => '"' :: body false 0 cs ++ ['"']
  | .literal => '\'' :: cs ++ ['\'']
  | .basicLines => double ++ opening cs ++ body true 0 cs ++ double
  | .literalLines => single ++ opening cs ++ cs ++ single

def write (cs : List Char) : List Char := writeAs (formOf cs) cs

/-! ## Reading -/

/-- A character that stands for itself in any string; quotes and backslashes are told apart. -/
def isPlain (c : Char) : Bool := c == '\t' || (0x20 ≤ c.toNat && c != '\x7f')

/-- The value of a hexadecimal digit in either case. -/
def hexDigit? (c : Char) : Option Nat :=
  if c.isDigit then some (c.toNat - '0'.toNat)
  else if 'a' ≤ c && c ≤ 'f' then some (c.toNat - 'a'.toNat + 10)
  else if 'A' ≤ c && c ≤ 'F' then some (c.toNat - 'A'.toNat + 10)
  else none

/-- The character with a code, given by its hexadecimal digits; surrogates have none. -/
def charOfHex? (digits : List Char) : Option Char := do
  let code := (← digits.mapM hexDigit?).foldl (fun n d => 16 * n + d) 0
  if code.isValidChar then some (Char.ofNat code) else none

/-- The character that a letter stands for behind a backslash. -/
def escaped? : Char → Option Char
  | 'b' => some '\x08'
  | 't' => some '\t'
  | 'n' => some '\n'
  | 'f' => some '\x0c'
  | 'r' => some '\r'
  | '"' => some '"'
  | '\\' => some '\\'
  | _ => none

/-- Reads the inside of a basic string on one line up to its quote. -/
def scanBasic : List Char → Option (List Char × List Char)
  | [] => none
  | '"' :: rest => some ([], rest)
  | '\\' :: 'u' :: a :: b :: c :: d :: rest => do
    let x ← charOfHex? [a, b, c, d]
    let (cs, rest) ← scanBasic rest
    some (x :: cs, rest)
  | '\\' :: 'U' :: a :: b :: c :: d :: e :: f :: g :: h :: rest => do
    let x ← charOfHex? [a, b, c, d, e, f, g, h]
    let (cs, rest) ← scanBasic rest
    some (x :: cs, rest)
  | '\\' :: c :: rest => do
    let x ← escaped? c
    let (cs, rest) ← scanBasic rest
    some (x :: cs, rest)
  | c :: rest => do
    if isPlain c && c != '\\' then
      let (cs, rest) ← scanBasic rest
      some (c :: cs, rest)
    else none

/-- Reads the inside of a literal string on one line up to its quote. -/
def scanLiteral : List Char → Option (List Char × List Char)
  | [] => none
  | '\'' :: rest => some ([], rest)
  | c :: rest => do
    if isPlain c then
      let (cs, rest) ← scanLiteral rest
      some (c :: cs, rest)
    else none

/-- Where the reader of a string over several lines stands. -/
inductive Place where
  | inside
  /-- Behind a backslash, before the end of its line. -/
  | broken
  /-- Past such a line end, where blanks and line breaks are dropped. -/
  | folded
  deriving DecidableEq, Repr

/-- Reads the inside of a basic string over several lines. The last three quotes of a run of up to
five close it; a shorter run stands for itself. -/
def scanBasicLines : Place → List Char → Option (List Char × List Char)
  | _, [] => none
  | .broken, c :: rest =>
    if c = ' ' || c = '\t' then scanBasicLines .broken rest
    else if c = '\n' then scanBasicLines .folded rest
    else match c, rest with
      | '\r', '\n' :: rest => scanBasicLines .folded rest
      | _, _ => none
  | _, '"' :: '"' :: '"' :: '"' :: '"' :: rest => some (['"', '"'], rest)
  | _, '"' :: '"' :: '"' :: '"' :: rest => some (['"'], rest)
  | _, '"' :: '"' :: '"' :: rest => some ([], rest)
  | _, '\\' :: 'u' :: a :: b :: c :: d :: rest => do
    let x ← charOfHex? [a, b, c, d]
    let (cs, rest) ← scanBasicLines .inside rest
    some (x :: cs, rest)
  | _, '\\' :: 'U' :: a :: b :: c :: d :: e :: f :: g :: h :: rest => do
    let x ← charOfHex? [a, b, c, d, e, f, g, h]
    let (cs, rest) ← scanBasicLines .inside rest
    some (x :: cs, rest)
  | _, '\\' :: c :: rest =>
    match escaped? c with
    | some x => do
      let (cs, rest) ← scanBasicLines .inside rest
      some (x :: cs, rest)
    | none => scanBasicLines .broken (c :: rest)
  | place, '\r' :: '\n' :: rest => do
    let (cs, rest) ← scanBasicLines place rest
    some (if place = .folded then cs else '\n' :: cs, rest)
  | place, c :: rest => do
    if place = .folded && (c == ' ' || c == '\t' || c == '\n') then
      scanBasicLines .folded rest
    else if (isPlain c && c != '\\') || c = '\n' then
      let (cs, rest) ← scanBasicLines .inside rest
      some (c :: cs, rest)
    else none

/-- Reads the inside of a literal string over several lines. -/
def scanLiteralLines : List Char → Option (List Char × List Char)
  | [] => none
  | '\'' :: '\'' :: '\'' :: '\'' :: '\'' :: rest => some (['\'', '\''], rest)
  | '\'' :: '\'' :: '\'' :: '\'' :: rest => some (['\''], rest)
  | '\'' :: '\'' :: '\'' :: rest => some ([], rest)
  | '\r' :: '\n' :: rest => do
    let (cs, rest) ← scanLiteralLines rest
    some ('\n' :: cs, rest)
  | c :: rest => do
    if isPlain c || c = '\n' then
      let (cs, rest) ← scanLiteralLines rest
      some (c :: cs, rest)
    else none

/-- A line break right behind the opening quotes is dropped. -/
def dropOpening : List Char → List Char
  | '\n' :: rest => rest
  | '\r' :: '\n' :: rest => rest
  | cs => cs

/-- Reads a string on one line, the only kind that can be a key. -/
def scanLine : List Char → Option (List Char × List Char)
  | '"' :: rest => scanBasic rest
  | '\'' :: rest => scanLiteral rest
  | _ => none

def scan : List Char → Option (List Char × List Char)
  | '"' :: '"' :: '"' :: rest => scanBasicLines .inside (dropOpening rest)
  | '\'' :: '\'' :: '\'' :: rest => scanLiteralLines (dropOpening rest)
  | cs => scanLine cs

end ClimateBus.Toml.Quoted
