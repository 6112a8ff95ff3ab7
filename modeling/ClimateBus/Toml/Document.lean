import ClimateBus.Toml.Node
import ClimateBus.Toml.Scalar

/-!
Reading a TOML document into a tree, and writing one.

Values nest to a fixed depth, and so do the parts of a key. A document is read line by line: a
header opens a table, and every other line adds a value to the table that is open. It is written
section by section; a value with parts, or an integer that does not fit, has no written form.
-/
namespace ClimateBus.Toml

namespace Scan

/-- Parts of a key, or values inside one another, that are too many to be read. -/
def tooDeep : Nat := 80

def isBlank (c : Char) : Bool := c == ' ' || c == '\t'

def skipBlanks (cs : List Char) : List Char := cs.dropWhile isBlank

/-- Drops the end of a line, which may be the end of the document. -/
def lineEnd : List Char → Option (List Char)
  | [] => some []
  | '\n' :: rest => some rest
  | '\r' :: '\n' :: rest => some rest
  | _ => none

/-- Drops a comment, if there is one. -/
def dropComment : List Char → List Char
  | '#' :: rest => rest.dropWhile Quoted.isPlain
  | cs => cs

/-- Drops what may follow at the end of a line. -/
def finishLine (cs : List Char) : Option (List Char) := lineEnd (dropComment (skipBlanks cs))

/-- Drops blanks, line breaks and comments between the parts of a list; `fuel` bounds the number of
lines. -/
def skipLines : (fuel : Nat) → List Char → Option (List Char)
  | 0, cs => some cs
  | fuel + 1, cs =>
    match skipBlanks cs with
    | '\n' :: rest => skipLines fuel rest
    | '\r' :: rest => do skipLines fuel (← only '\n' rest)
    | '#' :: rest => do skipLines fuel (← lineEnd (rest.dropWhile Quoted.isPlain))
    | cs => some cs

def keyPart : Scan String := fun cs =>
  let bare := cs.takeWhile isKeyChar
  if bare.isEmpty then (Quoted.scanLine cs).map fun (name, rest) => (String.ofList name, rest)
  else some (String.ofList bare, cs.dropWhile isKeyChar)

/-- Reads a key of less than `most` parts with points between them: the parts before the last, and
the last. -/
def key : (most : Nat) → Scan (List String × String)
  | 0 => fun _ => none
  | most + 1 => fun cs => do
    let (part, cs) ← keyPart (skipBlanks cs)
    match skipBlanks cs with
    | '.' :: cs =>
      if most = 0 then none
      else
        let ((path, last), cs) ← key most cs
        some ((part :: path, last), cs)
    | cs => some (([], part), cs)

/-- Reads the parts of a list behind its bracket; `fuel` bounds their number. -/
def items (item : Scan Tree) : (fuel : Nat) → Scan (List Tree)
  | 0 => fun _ => none
  | fuel + 1 => fun cs => do
    match ← skipLines cs.length cs with
    | ']' :: rest => some ([], rest)
    | cs =>
      let (first, cs) ← item cs
      match ← skipLines cs.length cs with
      | ',' :: cs =>
        let (more, cs) ← items item fuel cs
        some (first :: more, cs)
      | ']' :: rest => some ([first], rest)
      | _ => none

/-- Reads a key, the sign behind it, and a value. -/
def member (item : Scan Tree) : Scan ((List String × String) × Tree) := fun cs => do
  let (name, cs) ← key (tooDeep - 1) cs
  let (value, cs) ← item (skipBlanks (← only '=' cs))
  some ((name, value), cs)

/-- Reads the members of an inline table behind its brace, of which there is one at least; `fuel`
bounds their number. -/
def members (item : Scan Tree) : (fuel : Nat) → Node.Entries → Scan Node.Entries
  | 0, _ => fun _ => none
  | fuel + 1, entries => fun cs => do
    let (((path, last), value), cs) ← member item cs
    let entries ← Node.addAt path last value .header entries
    match skipBlanks cs with
    | ',' :: cs => members item fuel entries cs
    | '\x7d' :: rest => some (entries, rest)
    | _ => none

def inlineTable (item : Scan Tree) : Scan Node.Entries := fun cs =>
  match skipBlanks cs with
  | '\x7d' :: rest => some ([], rest)
  | cs => members item cs.length [] cs

/-- Reads a value with less than `depth` lists and inline tables inside one another. -/
def value : (depth : Nat) → Scan Tree
  | 0 => fun _ => none
  | depth + 1 => fun cs =>
    match cs with
    | '[' :: rest =>
      if depth = 0 then none
      else (items (value depth) (rest.length + 1) rest).map fun (ts, rest) => (.list ts, rest)
    | '\x7b' :: rest =>
      if depth = 0 then none
      else (inlineTable (value depth) rest).map fun (entries, rest) =>
        (.table (Node.toTrees entries), rest)
    | cs => scalar cs

/-- Reads a header behind its opening bracket: the key, then `closing` brackets. -/
def header (closing : List Char) : Scan (List String × String) := fun cs => do
  let (name, cs) ← key (tooDeep - 1) cs
  let cs ← closing.foldlM (fun cs c => only c cs) cs
  some (name, ← finishLine cs)

end Scan

/-- A document that has been read so far: its tables, and the path to the one that is open. -/
structure Draft where
  root : Node.Entries
  here : List String

namespace Draft

open Scan

/-- Reads one line that is not empty. -/
def readLine (d : Draft) : List Char → Option (Draft × List Char)
  | '[' :: '[' :: rest => do
    let ((path, last), rest) ← header [']', ']'] rest
    some (⟨← Node.openNext path last d.root, path ++ [last]⟩, rest)
  | '[' :: rest => do
    let ((path, last), rest) ← header [']'] rest
    some (⟨← Node.openTable path last d.root, path ++ [last]⟩, rest)
  | cs => do
    let (((path, last), value), rest) ← member (value tooDeep) cs
    let root ← Node.edit .path (Node.addAt path last value) d.here .header d.root
    some ({ d with root }, ← finishLine rest)

/-- Reads the remaining lines; `fuel` bounds their number. -/
def readLines : (fuel : Nat) → Draft → List Char → Option Draft
  | 0, d, cs => if cs.isEmpty then some d else none
  | fuel + 1, d, cs =>
    match skipBlanks cs with
    | [] => some d
    | c :: rest =>
      if c = '\n' || c = '\r' || c = '#' then do readLines fuel d (← finishLine (c :: rest))
      else do
        let (d, cs) ← d.readLine (c :: rest)
        readLines fuel d cs

end Draft

/-- Reads a document; a byte order mark in front of it is dropped. -/
def read (text : String) : Option Tree :=
  let cs := match text.toList with
    | '\ufeff' :: rest => rest
    | cs => cs
  (Draft.readLines cs.length ⟨[], []⟩ cs).map fun d => .table (Node.toTrees d.root)

def writeScalar : Tree → Option String
  | .flag b => some (if b then "true" else "false")
  | .whole i => if fits i then some (toString i) else none
  | .text s => some (String.ofList (Quoted.write s.toList))
  | _ => none

def writeEntry (e : String × Tree) : Option String :=
  (writeScalar e.2).map fun v => e.1 ++ " = " ++ v ++ "\n"

def writeSection (s : Section) : Option String :=
  (s.2.mapM writeEntry).map fun entries => "[" ++ s.1 ++ "]\n" ++ String.join entries

/-- Writes a document; an empty line stands between two sections. -/
def write (sections : List Section) : Option String :=
  (sections.mapM writeSection).map (String.intercalate "\n")

/-- The library of the program. -/
instance builtIn : Library := ⟨read, write⟩

end ClimateBus.Toml
