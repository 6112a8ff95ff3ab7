import ClimateBus.Number.Decimal
import ClimateBus.Text.Basic

/-!
JSON values and their text, on one line or indented by two spaces.

An object keeps its members in the order given. Single-precision numbers are written with the
fewest digits that read back, always with a point or an exponent; what is no number is written as
null.
-/
namespace ClimateBus

inductive Json where
  | null
  | bool (b : Bool)
  | int (i : Int)
  | real (x : Binary32)
  | str (s : String)
  | arr (items : List Json)
  | obj (members : List (String × Json))

namespace Json

def ofNat (n : Nat) : Json := .int n

/-- An absent value is null. -/
def optional {α : Type} (f : α → Json) : Option α → Json
  | some x => f x
  | none => .null

/-- Numbers are positional while the leading digit stands between the 6th place after the point
and the 13th before it. -/
def realFormat : RealFormat := ⟨.even, some (-6, 12), true, "null", "null", "null"⟩

def escape (c : Char) : List Char :=
  if c = '"' then ['\\', '"']
  else if c = '\\' then ['\\', '\\']
  else if c = '\n' then ['\\', 'n']
  else if c = '\r' then ['\\', 'r']
  else if c = '\t' then ['\\', 't']
  else if c = '\x08' then ['\\', 'b']
  else if c = '\x0c' then ['\\', 'f']
  else if c.toNat < 0x20 then ['\\', 'u'] ++ Hex.digits 4 c.toNat
  else [c]

def quote (s : String) : String := String.ofList ('"' :: s.toList.flatMap escape ++ ['"'])

def atom : Json → String
  | .null => "null"
  | .bool b => if b then "true" else "false"
  | .int i => toString i
  | .real x => realFormat.text .single x.value
  | .str s => quote s
  | .arr _ => "[]"
  | .obj _ => "\x7b\x7d"

/-- The opening and closing brackets of a list of parts. -/
def bracket (opening closing separator : String) (parts : List String) : String :=
  opening ++ String.intercalate separator parts ++ closing

mutual
/-- Text on one line without spaces. -/
def compact : Json → String
  | .arr items => bracket "[" "]" "," (compactItems items)
  | .obj members => bracket "\x7b" "\x7d" "," (compactMembers members)
  | other => atom other

def compactItems : List Json → List String
  | [] => []
  | x :: rest => compact x :: compactItems rest

def compactMembers : List (String × Json) → List String
  | [] => []
  | (k, x) :: rest => (quote k ++ ":" ++ compact x) :: compactMembers rest
end

def newLine (depth : Nat) : String := "\n" ++ String.ofList (List.replicate (2 * depth) ' ')

mutual
/-- Text over several lines, starting at an indentation. -/
def indented (depth : Nat) : Json → String
  | .arr [] => "[]"
  | .obj [] => "\x7b\x7d"
  | .arr (x :: rest) =>
    bracket ("[" ++ newLine (depth + 1)) (newLine depth ++ "]") ("," ++ newLine (depth + 1))
      (indented (depth + 1) x :: indentedItems (depth + 1) rest)
  | .obj ((k, x) :: rest) =>
    bracket ("\x7b" ++ newLine (depth + 1)) (newLine depth ++ "\x7d")
      ("," ++ newLine (depth + 1))
      ((quote k ++ ": " ++ indented (depth + 1) x) :: indentedMembers (depth + 1) rest)
  | other => atom other

def indentedItems (depth : Nat) : List Json → List String
  | [] => []
  | x :: rest => indented depth x :: indentedItems depth rest

def indentedMembers (depth : Nat) : List (String × Json) → List String
  | [] => []
  | (k, x) :: rest => (quote k ++ ": " ++ indented depth x) :: indentedMembers depth rest
end

def pretty (j : Json) : String := indented 0 j

end Json

end ClimateBus
