import ClimateBus.Toml.Library

/-!
Tables under construction.

A table may be opened by a header, made by the path of a longer header, or made by a dotted key.
What it was made by decides how it may still be extended: a header opens a table once, a dotted
key never enters a table that a header opened, and a value is never extended.
-/
namespace ClimateBus.Toml

/-- What made a table. -/
inductive Origin where
  /-- A header of its own, or the braces of an inline table. -/
  | header
  /-- The path of a longer header. -/
  | path
  /-- A dotted key. -/
  | dotted
  deriving DecidableEq, Repr

inductive Node where
  | value (t : Tree)
  | table (origin : Origin) (entries : List (String × Node))
  /-- A list of tables, the last of which is still open. -/
  | tables (closed : List Tree) (entries : List (String × Node))

namespace Node

mutual
def toTree : Node → Tree
  | .value t => t
  | .table _ entries => .table (toTrees entries)
  | .tables closed entries => .list (closed ++ [.table (toTrees entries)])

def toTrees : List (String × Node) → List (String × Tree)
  | [] => []
  | (k, n) :: rest => (k, n.toTree) :: toTrees rest
end

abbrev Entries := List (String × Node)

/-- Replaces what stands at a key; a new key goes last. -/
def alter (key : String) (f : Option Node → Option Node) : Entries → Option Entries
  | [] => (f none).map fun n => [(key, n)]
  | (k, n) :: rest =>
    if k = key then (f (some n)).map fun n => (k, n) :: rest
    else (alter key f rest).map fun rest => (k, n) :: rest

/-- Edits the table at the end of a path. Missing tables on the way are made, and count as made by
`by_`; the last of a list of tables stands for the list. -/
def edit (by_ : Origin) (f : Origin → Entries → Option Entries) :
    List String → Origin → Entries → Option Entries
  | [], origin, entries => f origin entries
  | key :: path, _, entries =>
    alter key (fun
      | none => (edit by_ f path by_ []).map (.table by_)
      | some (.value _) => none
      | some (.tables closed inner) => (edit by_ f path .header inner).map (.tables closed)
      | some (.table origin inner) =>
        if by_ = .dotted ∧ origin = .header then none
        else (edit by_ f path origin inner).map (.table origin)) entries

/-- Adds a value under a key that is not taken. A dotted key may add only to a table made by
dotted keys, and a plain one only to one that is not. -/
def add (dotted : Bool) (key : String) (value : Tree) (origin : Origin) (entries : Entries) :
    Option Entries :=
  if (origin == .dotted) = dotted then
    alter key (fun
      | none => some (.value value)
      | some _ => none) entries
  else none

/-- Adds a value under a dotted key: the keys before the last, and the last. -/
def addAt (path : List String) (key : String) (value : Tree) (origin : Origin)
    (entries : Entries) : Option Entries :=
  edit .dotted (add (!path.isEmpty) key value) path origin entries

def openTable (path : List String) (key : String) (root : Entries) : Option Entries :=
  edit .path (fun _ entries => alter key (fun
    | none => some (.table .header [])
    | some (.table .path inner) => some (.table .header inner)
    | some _ => none) entries) path .header root

def openNext (path : List String) (key : String) (root : Entries) : Option Entries :=
  edit .path (fun _ entries => alter key (fun
    | none => some (.tables [] [])
    | some (.tables closed inner) => some (.tables (closed ++ [.table (toTrees inner)]) [])
    | some _ => none) entries) path .header root

end Node

end ClimateBus.Toml
