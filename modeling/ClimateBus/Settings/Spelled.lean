import ClimateBus.Serial.Line
import ClimateBus.Toml.Library

/-!
How the values of settings are written in a tree and read from it.

Reading is strict: a flag is no number, a number no text, and a number must fit its type.
-/
namespace ClimateBus

/-- What the notations that settings are read from allow in different ways. -/
structure Dialect where
  /-- What may stand with the name of a choice when the two are written as a table. -/
  beside : Tree → Bool
  /-- A list that stands for a record may be longer than the record. -/
  surplus : Bool

namespace Dialect

def toml : Dialect where
  beside
    | .list [] | .table [] => true
    | _ => false
  surplus := true

def json : Dialect where
  beside
    | .absent => true
    | _ => false
  surplus := false

end Dialect

class Spelled (α : Type) where
  /-- The written value, or nothing if the setting is left out. -/
  write : α → Option Tree
  read : Dialect → Tree → Option α

namespace Spelled

def readNat (bound : Nat) : Tree → Option Nat
  | .whole i => if 0 ≤ i ∧ i < bound then some i.toNat else none
  | _ => none

/-- Reads one of several values by its name, alone or as the only key of a table. -/
def readName {α : Type} (all : List α) (name : α → String) (d : Dialect) : Tree → Option α
  | .text s => all.find? fun v => name v == s
  | .table [(s, t)] => if d.beside t then all.find? fun v => name v == s else none
  | _ => none

instance : Spelled Bool where
  write b := some (.flag b)
  read _
    | .flag b => some b
    | _ => none

instance : Spelled String where
  write s := some (.text s)
  read _
    | .text s => some s
    | _ => none

instance : Spelled UInt8 where
  write n := some (.whole n.toNat)
  read _ t := (readNat UInt8.size t).map UInt8.ofNat

instance : Spelled UInt32 where
  write n := some (.whole n.toNat)
  read _ t := (readNat UInt32.size t).map UInt32.ofNat

instance : Spelled UInt64 where
  write n := some (.whole n.toNat)
  read _ t := (readNat UInt64.size t).map UInt64.ofNat

instance : Spelled Parity where
  write p := some (.text p.name)
  read := readName [.none, .odd, .even] Parity.name

instance : Spelled ControlLine where
  write l := some (.text l.name)
  read := readName [.rts, .dtr] ControlLine.name

/-- A setting that may be left out. -/
instance {α : Type} [Spelled α] : Spelled (Option α) where
  write v := v.bind write
  read d
    | .absent => some none
    | t => (read d t).map some

end Spelled

end ClimateBus
