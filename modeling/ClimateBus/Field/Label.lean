import ClimateBus.Text.Basic

/-!
Enumerated field values with a register code and a name: the operating mode, the fan speed and the
louvre position that a unit can be asked for.

A name is read however it is spelled: blanks around it, letter case, and every hyphen and
underscore are ignored.
-/
namespace ClimateBus

/-- A finite set of field values, each with a code and a name. -/
class Labelled (α : Type) where
  /-- All values in code order. -/
  all : List α
  code : α → UInt32
  name : α → String

/-- A text that spells none of the accepted names. -/
structure UnknownName where
  text : String
  accepted : List String
  deriving DecidableEq, Repr

def UnknownName.message (e : UnknownName) : String :=
  s!"unknown value '{e.text}', expected one of: " ++ String.intercalate ", " e.accepted

namespace Labelled

variable {α : Type} [Labelled α]

/-- The letters of a name that count when it is read. -/
def spelling (text : String) : List Char :=
  ((Blank.trim text.toList).filter fun c => c != '-' && c != '_').flatMap Letter.lowerChar

def ofCode? (c : UInt32) : Option α := (all : List α).find? fun v => code v == c

def ofName (text : String) : Except UnknownName α :=
  match (all : List α).find? fun v => spelling (name v) == spelling text with
  | some v => .ok v
  | none => .error ⟨text, (all : List α).map name⟩

end Labelled

inductive Mode where
  | fan | heat | cool | auto | vent | undefined | slave | dry
  deriving DecidableEq, Repr

inductive FanSpeed where
  | auto | low | lowMedium | medium | highMedium | high
  deriving DecidableEq, Repr

/-- A louvre position. Code 5 is not assigned. -/
inductive FanDirection where
  | p0 | p1 | p2 | p3 | p4 | stop | swing
  deriving DecidableEq, Repr

instance : Labelled Mode where
  all := [.fan, .heat, .cool, .auto, .vent, .undefined, .slave, .dry]
  code
    | .fan => 0 | .heat => 1 | .cool => 2 | .auto => 3
    | .vent => 4 | .undefined => 5 | .slave => 6 | .dry => 7
  name
    | .fan => "fan" | .heat => "heat" | .cool => "cool" | .auto => "auto"
    | .vent => "vent" | .undefined => "undefined" | .slave => "slave" | .dry => "dry"

instance : Labelled FanSpeed where
  all := [.auto, .low, .lowMedium, .medium, .highMedium, .high]
  code
    | .auto => 0 | .low => 1 | .lowMedium => 2 | .medium => 3 | .highMedium => 4 | .high => 5
  name
    | .auto => "auto" | .low => "low" | .lowMedium => "low_medium" | .medium => "medium"
    | .highMedium => "high_medium" | .high => "high"

instance : Labelled FanDirection where
  all := [.p0, .p1, .p2, .p3, .p4, .stop, .swing]
  code
    | .p0 => 0 | .p1 => 1 | .p2 => 2 | .p3 => 3 | .p4 => 4 | .stop => 6 | .swing => 7
  name
    | .p0 => "p0" | .p1 => "p1" | .p2 => "p2" | .p3 => "p3" | .p4 => "p4"
    | .stop => "stop" | .swing => "swing"

theorem Mode.ofCode?_code (m : Mode) : Labelled.ofCode? (Labelled.code m) = some m := by
  cases m <;> rfl

theorem FanSpeed.ofCode?_code (v : FanSpeed) : Labelled.ofCode? (Labelled.code v) = some v := by
  cases v <;> rfl

theorem FanDirection.ofCode?_code (d : FanDirection) :
    Labelled.ofCode? (Labelled.code d) = some d := by
  cases d <;> rfl

end ClimateBus
