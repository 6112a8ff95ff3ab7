import ClimateBus.Gateway.Slot

/-!
Listings of units, errors and serial ports: aligned columns for people, JSON arrays for programs.
-/
namespace ClimateBus.Listing

inductive Format where
  | text | json
  deriving DecidableEq, Repr

def json {α : Type} (f : α → Json) (rows : List α) : String := (Json.arr (rows.map f)).pretty

def lines (ls : List String) : String := String.intercalate "\n" ls

def flags (fs : List (Bool × String)) : List String := (fs.filter Prod.fst).map Prod.snd

def noUnits : String := "No units present."

/-- One line of the listing of units; the last column is not padded. -/
def unitLine (id power mode setpoint room fan louvre flags : String) : String :=
  String.intercalate " " [
    Blank.padRight 6 id, Blank.padRight 4 power, Blank.padRight 10 mode, Blank.padLeft 6 setpoint,
    Blank.padLeft 6 room, Blank.padRight 12 fan, Blank.padRight 6 louvre, flags]

def unitHeader : String := unitLine "UNIT" "PWR" "MODE" "SET" "ROOM" "FAN" "LOUVRE" "FLAGS"

def orDash {α : Type} [Labelled α] (v : Option α) : String := (v.map Labelled.name).getD "-"

def unitRow (r : UnitReport) : String :=
  unitLine r.id (if r.power then "on" else "off")
    ((r.mode.map Labelled.name).getD ("?" ++ toString r.modeCode.toNat))
    r.setpoint.tenthsText r.room.tenthsText (orDash r.fanSpeed) (orDash r.fanDirection)
    (String.intercalate "," (flags [
      (r.filterWarning, "filter"), (r.defrost, "defrost"), (r.thermo, "thermo"),
      (r.pending, "pending")]))

def units (f : Format) (rs : List UnitReport) : String :=
  match f with
  | .json => json UnitReport.toJson rs
  | .text => if rs.isEmpty then noUnits else lines (unitHeader :: rs.map unitRow)

def errorRow (r : ErrorReport) : String :=
  if r.active then
    let kinds := flags [(r.error, "error"), (r.alarm, "alarm"), (r.warning, "warning")]
    let code := if r.code.isEmpty then "--" else r.code
    Blank.padRight 6 r.id ++ " " ++ String.intercalate "+" kinds ++ " code=" ++ code ++ "-"
      ++ Blank.zeroPadded 2 r.subcode.toNat ++ " unit=" ++ toString r.unitNumber.toNat
  else Blank.padRight 6 r.id ++ " ok"

def errors (f : Format) (rs : List ErrorReport) : String :=
  match f with
  | .json => json ErrorReport.toJson rs
  | .text => if rs.isEmpty then noUnits else lines (rs.map errorRow)

inductive Attachment where
  | usb (vendor product : UInt16) (name : Option String)
  | pci
  | bluetooth
  | unknown
  deriving DecidableEq, Repr

def Attachment.describe : Attachment → String
  | .usb vendor product name =>
    "usb " ++ Hex.lower 4 vendor.toNat ++ ":" ++ Hex.lower 4 product.toNat
      ++ (name.map (" " ++ ·)).getD ""
  | .pci => "pci"
  | .bluetooth => "bluetooth"
  | .unknown => "unknown"

structure Port where
  name : String
  attachment : Attachment
  deriving DecidableEq, Repr

def Port.toJson (p : Port) : Json :=
  .obj [("name", .str p.name), ("kind", .str p.attachment.describe)]

def ports (f : Format) (ps : List Port) : String :=
  match f with
  | .json => json Port.toJson ps
  | .text =>
    if ps.isEmpty then "No serial ports found."
    else lines (ps.map fun p => Blank.padRight 20 p.name ++ " " ++ p.attachment.describe)

end ClimateBus.Listing
