import ClimateBus.Settings.Basic
import ClimateBus.Settings.Files

/-!
Where settings are kept, and how they are loaded and saved.
-/
namespace ClimateBus

/-- The user's directories, as far as they are known. -/
structure Home where
  root : Option String
  /-- The directory for settings, if it is another than the usual one. -/
  config : Option String := none
  /-- The directory for data, if it is another than the usual one. -/
  data : Option String := none

namespace Home

/-- A directory named by the user counts only if it is named from the root. -/
def orUnder (h : Home) (named : Option String) (usual : String) : Option String :=
  h.root.map fun root => (named.filter (·.startsWith "/")).getD (root ++ "/" ++ usual)

def settingsFile (h : Home) : Except SettingsError String :=
  match h.orUnder h.config ".config" with
  | some dir => .ok (dir ++ "/d3net-bridge/config.toml")
  | none => .error .noDirectory

def logDirectory (h : Home) : Option String :=
  (h.orUnder h.data ".local/share").map (· ++ "/d3net-bridge/logs")

end Home

/-- Where the files of messages go, if there are to be any. -/
def LoggingSettings.fileDirectory (l : LoggingSettings) (h : Home) : Option String :=
  if l.file then l.directory <|> h.logDirectory else none

namespace Settings

variable [Toml.Library]

/-- The complaint about a document that does not hold settings. -/
def parseFailure : String := "TOML parse error"

/-- The complaint about a number that is too large to be written. -/
def rangeFailure : String := "out-of-range value for u64 type"

/-- Loads settings from a file, which must be there. -/
def loadFrom (fs : Files) (path : String) : Except SettingsError Settings :=
  match fs.read path with
  | .error e => .error (.io path e.message)
  | .ok text =>
    match ofToml? text with
    | some s => .ok s
    | none => .error (.parse path parseFailure)

/-- Loads the settings of a user, or the defaults if there are none. -/
def load (fs : Files) (h : Home) : Except SettingsError Settings := do
  let path ← h.settingsFile
  if fs.has path then loadFrom fs path else .ok {}

def render (s : Settings) : Except SettingsError String :=
  match s.toToml? with
  | some text => .ok text
  | none => .error (.serialize rangeFailure)

/-- Saves settings to a file, making the directories on the way to it first. -/
def saveTo (s : Settings) (fs : Files) (path : String) : Except SettingsError Files := do
  let onPath {α : Type} : Except FileError α → Except SettingsError α :=
    Except.mapError fun e => .io path e.message
  let fs ← onPath (fs.makeWay path)
  onPath (fs.write path (← s.render))

end Settings

end ClimateBus
