/-!
Files as a program sees them: which names there are and what stands in them.

A path is resolved against a working directory, name by name. Every proper part of a file's path is
a directory.

Why settings could not be found, read or written is told by a `SettingsError`.
-/
namespace ClimateBus

inductive SettingsError where
  /-- The user has no home to keep settings in. -/
  | noDirectory
  /-- The file could not be read or written. -/
  | io (path detail : String)
  /-- The file does not hold settings. -/
  | parse (path detail : String)
  /-- The settings have no written form. -/
  | serialize (detail : String)
  deriving DecidableEq, Repr

def SettingsError.message : SettingsError → String
  | .noDirectory => "could not determine config directory"
  | .io path detail => s!"{path}: {detail}"
  | .parse path detail => s!"{path}: {detail}"
  | .serialize detail => s!"serialize: {detail}"

/-- The names on the way from the root to a file or directory. -/
abbrev Path := List String

namespace Path

/-- The names in a text; a slash more or less does not count. -/
def names (text : String) : List String := (text.splitOn "/").filter (· != "")

/-- Where a name leads from a directory. -/
def step (p : Path) (name : String) : Path :=
  if name = "." then p else if name = ".." then p.dropLast else p ++ [name]

/-- Where a text starts from in a working directory. -/
def origin (here : Path) (text : String) : Path := if text.startsWith "/" then [] else here

/-- The path that a text names in a working directory. -/
def resolve (here : Path) (text : String) : Path := (names text).foldl step (origin here text)

/-- The paths that a text leads through before its last name. -/
def onTheWay (here : Path) (text : String) : List Path :=
  (List.range (names text).length).map fun n => ((names text).take n).foldl step (origin here text)

/-- The text names a directory by the way it is written. -/
def endsOpen (text : String) : Bool := text.endsWith "/"

end Path

/-- What a file holds; a file of bytes that are no text is told apart. -/
inductive Content where
  | text (s : String)
  | bytes
  deriving DecidableEq, Repr

structure Files where
  here : Path
  contents : List (Path × Content)
  /-- Directories beside those above the files and the working directory. -/
  directories : List Path := []
  /-- Devices that take no data for want of space. -/
  full : List Path := [["dev", "full"]]
  deriving Repr

inductive FileError where
  | notFound
  | taken
  | notDirectory
  | isDirectory
  | noSpace
  | notText
  deriving DecidableEq, Repr

def FileError.message : FileError → String
  | .notFound => "No such file or directory (os error 2)"
  | .taken => "File exists (os error 17)"
  | .notDirectory => "Not a directory (os error 20)"
  | .isDirectory => "Is a directory (os error 21)"
  | .noSpace => "No space left on device (os error 28)"
  | .notText => "stream did not contain valid UTF-8"

namespace Files

variable (fs : Files)

def lookup (p : Path) : Option Content := fs.contents.lookup p

def isFile (p : Path) : Bool := (fs.lookup p).isSome || fs.full.contains p

/-- A directory is the working directory, one that is listed, or one above these or a file. -/
def isDirectory (p : Path) : Bool :=
  let roots := fs.here :: fs.directories ++ (fs.contents.map Prod.fst ++ fs.full).map List.dropLast
  roots.any p.isPrefixOf

/-- What keeps a text from leading to a directory or file, if anything does. -/
def obstacle? (text : String) : Option FileError :=
  let ahead := (Path.onTheWay fs.here text).findSome? fun p =>
    if fs.isDirectory p then none else some (if fs.isFile p then .notDirectory else .notFound)
  let last := if Path.endsOpen text && fs.isFile (Path.resolve fs.here text) then
    some .notDirectory else none
  ahead <|> last

/-- Opens the file for reading, or for writing if it need not be there. -/
def locate (text : String) (create : Bool) : Except FileError Path :=
  let p := Path.resolve fs.here text
  match fs.obstacle? text with
  | some e => .error e
  | none =>
    if fs.isDirectory p then .error .isDirectory
    else if fs.isFile p then .ok p
    else if !create then .error .notFound
    else if Path.endsOpen text then .error .isDirectory
    else .ok p

def read (text : String) : Except FileError String := do
  match fs.lookup (← fs.locate text false) with
  | some (.text s) => .ok s
  | _ => .error .notText

/-- Something has the name. -/
def has (text : String) : Bool :=
  let p := Path.resolve fs.here text
  (fs.obstacle? text).isNone && (fs.isFile p || fs.isDirectory p)

/-- Puts a text into a file, in place of what it held. -/
def put (p : Path) (s : String) : Except FileError Files :=
  if fs.full.contains p then .error .noSpace
  else .ok { fs with
    contents := (p, .text s) :: fs.contents.filter fun (q, _) => q != p }

/-- Makes the directories that a text leads through, if there are none yet. -/
def makeWay (text : String) : Except FileError Files :=
  let way := Path.onTheWay fs.here text
  if way.dropLast.any fs.isFile then .error .notDirectory
  else if way.getLast?.any fs.isFile then .error .taken
  else .ok { fs with directories := way ++ fs.directories }

/-- Writes a file, the directories on the way to it being there. -/
def write (text : String) (s : String) : Except FileError Files :=
  let p := Path.resolve fs.here text
  if Path.endsOpen text && fs.isFile p then .error .notDirectory
  else if fs.isDirectory p || Path.endsOpen text then .error .isDirectory
  else fs.put p s

/-- Adds a text to the end of a file, which is made if it is not there. -/
def append (text : String) (s : String) : Except FileError Files := do
  let p ← fs.locate text true
  match fs.lookup p with
  | some (.text old) => fs.put p (old ++ s)
  | _ => fs.put p s

end Files

end ClimateBus
