import ClimateBus.Console.Run
import Std.Time.Format

/-!
The program. It looks at the files that its command line is about, carries the command line out,
and then writes what was changed and prints what was said.
-/
namespace ClimateBus.Console

/-- The files that a run may look at, as they are now. Of the file for samples only its being there
counts. -/
def lookAt (settings : List String) (samples : Option String) : IO Files := do
  let here ← IO.currentDir
  let base := Path.resolve [] here.toString
  let mut files : Files := { here := base, contents := [] }
  for name in settings ++ samples.toList do
    let place := here / name
    let path := Path.resolve base name
    if let some above := place.parent then
      if ← above.isDir then files := { files with directories := path.dropLast :: files.directories }
      else if ← above.pathExists then
        files := { files with contents := (path.dropLast, .text "") :: files.contents }
    if ← place.isDir then files := { files with directories := path :: files.directories }
    else if (← place.pathExists) && !files.full.contains path then
      let content ←
        if samples = some name then pure (Content.text "")
        else
          let bytes ← IO.FS.readBinFile place
          pure ((String.fromUTF8? bytes).elim Content.bytes Content.text)
      files := { files with contents := (path, content) :: files.contents }
  return files

/-- Writes the settings and adds the samples that a run has put into files. -/
def writeBack (settings : List String) (samples : Option String) (before after : Files) :
    IO Unit := do
  for name in settings do
    let path := Path.resolve before.here name
    if after.lookup path != before.lookup path then
      if let some (.text s) := after.lookup path then
        let place := (← IO.currentDir) / name
        if let some above := place.parent then IO.FS.createDirAll above
        IO.FS.writeFile place s
  if let some name := samples then
    if let some (.text s) := after.lookup (Path.resolve before.here name) then
      let handle ← IO.FS.Handle.mk name .append
      handle.putStr s
      handle.flush

def stamp : IO String := do return toString (← Std.Time.PlainDateTime.now)

/-- Sleeps until a time in milliseconds. -/
partial def sleepUntil (at_ : Nat) : IO Unit := do
  let now ← IO.monoMsNow
  if now < at_ then
    IO.sleep (UInt32.ofNat (min (at_ - now) 60000))
    sleepUntil at_

/-- Goes on with a watch; `turns` samples have been taken since the time `start`. -/
partial def follow (w : Watch) (files : Files) (start turns : Nat) : IO UInt32 := do
  let next := start + 1000 * w.interval * turns
  match w.duration.map fun seconds => start + 1000 * seconds with
  | some last =>
    if last ≤ next then
      sleepUntil last
      return 0
  | none => pure ()
  sleepUntil next
  let (result, p) := ((w.turn (← stamp)).run).run { files }
  writeBack [] w.out files p.files
  IO.print (printed p.samples)
  (← IO.getStdout).flush
  IO.eprint (printed p.notices)
  match result with
  | .ok w => follow w files start (turns + 1)
  | .error cs =>
    IO.eprintln ("Error: " ++ cs.message)
    return cs.exitCode.value.toUInt32

def perform (words : List String) : IO UInt32 := do
  let start ← IO.monoMsNow
  let home : Home := {
    root := (← IO.getEnv "HOME").filter (!·.isEmpty)
    config := ← IO.getEnv "XDG_CONFIG_HOME"
    data := ← IO.getEnv "XDG_DATA_HOME" }
  let vars : Variables := {
    config := ← IO.getEnv "D3NET_CONFIG"
    port := ← IO.getEnv "D3NET_PORT" }
  let (settings, samples) := filesNamed home vars words
  let files ← lookAt settings samples
  let (ending, p) := run { home, vars, files, now := ← stamp } words
  writeBack settings samples files p.files
  IO.print (ending.output p)
  (← IO.getStdout).flush
  IO.eprint (ending.complaint p)
  match ending with
  | .watching w => follow w files start 1
  | _ => return ending.code.toUInt32

end ClimateBus.Console

def main (words : List String) : IO UInt32 := ClimateBus.Console.perform words
