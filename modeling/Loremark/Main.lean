import Loremark.Command.Run
import Loremark.Json.Write

/-!
# The program

The program looks at the files that its command line names, runs the command, and then does what
the command has decided: it changes files, prints, and tells what has been reported. It has no
connection to a store, so that every request fails.
-/

set_option autoImplicit false

namespace Loremark.Program

open Command

/-- What lies at a path, if anything does. -/
def entryAt? (path : String) : IO (Option Files.Entry) := do
  match ← (IO.FS.readBinFile path).toBaseIO with
  | .ok bytes => return some (.file bytes.toList)
  | .error (.inappropriateType _ 21 _) => return some .directory
  | .error _ => return none

/-- The paths on the way to a path, and the path itself. -/
def stages (path : Files.Path) : List Files.Path :=
  (List.range (path.parts.length + 1)).map fun count =>
    { path with parts := path.parts.take count }

/-- The files at paths, seen from a working directory. -/
def filesAt (here : Files.Place) (paths : List Files.Path) : IO Files := do
  let files : Files := { here }
  let entries ← (paths.flatMap stages).filterMapM fun path => do
    let place := path.parts.foldl Files.step (files.start path)
    return (← entryAt? (String.ofList path.shown)).map (place, ·)
  return { files with entries }

/-- The value of a variable of the environment; one that is not set is empty. -/
def setting (name : String) : IO Text := do
  return ((← IO.getEnv name).getD "").toList

/-- The variables that commands look at. -/
def environment : IO Environment := do
  return {
    config := {
      apiUrl := ← setting "SPOILERDOWN_API_URL"
      apiToken := ← setting "SPOILERDOWN_API_TOKEN"
      progress := ← setting "SPOILERDOWN_PROGRESS" }
    logDirectory := ← setting "SPOILERDOWN_LOG_DIR" }

/-- What a command works with. -/
def work (words : List Text) : IO Work := do
  let environment ← environment
  let here := (Files.Path.ofText (← setting "PWD")).parts
  let files ← filesAt here (pathsOf environment words)
  let width := (String.ofList (← setting "COLUMNS")).toNat?.getD 80
  return { environment, files, replies := [.failure "no connection".toList], width }

/-- Makes a change to the files. -/
def makeChange : Change → IO Unit
  | .makeDirectory path => IO.FS.createDirAll (String.ofList path.shown)
  | .write path bytes => IO.FS.writeBinFile (String.ofList path.shown) ⟨bytes.toArray⟩
  | .touch path => discard (IO.FS.Handle.mk (String.ofList path.shown) .append)

/-- Tells what has been reported: to the log file if there is one, and on the console. -/
def tell (done : Work) : IO Unit := do
  let time : Value := .int (← IO.monoMsNow)
  for change in done.changes do
    if let .touch path := change then
      let file ← IO.FS.Handle.mk (String.ofList path.shown) .append
      for event in done.events do
        for line in done.sinks.lines time event do
          file.putStrLn (String.ofList (Json.written (.dict line)))
  for event in done.events do
    if done.sinks.shows event then
      IO.eprintln (String.ofList (event.level.name ++ ' ' :: event.name))

/-- Tells on the console why a command has ended early, unless it has told so itself. -/
def tellEnding : Ending → IO Unit
  | .done | .failed => return
  | .misused cause => IO.eprintln (String.ofList cause.message)
  | .broken cause => IO.eprintln (String.ofList cause.message)

end Loremark.Program

open Loremark in
/-- Runs the command line, and ends with the number that tells how it went. -/
def main (words : List String) : IO UInt32 := do
  let words := words.map String.toList
  let (ending, done) := Command.run (← Program.work words) words
  done.changes.forM Program.makeChange
  IO.print (String.ofList done.output)
  Program.tell done
  Program.tellEnding ending
  return UInt32.ofNat ending.code
