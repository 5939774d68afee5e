import Bindery.CommandLine.Run

/-!
# The program

The only module with effects: it reads the files that a command names, lets the command be
planned, and carries the plan out on disk.  Messages about failures go to standard error.

A few definitions are not for the program but for those who use its parts as a library, and answer
questions about a token, a result or a store: `Context.spellInput` with `Obstacle.input`,
`Artifacts.marker?`, `Ledger.size`, `RunError.code?`, `FileStore.changedSince`, `Registry.contains`
and `Registry.empty`.
-/

namespace Bindery.CommandLine

/-- The files that a command reads. -/
def inputPaths : Command → List String
  | .generate model config _ _ | .check model config _ | .signatures model config _ =>
    model :: config.toList
  | .showHelp | .showVersion => []

/-- The content of a file, if it can be read. -/
def readPath (path : String) : IO (Option String) := do
  try
    return some (← IO.FS.readFile path)
  catch _ =>
    return none

/-- The contents of files by path. -/
def readPaths (paths : List String) : IO Reader := do
  let contents ← paths.mapM fun path => return (path, ← readPath path)
  return fun path => (contents.lookup path).join

/-- Carries out one delivery and reports its files; says what went wrong, if anything did. -/
def carryOut (d : Delivery) : IO (Option RunError) := do
  try
    IO.FS.createDirAll (if d.directory == "" then "." else d.directory)
  catch _ =>
    return some (.directoryNotMade d.directory)
  for (path, content) in d.files do
    try
      IO.FS.writeFile path content
    catch _ =>
      return some (.fileNotWritten path)
  for path in d.paths do
    IO.println (writtenLine path)
  return none

/-- Tells why a run stopped. -/
def complain (error : RunError) : IO UInt32 := do
  IO.eprintln error.message
  if let some help := error.help? then
    IO.eprintln help
  return 1

/-- Does what the arguments ask for, and gives the exit code. -/
def perform (args : List String) : IO UInt32 := do
  let some command := Command.ofArguments? args
    | IO.eprintln (Text.lines helpLines)
      return 2
  match command.plan (← readPaths (inputPaths command)) with
  | .error error => complain error
  | .ok plan =>
    for line in plan.lines do
      IO.println line
    for d in plan.deliveries do
      if let some error ← carryOut d then
        return ← complain error
    return 0

end Bindery.CommandLine

/-- The program. -/
def main (args : List String) : IO UInt32 :=
  Bindery.CommandLine.perform args
