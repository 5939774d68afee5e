import Bindery.Config.Record
import Bindery.Files.Path
import Bindery.Generator
import Bindery.Model.Record

/-!
# The input of a run

A run works on a configuration and a model, each read from a file.  How a file is read is a
parameter, so that everything here decides and nothing acts.  Whatever stops a run, here or later,
is a `RunError`.
-/

namespace Bindery

/-- Why a run stops. -/
inductive RunError where
  | configUnreadable (path : String)
  | configRefused (path : String) (error : ConfigError)
  | modelUnreadable (path : String)
  | modelRefused (path : String) (error : ModelError)
  | generation (error : GenerationError)
  | directoryNotMade (path : String)
  | fileNotWritten (path : String)
deriving DecidableEq, Repr

namespace RunError

/-- What is said of a path that could not be used.  One that holds a null character is refused
before the operating system sees it; what that says about any other is left out. -/
def pathFault (path : String) : String :=
  if Path.holdsNull path then ": file name contained an unexpected NUL byte" else ""

/-- The wording of a run error. -/
def message : RunError → String
  | configUnreadable path =>
    "Failed to load " ++ path ++ ": Failed to read config file" ++ pathFault path
  | configRefused path error => "Failed to load " ++ path ++ ": " ++ error.message
  | modelUnreadable path =>
    "Failed to load model " ++ path ++ ": Failed to read model file" ++ pathFault path
  | modelRefused path error => "Failed to load model " ++ path ++ ": " ++ error.message
  | generation error => error.message
  | directoryNotMade path => "Failed to create " ++ path ++ pathFault path
  | fileNotWritten path => "Failed to write " ++ path ++ pathFault path

/-- The code under which an error is documented, for those who look it up; `complain` prints only
the message and the advice. -/
def code? : RunError → Option String
  | generation error => some error.code
  | _ => none

/-- Advice on an error. -/
def help? : RunError → Option String
  | generation error => error.help?
  | _ => none

end RunError

/-- How the files of a run are read: the content of a path, if it can be read. -/
abbrev Reader := String → Option String

/-- The configuration of a path, or the default one without a path. -/
def Reader.config (read : Reader) : Option String → Except RunError Config
  | none => .ok {}
  | some path =>
    match read path with
    | none => .error (.configUnreadable path)
    | some content => (Config.parse content).mapError (.configRefused path)

/-- The model of a path. -/
def Reader.model (read : Reader) (path : String) : Except RunError Registry :=
  match read path with
  | none => .error (.modelUnreadable path)
  | some content => (Registry.parse content).mapError (.modelRefused path)

/-- What a run works on: configuration first, model second. -/
def Reader.context (read : Reader) (configPath : Option String) (modelPath : String) :
    Except RunError Context := do
  let config ← read.config configPath
  let registry ← read.model modelPath
  return { registry, config }

end Bindery
