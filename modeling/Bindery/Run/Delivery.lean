import Bindery.Files.Path
import Bindery.Run.Input

/-!
# Deliveries

What a run is going to write: for each module one delivery, which names its directory and gives
its files with their contents.  All deliveries of a run are settled before the first is made.
-/

namespace Bindery

/-- The files of one module, and the directory that has to be there for them. -/
structure Delivery where
  directory : String
  /-- Path and content of each file. -/
  files : List (String × String)
deriving DecidableEq, Repr

/-- The paths of a delivery. -/
def Delivery.paths (d : Delivery) : List String :=
  d.files.map Prod.fst

namespace Context

/-- The directory of a run: the one asked for, or the configured one. -/
def outputDirectory (ctx : Context) (asked : Option String) : String :=
  asked.getD ctx.config.outputDirectory

/-- The path of a module's header. -/
def headerPath (ctx : Context) (directory stem : String) : String :=
  Path.join directory (stem ++ "." ++ ctx.config.layout.headerExtension)

/-- The path of a module's implementation. -/
def sourcePath (ctx : Context) (directory stem : String) : String :=
  Path.join directory (stem ++ "." ++ ctx.config.layout.sourceExtension)

/-- The delivery of a module's artifacts: header first. -/
def delivery (ctx : Context) (directory : String) (a : Artifacts) : Delivery where
  directory := directory
  files := [
    (ctx.headerPath directory a.stem, a.header.text),
    (ctx.sourcePath directory a.stem, a.implementation.text)]

/-- The artifacts of the selected modules. -/
def artifacts (ctx : Context) (named : List String) : Except RunError (List Artifacts) :=
  (ctx.generateSelected named).mapError .generation

end Context

end Bindery
