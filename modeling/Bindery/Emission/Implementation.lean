import Bindery.Emission.Body
import Bindery.Emission.Header
import Bindery.Emission.Subclass

/-!
# Implementations

The generated implementation of a module: the prologue with its includes, and for each class its
generated subclass, the functions that fetch values of enumerations, and the wrapper bodies.  The
native headers to include are found by asking every part which classes it mentions.
-/

namespace Bindery

/-- The part of an implementation that belongs to one class. -/
structure ClassImplementation where
  name : String
  /-- Whether the class gets a generated subclass. -/
  isSubclassed : Bool
  subclass : Option Subclass
  getters : List ValueGetter
  bodies : List (Outcome Body)

/-- The part of an implementation that belongs to a class. -/
def Context.classImplementation (ctx : Context) (main : Bool) (c : Class) :
    ClassImplementation where
  name := c.name
  isSubclassed := ctx.generatesSubclass c
  subclass := if ctx.generatesSubclass c then ctx.subclass? main c else none
  getters := ctx.valueGetters c
  bodies := if ctx.supports c then ctx.bodies main c else []

/-- The lines that define a getter. -/
def ValueGetter.lines (g : ValueGetter) : List String :=
  functionLines g.prototypeText ("return " ++ g.owner ++ "::" ++ g.value)

namespace ClassImplementation

/-- The bodies that are defined. -/
def defined (i : ClassImplementation) : List Body :=
  writtenItems i.bodies

/-- The constructs that are skipped. -/
def skips (i : ClassImplementation) : List Skipped :=
  i.subclass.elim [] Subclass.skips ++ skippedEntries i.bodies

/-- The classes that are mentioned. -/
def mentioned (stringClass : String) (i : ClassImplementation) : List String :=
  (if i.isSubclassed then [i.name] else [])
    ++ i.subclass.elim [] (Subclass.mentioned stringClass)
    ++ i.getters.map ValueGetter.owner
    ++ i.defined.flatMap fun b => b.statement.mentioned stringClass

/-- The lines that belong to the class. -/
def lines (rootClass stringClass : String) (i : ClassImplementation) : List String :=
  i.subclass.elim [] (Subclass.lines stringClass)
    ++ i.getters.flatMap ValueGetter.lines
    ++ i.defined.flatMap (Body.lines rootClass stringClass)

end ClassImplementation

/-- A generated implementation. -/
structure Implementation where
  rootClass : String
  stringClass : String
  /-- The module's own header. -/
  ownHeader : String
  platformHeaders : List String
  /-- Native headers. -/
  includes : List String
  classes : List ClassImplementation
  /-- Whether the output of the meta-object compiler is included. -/
  isMain : Bool

namespace Implementation

/-- A line that includes a header of the bindings. -/
def localInclude (file : String) : String :=
  "#include \"" ++ file ++ "\""

/-- A line that includes a native header. -/
def nativeInclude (name : String) : String :=
  "#include <" ++ name ++ ">"

/-- The lines before the classes. -/
def prologue (i : Implementation) : List String :=
  "#define protected public" :: ""
    :: localInclude i.ownHeader :: i.platformHeaders.map localInclude
    ++ localInclude "_cgo_export.h" :: "" :: i.includes.map nativeInclude
    ++ [""]

/-- The lines of the classes. -/
def classLines (i : Implementation) : List String :=
  i.classes.flatMap (ClassImplementation.lines i.rootClass i.stringClass)

/-- The lines after the classes. -/
def epilogue (i : Implementation) : List String :=
  if i.isMain then [localInclude ("moc_" ++ i.ownHeader)] else []

/-- The text of an implementation. -/
def text (i : Implementation) : String :=
  Text.lines (i.prologue ++ i.classLines ++ i.epilogue)

/-- The constructs that are skipped. -/
def skips (i : Implementation) : List Skipped :=
  i.classes.flatMap ClassImplementation.skips

end Implementation

/-- The implementation of a module with these classes in this order, whose header has the file
stem `stem`. -/
def Context.implementation (ctx : Context) (module stem : String) (classes : List Class) :
    Implementation :=
  let main := ctx.config.isMain module
  let parts := classes.map (ctx.classImplementation main)
  { rootClass := ctx.config.framework.rootClass
    stringClass := ctx.stringClass
    ownHeader := stem ++ "." ++ ctx.config.layout.headerExtension
    platformHeaders := ctx.config.platformHeaders module
    includes := ctx.includes (parts.flatMap (ClassImplementation.mentioned ctx.stringClass))
    classes := parts
    isMain := main }

end Bindery
