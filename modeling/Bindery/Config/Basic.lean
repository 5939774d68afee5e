import Bindery.Text.Quoted
import Bindery.Text.Basic
import Bindery.Unicode.Case

/-!
# Configuration

What the user may decide about a generation run: the conventions of the host framework, what is
left out, which type aliases stand for primitives, and how the artifacts are laid out.  Everything
has a default, so that the empty configuration is a valid one.

The questions that the generator asks of a configuration are functions here; nothing else looks
into the lists.
-/

namespace Bindery

/-- Names and conventions of the host framework. -/
structure Framework where
  /-- The module whose classes take part in the framework's subclassing and signals. -/
  mainModule : String := "main"
  /-- File stem of the main module's artifacts. -/
  mainStem : String := "moc"
  /-- Root of the framework's object hierarchy. -/
  rootClass : String := "QObject"
  /-- What the name of every native class begins with. -/
  namespacePrefix : String := "Q"
  /-- What the names of pure namespaces begin with; they have no header of their own. -/
  reservedPrefix : String := "Qt"
  /-- The native string class, which crosses the boundary as characters. -/
  stringClass : String := "QString"
  /-- Parameter type that marks a signal as private. -/
  privateSignalMarker : String := "QPrivateSignal"
  /-- What is stripped from a module's name to form its file stem. -/
  modulePrefix : String := "Qt"
  /-- What the include guards of headers begin with. -/
  guardPrefix : String := "GO"
deriving DecidableEq, Repr

/-- A virtual method that gets no override in one class. -/
structure BlockedVirtual where
  method : String
  owner : String
deriving DecidableEq, Repr

/-- What is left out. -/
structure Exclusions where
  /-- Classes that are never emitted. -/
  classes : List String := []
  /-- Methods that are never emitted, as `Class::name` or by a bare name. -/
  methods : List String := []
  /-- Fragments of the names of classes that get no generated subclass. -/
  noSubclass : List String := ["tomic"]
  /-- Classes whose generated subclass has no object name. -/
  noObjectName : List String := ["QMetaType"]
  blockedVirtuals : List BlockedVirtual :=
    [⟨"disconnectNotify", "QObject"⟩, ⟨"childEvent", "QObject"⟩]
deriving DecidableEq, Repr

/-- A header that the implementations of some modules include in addition to their own. -/
structure PlatformInclude where
  /-- Part of the names of these modules. -/
  fragment : String
  /-- What follows the file stem in the header's name. -/
  suffix : String
deriving DecidableEq, Repr

/-- Where and under which names artifacts are written. -/
structure Layout where
  /-- The directory; the current one if there is none. -/
  directory : Option String := none
  headerExtension : String := "h"
  sourceExtension : String := "cpp"
  platformIncludes : List PlatformInclude := [⟨"droid", "_android"⟩]
deriving DecidableEq, Repr

/-- The aliases that are known unless the configuration lists its own. -/
def defaultAliases : List (String × String) := [
  ("qreal", "double"),
  ("qint8", "signed char"),
  ("quint8", "unsigned char"),
  ("qint16", "short"),
  ("quint16", "unsigned short"),
  ("qint32", "int"),
  ("quint32", "unsigned int"),
  ("qint64", "long long"),
  ("quint64", "unsigned long long"),
  ("qlonglong", "long long"),
  ("qulonglong", "unsigned long long"),
  ("uint", "unsigned int"),
  ("ushort", "unsigned short"),
  ("ulong", "unsigned long"),
  ("uchar", "unsigned char")]

/-- A whole configuration. -/
structure Config where
  framework : Framework := {}
  exclusions : Exclusions := {}
  /-- Names that stand for a primitive. -/
  aliases : List (String × String) := defaultAliases
  layout : Layout := {}
deriving DecidableEq, Repr

/-- Why a text is no configuration. -/
inductive ConfigError where
  /-- The text is no TOML, or its TOML is no configuration. -/
  | malformed
  | emptyMainModule
  | emptyGuardPrefix
  | incompleteBlockedVirtual (entry : BlockedVirtual)
deriving DecidableEq, Repr

/-- A blocked virtual as a message quotes it. -/
def BlockedVirtual.quoted (b : BlockedVirtual) : String :=
  "BlockedVirtual \x7b function: " ++ Text.quoted b.method ++ ", class: " ++ Text.quoted b.owner
    ++ " \x7d"

/-- The wording of a configuration error. -/
def ConfigError.message : ConfigError → String
  | .malformed => "Failed to parse TOML config"
  | .emptyMainModule => "Config validation error: framework.main_module is empty"
  | .emptyGuardPrefix => "Config validation error: framework.guard_prefix is empty"
  | .incompleteBlockedVirtual entry =>
    "Config validation error: incomplete blocked virtual entry: " ++ entry.quoted

namespace Config

instance : Inhabited Config := ⟨{}⟩

/-- The configuration, if it is usable: the main module and the include guards have names, and
every blocked virtual names a method and a class. -/
def validate (c : Config) : Except ConfigError Config :=
  if c.framework.mainModule == "" then .error .emptyMainModule
  else if c.framework.guardPrefix == "" then .error .emptyGuardPrefix
  else match c.exclusions.blockedVirtuals.find? fun b => b.method == "" || b.owner == "" with
    | some entry => .error (.incompleteBlockedVirtual entry)
    | none => .ok c

/-! ## Questions -/

/-- Whether a module is the main one. -/
def isMain (c : Config) (module : String) : Bool :=
  module == c.framework.mainModule

/-- Whether a method gets no override in a class. -/
def blocks (c : Config) (method owner : String) : Bool :=
  c.exclusions.blockedVirtuals.any fun b => b.method == method && b.owner == owner

/-- Whether a class is never emitted. -/
def excludesClass (c : Config) (name : String) : Bool :=
  c.exclusions.classes.contains name

/-- Whether an entry of the excluded methods means a method: with `::` in it, it names class and
method, otherwise the method in every class. -/
def exclusionMatches (entry owner name : String) : Bool :=
  match Text.cutFirst? "::" entry with
  | some (c, n) => c == owner && n == name
  | none => entry == name

/-- Whether a method is never emitted. -/
def excludesMethod (c : Config) (owner name : String) : Bool :=
  c.exclusions.methods.any (exclusionMatches · owner name)

/-- Whether a class may get a generated subclass. -/
def allowsSubclass (c : Config) (name : String) : Bool :=
  !c.exclusions.noSubclass.any (Text.contains name)

/-- Whether the generated subclass of a class may have an object name. -/
def wantsObjectName (c : Config) (name : String) : Bool :=
  !c.exclusions.noObjectName.contains name

/-- What an alias stands for. -/
def alias? (c : Config) (name : String) : Option String :=
  c.aliases.lookup name

/-- The name of a module without the common start of module names, unless nothing is left. -/
def strippedModule (c : Config) (module : String) : String :=
  match Text.after? c.framework.modulePrefix module with
  | some rest => if rest == "" then module else rest
  | none => module

/-- The file stem of a module's artifacts. -/
def moduleStem (c : Config) (module : String) : String :=
  if c.isMain module then c.framework.mainStem
  else Unicode.lowerText (c.strippedModule module)

/-- The headers that the implementation of a module includes right after its own, in configuration
order. -/
def platformHeaders (c : Config) (module : String) : List String :=
  (c.layout.platformIncludes.filter fun p =>
    p.fragment != "" && Text.contains module p.fragment).map fun p =>
      c.moduleStem module ++ p.suffix ++ "." ++ c.layout.headerExtension

/-- The directory that artifacts are written to. -/
def outputDirectory (c : Config) : String :=
  c.layout.directory.getD "."

end Config

end Bindery
