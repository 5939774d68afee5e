import Bindery.Emission.Contract
import Bindery.Emission.Implementation

/-!
# Generating modules

What a module becomes: its artifacts, which are a header, an implementation and a ledger of what
was skipped, and its managed contract.
-/

namespace Bindery

/-- Everything that is generated for a module. -/
structure Artifacts where
  module : String
  /-- The file stem of header and implementation. -/
  stem : String
  header : Header
  implementation : Implementation

namespace Artifacts

/-- The constructs that are skipped, in the order in which they were first met. -/
def ledger (a : Artifacts) : Ledger :=
  (Ledger.ofList a.header.skips).merge (Ledger.ofList a.implementation.skips)

/-- The marker of the first skipped construct of a method of a class: a question about finished
artifacts, which no run asks. -/
def marker? (a : Artifacts) (owner method : String) : Option String :=
  (a.ledger.entries.find? fun s => s.owner == owner && s.method == method).map fun s =>
    s.obstacle.marker

end Artifacts

namespace Context

/-- The classes of a module in emission order; a module without classes is unknown. -/
def emittedClasses (ctx : Context) (module : String) : Except GenerationError (List Class) :=
  if (ctx.registry.classesIn module).isEmpty then .error (.unknownModule module)
  else ctx.orderedClasses module

/-- The artifacts of a module. -/
def generate (ctx : Context) (module : String) : Except GenerationError Artifacts :=
  (ctx.emittedClasses module).map fun classes =>
    let stem := ctx.config.moduleStem module
    { module := module
      stem := stem
      header := ctx.header module classes
      implementation := ctx.implementation module stem classes }

/-- The managed contract of a module. -/
def contract (ctx : Context) (module : String) : Except GenerationError (List ContractEntry) :=
  (ctx.emittedClasses module).map fun classes =>
    classes.flatMap (ctx.classContract (ctx.config.isMain module))

/-- The managed declarations of a module. -/
def signatures (ctx : Context) (module : String) :
    Except GenerationError (List ManagedSignature) :=
  (ctx.contract module).map fun entries => entries.filterMap ContractEntry.signature

/-- The modules that a run is about, each once and in the order of their names: the ones that are
named, or all of them if none is. -/
def selectedModules (ctx : Context) (named : List String) : List String :=
  if named.isEmpty then ctx.registry.modules else Text.sorted named.eraseDups

/-- The artifacts of the selected modules, or the error of the first one that has any. -/
def generateSelected (ctx : Context) (named : List String) :
    Except GenerationError (List Artifacts) :=
  (ctx.selectedModules named).mapM ctx.generate

end Context

end Bindery
