import Bindery.Emission.Includes
import Bindery.Emission.Walk
import Bindery.Support

/-!
# Generated subclasses

A class with virtual methods or signals gets a generated subclass, whose members forward to
managed callbacks.  Outside the main module it derives from the class itself; in the main module
it is the class, and derives from its first base.

A member that forwards is a trampoline.  Signals and overridable virtual methods have one, also
those that are inherited; in the main module, so have the slots.  A method that has no trampoline
of its own still hides the inherited ones of its name and overload index.
-/

namespace Bindery

/-- A member of a generated subclass that calls a managed callback. -/
structure Trampoline where
  /-- The view that the callback belongs to. -/
  view : View
  /-- The managed callback that is called. -/
  callback : String
  /-- The generated subclass. -/
  subclass : String
  /-- The name of the member. -/
  member : String
  parameters : List Declared
  arguments : List Argument
  /-- What the callback returns, and the native spelling of its type. -/
  output : TypeKind
  outputType : String
deriving DecidableEq, Repr

namespace Trampoline

/-- Whether the member is const-qualified. -/
def isConst (t : Trampoline) : Bool :=
  t.view.method.isConst

/-- The object as it is passed to the callback. -/
def object (t : Trampoline) : String :=
  if t.isConst then "const_cast<" ++ t.subclass ++ "*>(this)" else "this"

/-- The call of the callback. -/
def call (t : Trampoline) : String :=
  t.callback ++ "("
    ++ Text.commaJoin (t.object :: ("\"" ++ t.view.name ++ "\"")
      :: t.arguments.map fun a => a.kind.nativeToCallback a.name)
    ++ ")"

/-- The statement of the member. -/
def statement (stringClass : String) (t : Trampoline) : String :=
  if t.output.isVoid then t.call ++ ";"
  else "return " ++ t.output.callbackToNative stringClass t.call ++ ";"

/-- The member as the implementation defines it. -/
def text (stringClass : String) (t : Trampoline) : String :=
  "\t" ++ (if t.output.isVoid then "void" else t.outputType) ++ " " ++ t.member ++ "("
    ++ Text.commaJoin (t.parameters.map Declared.nativeText) ++ ")"
    ++ (if t.isConst then " const" else "")
    ++ " \x7b " ++ t.statement stringClass ++ " \x7d"

/-- The classes that the member mentions. -/
def mentioned (stringClass : String) (t : Trampoline) : List String :=
  t.arguments.flatMap (fun a => a.kind.mentioned stringClass) ++ t.output.mentioned stringClass

end Trampoline

/-- A constructor of a generated subclass that hands its parameters to the base. -/
structure ForwardingConstructor where
  method : Method
  parameters : List Declared
deriving DecidableEq, Repr

/-- A signal that a main-module class declares. -/
structure SignalDeclaration where
  name : String
  parameters : List Declared
deriving DecidableEq, Repr

/-- The sections that only classes of the main module have. -/
structure ObjectSections where
  signals : List SignalDeclaration
  slots : List (Outcome Trampoline)

/-- A generated subclass. -/
structure Subclass where
  /-- The class that it is generated for. -/
  subject : String
  name : String
  base : String
  /-- Whether it has accessors for an object name. -/
  isNamed : Bool
  constructors : List ForwardingConstructor
  members : List (Outcome Trampoline)
  sections : Option ObjectSections

namespace Context

/-! ## Trampolines -/

/-- The trampoline of a view as the member `member` of the subclass of a class. -/
def trampoline (ctx : Context) (c : Class) (member : String) (v : View) :
    Except Obstacle Trampoline := do
  let callback ← (v.toward .callback).callbackName
  let arguments ← ctx.callbackArguments v
  match ctx.resolve? v v.outputToken with
  | none => throw .callbackOutput
  | some output =>
    return {
      view := v
      callback := callback
      subclass := ctx.subclassName c
      member := member
      parameters := nativeParameters (ctx.hookParameters v)
      arguments := arguments
      output := output
      outputType := Text.trim v.outputToken }

/-- The outcome of writing a trampoline; if there is none, its callback is what was skipped. -/
def trampolineOutcome (ctx : Context) (c : Class) (member : String) (v : View) :
    Outcome Trampoline :=
  match ctx.trampoline c member v with
  | .ok t => .written t
  | .error obstacle => .skipped (v.toward .callback) obstacle

/-- The walk after the trampoline of a view. -/
def addTrampoline (ctx : Context) (c : Class) (member : String) (v : View)
    (w : Walk Trampoline) : Walk Trampoline :=
  { w with outcomes := w.outcomes ++ [ctx.trampolineOutcome c member v] }

/-- Whether a method has a trampoline of its own. -/
def isHooked (m : Method) : Bool :=
  (m.role == .signal || m.isImpure) && m.returnsVoid && !m.role.isStructor

/-- The walk after a method that the class declares. -/
def overrideOwn (ctx : Context) (main : Bool) (c : Class) (w : Walk Trampoline) (m : Method) :
    Walk Trampoline :=
  let v := View.of m
  if main && m.role == .slot then w
  else if !isHooked m then w.settle v.key
  else match ctx.checkMethod c v with
    | .error obstacle => w.skip v obstacle
    | .ok () =>
      if m.role == .signal then ctx.addTrampoline c v.slotName v w
      else if w.isSettled v.key then w
      else if ctx.config.blocks m.name c.name then w.settle v.key
      else ctx.addTrampoline c m.name v (w.settle v.key)

/-- The walk after a method that the class inherits from `base`. -/
def overrideInherited (ctx : Context) (c base : Class) (w : Walk Trampoline) (m : Method) :
    Walk Trampoline :=
  let v := (View.of m).retarget c.name
  if !isInheritable m || !(ctx.checkMethod base v).isOk || w.isSettled v.key then w
  else if ctx.config.blocks m.name c.name then w.settle v.key
  else ctx.addTrampoline c m.name v (w.settle v.key)

/-- What became of the overriding members of a class, in the order of the subclass. -/
def overridingMembers (ctx : Context) (main : Bool) (c : Class) : List (Outcome Trampoline) :=
  let own := c.methods.foldl (ctx.overrideOwn main c) Walk.start
  ((ctx.supportedBases c).foldl (fun w base =>
    base.methods.foldl (ctx.overrideInherited c base) w) own).outcomes

/-- What became of the slots of a class of the main module. -/
def slotMembers (ctx : Context) (c : Class) : List (Outcome Trampoline) :=
  (c.methods.filter (·.role == .slot)).map fun m =>
    let v := (View.of m).nonVirtual
    match ctx.checkMethod c v with
    | .ok () => ctx.trampolineOutcome c m.name v
    | .error obstacle => .skipped v obstacle

/-! ## The other parts -/

/-- The constructors of the subclass: one for each constructor of the class that passes its
check. -/
def forwardingConstructors (ctx : Context) (c : Class) : List ForwardingConstructor :=
  if c.declaresVirtual then
    (c.methods.filter fun m =>
      m.role == .constructor && (ctx.checkMethod c (View.of m)).isOk).map fun m =>
        ⟨m, nativeParameters (View.of m).parameters⟩
  else []

/-- The signals of a class, as its subclass declares them in the main module. -/
def signalDeclarations (c : Class) : List SignalDeclaration :=
  (c.methods.filter (·.role == .signal)).map fun m =>
    ⟨m.name, nativeParameters (View.of m).parameters⟩

/-- Whether objects of the subclass get a name of their own: the class is virtual, has none by
inheritance, and may have one. -/
def namesObjects (ctx : Context) (c : Class) : Bool :=
  !ctx.registry.derivesFrom c.name ctx.config.framework.rootClass
    && ctx.config.wantsObjectName c.name
    && c.declaresVirtual

/-- The class that the subclass derives from; in the main module there may be none. -/
def subclassBase? (main : Bool) (c : Class) : Option String :=
  if main then c.firstBase? else some c.name

/-- The generated subclass of a class. -/
def subclass? (ctx : Context) (main : Bool) (c : Class) : Option Subclass :=
  (subclassBase? main c).map fun base => {
    subject := c.name
    name := ctx.subclassName c
    base := base
    isNamed := ctx.namesObjects c
    constructors := ctx.forwardingConstructors c
    members := ctx.overridingMembers main c
    sections := if main then some ⟨signalDeclarations c, ctx.slotMembers c⟩ else none }

end Context

namespace Subclass

/-- All trampolines that are written. -/
def trampolines (s : Subclass) : List Trampoline :=
  writtenItems s.members ++ s.sections.elim [] fun sections => writtenItems sections.slots

/-- The constructs that are skipped. -/
def skips (s : Subclass) : List Skipped :=
  skippedEntries s.members ++ s.sections.elim [] fun sections => skippedEntries sections.slots

/-- The classes that the subclass mentions. -/
def mentioned (stringClass : String) (s : Subclass) : List String :=
  s.subject :: (if s.sections.isSome then [s.base] else [])
    ++ (if s.isNamed then [stringClass] else [])
    ++ s.trampolines.flatMap (Trampoline.mentioned stringClass)

/-- The lines of the accessors for the object name. -/
def nameLines (stringClass : String) : List String := [
  "\t" ++ stringClass ++ " _objectName;",
  "\t" ++ stringClass ++ " objectNameAbs() const \x7b return this->_objectName; \x7d;",
  "\tvoid setObjectNameAbs(const " ++ stringClass
    ++ " &name) \x7b this->_objectName = name; \x7d;"]

/-- The line of a forwarding constructor. -/
def constructorLine (s : Subclass) (f : ForwardingConstructor) : String :=
  "\t" ++ s.name ++ "(" ++ Text.commaJoin (f.parameters.map Declared.nativeText) ++ ") : " ++ s.base
    ++ "(" ++ Text.commaJoin (f.parameters.map Declared.name) ++ ") \x7b\x7d"

/-- The line of a signal. -/
def signalLine (d : SignalDeclaration) : String :=
  "\tvoid " ++ d.name ++ "(" ++ Text.commaJoin (d.parameters.map Declared.nativeText) ++ ");"

/-- The lines of the sections of a main-module class. -/
def sectionLines (stringClass : String) (sections : ObjectSections) : List String :=
  "signals:" :: sections.signals.map signalLine
    ++ "public slots:" :: (writtenItems sections.slots).map (Trampoline.text stringClass)

/-- The lines of a subclass. -/
def lines (stringClass : String) (s : Subclass) : List String :=
  ("class " ++ s.name ++ ": public " ++ s.base ++ " \x7b")
    :: (if s.sections.isSome then ["Q_OBJECT"] else [])
    ++ "public:" :: (if s.isNamed then nameLines stringClass else [])
    ++ s.constructors.map s.constructorLine
    ++ (writtenItems s.members).map (Trampoline.text stringClass)
    ++ s.sections.elim [] (sectionLines stringClass)
    ++ ["\x7d;", ""]

end Subclass

end Bindery
