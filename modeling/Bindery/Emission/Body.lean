import Bindery.Emission.Includes
import Bindery.Emission.Walk
import Bindery.Support

/-!
# Wrapper bodies

The implementation defines a body for every wrapper that the header declares.  A body has one
statement: it connects or disconnects the slot of the generated subclass, or it calls the native
method with its arguments converted and returns the result converted back.

The walk over the methods of a class claims linkage symbols in the order of the header, so that a
view that collides there collides here.
-/

namespace Bindery

/-- A statement that connects a signal to its slot in the generated subclass, or disconnects
it. -/
structure HookStatement where
  connects : Bool
  /-- The class that declares the signal. -/
  owner : String
  signal : String
  /-- Type tokens of the signal's parameters. -/
  signalTypes : List String
  subclass : String
  slot : String
  /-- Type tokens of the slot's parameters. -/
  slotTypes : List String
deriving DecidableEq, Repr

/-- What a wrapper calls. -/
inductive Callee where
  /-- Makes an object of a class. -/
  | construct (name : String)
  /-- Destroys the object, seen as one of a class. -/
  | destroy (seenAs : String)
  /-- A static method. -/
  | onClass (owner method : String)
  /-- A method of the object, seen as one of a class.  A qualified call is not dispatched. -/
  | onObject (seenAs : String) (qualifier : Option String) (method : String)
deriving DecidableEq, Repr

/-- A statement that calls the native method. -/
structure CallStatement where
  callee : Callee
  arguments : List Argument
  output : TypeKind
deriving DecidableEq, Repr

/-- The statement of a body. -/
inductive Statement where
  | hook (h : HookStatement)
  | call (c : CallStatement)
deriving DecidableEq, Repr

/-- A wrapper that the implementation defines. -/
structure Body where
  view : View
  prototype : Prototype
  statement : Statement
deriving DecidableEq, Repr

/-! ## Text -/

/-- The address of a member function, cast to its exact type. -/
def memberAddress (owner member : String) (types : List String) : String :=
  "static_cast<void (" ++ owner ++ "::*)(" ++ Text.commaJoin types ++ ")>(&" ++ owner ++ "::"
    ++ member ++ ")"

/-- The object, seen as one of a class. -/
def seenAs (name : String) : String :=
  "static_cast<" ++ name ++ "*>(ptr)"

/-- The text of a hook, without the semicolon. -/
def HookStatement.text (rootClass : String) (h : HookStatement) : String :=
  rootClass ++ "::" ++ (if h.connects then "connect" else "disconnect") ++ "("
    ++ Text.commaJoin [
      seenAs h.owner,
      memberAddress h.owner h.signal h.signalTypes,
      seenAs h.subclass,
      memberAddress h.subclass h.slot h.slotTypes]
    ++ ")"

/-- The arguments of a call, converted. -/
def CallStatement.argumentText (stringClass : String) (c : CallStatement) : String :=
  Text.commaJoin (c.arguments.map fun a => a.kind.headerToNative stringClass a.name)

/-- A call whose result is returned, unless there is none. -/
def CallStatement.returning (c : CallStatement) (call : String) : String :=
  if c.output.isVoid then call else "return " ++ c.output.nativeToHeader call

/-- The text of a call, without the semicolon. -/
def CallStatement.text (stringClass : String) (c : CallStatement) : String :=
  let arguments := "(" ++ c.argumentText stringClass ++ ")"
  match c.callee with
  | .construct name => "return new " ++ name ++ arguments
  | .destroy name => "delete " ++ seenAs name
  | .onClass owner method => c.returning (owner ++ "::" ++ method ++ arguments)
  | .onObject name qualifier method =>
    c.returning (seenAs name ++ "->" ++ qualifier.elim "" (· ++ "::") ++ method ++ arguments)

/-- The text of a statement, without the semicolon. -/
def Statement.text (rootClass stringClass : String) : Statement → String
  | .hook h => h.text rootClass
  | .call c => c.text stringClass

/-- The lines of a function with one statement. -/
def functionLines (prototype statement : String) : List String :=
  [prototype, "\x7b", "\t" ++ statement ++ ";", "\x7d", ""]

/-- The lines of a body. -/
def Body.lines (rootClass stringClass : String) (b : Body) : List String :=
  functionLines b.prototype.text (b.statement.text rootClass stringClass)

/-! ## Mentioned classes -/

/-- The class that a callee mentions. -/
def Callee.mentioned : Callee → List String
  | .construct _ => []
  | .destroy name => [name]
  | .onClass owner _ => [owner]
  | .onObject name _ _ => [name]

/-- The classes that a statement mentions. -/
def Statement.mentioned (stringClass : String) : Statement → List String
  | .hook h => [h.owner]
  | .call c =>
    c.arguments.flatMap (fun a => a.kind.mentioned stringClass)
      ++ c.output.mentioned stringClass ++ c.callee.mentioned

namespace Context

/-! ## Statements -/

/-- The statement that connects or disconnects the signal of a view. -/
def hookStatement (ctx : Context) (c : Class) (v : View) : HookStatement where
  connects := v.direction == .connect
  owner := v.method.owner
  signal := v.name
  signalTypes := nativeTypes v.parameters
  subclass := ctx.subclassName c
  slot := v.slotName
  slotTypes := nativeTypes (ctx.hookParameters v)

/-- The name of the native method with its template argument. -/
def nativeName (v : View) : String :=
  v.name ++ v.instantiation.elim "" fun i => "<" ++ i.type ++ ">"

/-- The class that a constructor makes objects of: the generated subclass, where it has
constructors. -/
def constructedClass (ctx : Context) (c : Class) : String :=
  if ctx.generatesSubclass c && c.declaresVirtual then ctx.subclassName c else c.name

/-- What the wrapper of a view calls. -/
def callee (ctx : Context) (c : Class) (v : View) (cast : String) (qualifier : Option String) :
    Callee :=
  match v.role with
  | .constructor => .construct (ctx.constructedClass c)
  | .destructor => .destroy cast
  | _ =>
    if v.method.isStatic then .onClass v.method.owner (nativeName v)
    else .onObject cast qualifier (nativeName v)

/-- The statement that calls the native method of a view. -/
def callStatement (ctx : Context) (c : Class) (v : View) (cast : String)
    (qualifier : Option String) : Except Obstacle CallStatement := do
  let arguments ← ctx.callArguments v
  match ctx.resolve? v v.outputToken with
  | some output => return { callee := ctx.callee c v cast qualifier, arguments, output }
  | none => throw .nativeOutput

/-- The statement of a view. -/
def statement (ctx : Context) (c : Class) (v : View) (cast : String)
    (qualifier : Option String) : Except Obstacle Statement :=
  if v.direction.isHook then .ok (.hook (ctx.hookStatement c v))
  else (ctx.callStatement c v cast qualifier).map .call

/-- The body of a view, in the light of the symbols that are taken.  The object is seen as one of
the class `cast`; `qualifier` names the class whose method is called without dispatch. -/
def body (ctx : Context) (taken : List String) (c : Class) (v : View) (cast : String)
    (qualifier : Option String) : Except Obstacle Body := do
  ctx.checkMethod c v
  let symbol ← v.linkageSymbol
  if taken.contains symbol then throw .collision
  let prototype ← ctx.prototype v
  return ⟨v, prototype, ← ctx.statement c v cast qualifier⟩

/-! ## The walk -/

/-- An attempt to define a view, and whether it was defined. -/
def define (ctx : Context) (c : Class) (v : View) (cast : String) (qualifier : Option String)
    (w : Walk Body) : Walk Body × Bool :=
  match ctx.body w.symbols c v cast qualifier with
  | .ok b => (w.claim b.prototype.symbol b, true)
  | .error obstacle => (w.skip v obstacle, false)

/-- An attempt to define a view of a class, which settles its key if it succeeds. -/
def defineSettling (ctx : Context) (c : Class) (w : Walk Body) (v : View) : Walk Body :=
  match ctx.define c v c.name none w with
  | (w, true) => w.settle v.key
  | (w, false) => w

/-- The walk after the views of a signal. -/
def defineSignal (ctx : Context) (c : Class) (w : Walk Body) (m : Method) : Walk Body :=
  let v := View.of m
  let w := [Direction.connect, .disconnect].foldl
    (fun w direction => ctx.defineSettling c w (v.toward direction)) w
  if ctx.isPrivateSignal m then w else (ctx.define c v.plain c.name none w).1

/-- The walk after a method that is neither a signal nor a member template. -/
def defineMember (ctx : Context) (main : Bool) (c : Class) (w : Walk Body) (m : Method) :
    Walk Body :=
  let isVirtual := m.isImpure && !m.role.isStructor
  let v := if isVirtual then (View.of m).plain else View.of m
  let isOverridden := isVirtual && m.returnsVoid && !main && !ctx.config.blocks m.name c.name
  let cast := if isOverridden && ctx.generatesSubclass c then ctx.subclassName c else c.name
  match ctx.define c v cast none w with
  | (w, false) => w
  | (w, true) =>
    let w := w.settle v.key
    if isOverridden then (ctx.define c v.forwardDefault c.name (some c.name) w).1 else w

/-- The walk after the views of a method that the class declares. -/
def defineOwn (ctx : Context) (main : Bool) (c : Class) (w : Walk Body) (m : Method) : Walk Body :=
  if m.role == .signal then ctx.defineSignal c w m
  else if m.isGeneric then
    m.instantiations.foldl
      (fun w i => (ctx.define c ((View.of m).instantiate i) c.name none w).1) w
  else if w.isSettled (View.of m).key then w
  else ctx.defineMember main c w m

/-- The walk after the views of a method that the class inherits from `base`.  A main-module class
overrides the method itself, so there the default names the base that declares it. -/
def defineInherited (ctx : Context) (main : Bool) (c base : Class) (w : Walk Body) (m : Method) :
    Walk Body :=
  let v := (View.of m).plain.retarget c.name
  if !isInheritable m || w.isSettled v.key then w
  else match ctx.checkMethod base v with
    | .error obstacle => w.skip v obstacle
    | .ok () =>
      let w := w.settle v.key
      if ctx.config.blocks m.name c.name then w
      else
        let cast := if !main && ctx.generatesSubclass c then ctx.subclassName c else c.name
        let w := (ctx.define base v cast none w).1
        let owner := if main then base.name else c.name
        (ctx.define base v.forwardDefault owner (some owner) w).1

/-- What became of the views of a class, in the order of the implementation. -/
def bodies (ctx : Context) (main : Bool) (c : Class) : List (Outcome Body) :=
  let own := c.methods.foldl (ctx.defineOwn main c) Walk.start
  ((ctx.supportedBases c).foldl (fun w base =>
    base.methods.foldl (ctx.defineInherited main c base) w) own).outcomes

end Context

end Bindery
