import Bindery.Context
import Bindery.Naming

/-!
# C prototypes

The C function that a view is emitted as: its output, its linkage symbol and its parameters.  The
header declares the prototype and the implementation defines it, so both sides of the contract
are this one value.

Beside it stand the argument lists that cross the boundary: those of the native call inside a
wrapper, and those that a trampoline hands to its managed callback.
-/

namespace Bindery

/-- A parameter as some surface declares it. -/
structure Declared where
  type : String
  name : String
deriving DecidableEq, Repr

/-- A parameter of a C or native declaration, type first. -/
def Declared.nativeText (d : Declared) : String :=
  d.type ++ " " ++ d.name

/-- A parameter of a managed declaration, name first. -/
def Declared.managedText (d : Declared) : String :=
  d.name ++ " " ++ d.type

/-- A value that is passed on: its kind and the name it is known by. -/
structure Argument where
  kind : TypeKind
  name : String
deriving DecidableEq, Repr

/-- A C function. -/
structure Prototype where
  output : String
  symbol : String
  parameters : List Declared
deriving DecidableEq, Repr

/-- The parameter list of a prototype. -/
def Prototype.inputText (p : Prototype) : String :=
  Text.commaJoin (p.parameters.map Declared.nativeText)

/-- A prototype as C writes it, without the semicolon. -/
def Prototype.text (p : Prototype) : String :=
  p.output ++ " " ++ p.symbol ++ "(" ++ p.inputText ++ ")"

namespace View

/-- The parameters of the method with their positions. -/
def parameters (v : View) : List (Parameter × Nat) :=
  v.method.parameters.zipIdx

/-- Whether the C function takes the object that it is called on. -/
def hasReceiver (v : View) : Bool :=
  !(v.method.isStatic || v.isConstructor)

end View

/-- The object that a C function is called on. -/
def receiver : Declared :=
  ⟨"void*", "ptr"⟩

namespace Context

/-- A parameter as the header declares it.  Nothing at all is no parameter. -/
def headerParameter (ctx : Context) (v : View) (p : Parameter × Nat) :
    Except Obstacle Declared :=
  match ctx.resolve? v p.1.type with
  | some k =>
    if k.isVoid then .error .nativeInput
    else .ok ⟨ctx.spell .header k, cleanName p.1.name p.2⟩
  | none => .error .nativeInput

/-- The parameters of the C function.  A signal that is connected takes only the object. -/
def headerParameters (ctx : Context) (v : View) : Except Obstacle (List Declared) := do
  let object := if v.hasReceiver then [receiver] else []
  if v.role == .signal then return object
  return object ++ (← v.parameters.mapM (ctx.headerParameter v))

/-- The output of the C function; connecting and disconnecting put out nothing. -/
def headerOutput (ctx : Context) (v : View) : Except Obstacle String := do
  if v.direction.isHook then return "void"
  let output ← ctx.spellOutput v .header
  return if output == "" then "void" else output

/-- The C function of a view. -/
def prototype (ctx : Context) (v : View) : Except Obstacle Prototype := do
  let symbol ← v.linkageSymbol
  let output ← ctx.headerOutput v
  let parameters ← ctx.headerParameters v
  return { output, symbol, parameters }

/-- A parameter as an argument of the native call. -/
def callArgument (ctx : Context) (v : View) (p : Parameter × Nat) : Except Obstacle Argument :=
  match ctx.resolve? v p.1.type with
  | some k => .ok ⟨k, cleanName p.1.name p.2⟩
  | none => .error .nativeInput

/-- The arguments of the native call inside a wrapper. -/
def callArguments (ctx : Context) (v : View) : Except Obstacle (List Argument) :=
  v.parameters.mapM (ctx.callArgument v)

/-- Whether a type text holds the marker of private signals. -/
def isMarked (ctx : Context) (text : String) : Bool :=
  let marker := ctx.config.framework.privateSignalMarker
  marker != "" && Text.contains text marker

/-- The parameters that are forwarded to managed handlers.  A parameter that only marks a signal
as private is dropped. -/
def hookParameters (ctx : Context) (v : View) : List (Parameter × Nat) :=
  v.parameters.filter fun p => !ctx.isMarked p.1.type

/-- A parameter as an argument of the managed callback. -/
def callbackArgument (ctx : Context) (v : View) (p : Parameter × Nat) :
    Except Obstacle Argument :=
  match ctx.resolve? v p.1.type with
  | some k =>
    if k.isVoid then .error .callbackInput else .ok ⟨k, cleanName p.1.name p.2⟩
  | none => .error .callbackInput

/-- The arguments that a trampoline passes to its managed callback, after the object and the name
of the method. -/
def callbackArguments (ctx : Context) (v : View) : Except Obstacle (List Argument) :=
  (ctx.hookParameters v).mapM (ctx.callbackArgument v)

end Context

/-! ## Parameters as the native header writes them -/

/-- Type tokens as written, as needed to name the exact type of a member function. -/
def nativeTypes (parameters : List (Parameter × Nat)) : List String :=
  parameters.map fun p => Text.trim p.1.type

/-- Parameters with their type tokens as written. -/
def nativeParameters (parameters : List (Parameter × Nat)) : List Declared :=
  parameters.map fun p => ⟨Text.trim p.1.type, cleanName p.1.name p.2⟩

end Bindery
