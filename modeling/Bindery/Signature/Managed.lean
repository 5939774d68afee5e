import Bindery.Signature.Prototype

/-!
# Managed signatures

What the managed side of the bindings has to declare for each emitted wrapper and each callback.
These declarations are not part of any artifact: they are the contract that managed bindings are
written against.
-/

namespace Bindery

/-- A managed function or method. -/
structure ManagedSignature where
  /-- The class that the method belongs to; a function has none. -/
  receiver : Option String
  name : String
  parameters : List Declared
  /-- Empty if nothing is put out. -/
  output : String
deriving DecidableEq, Repr

/-- The type of a function with these parameters and this output. -/
def functionType (start : String) (parameters : List Declared) (output : String) : String :=
  start ++ "(" ++ Text.commaJoin (parameters.map Declared.managedText) ++ ")"
    ++ (if output == "" then "" else " " ++ output)

/-- A signature as the managed language writes it. -/
def ManagedSignature.text (s : ManagedSignature) : String :=
  functionType
    ("func " ++ s.receiver.elim "" (fun c => "(ptr *" ++ c ++ ") ") ++ s.name)
    s.parameters s.output

namespace Context

/-- The managed spelling of a kind where callers see it. -/
def managedType (ctx : Context) (byInterface : Bool) (k : TypeKind) : String :=
  k.managedSpelling ctx.stringClass byInterface

/-- The output of the managed method, empty for nothing at all. -/
def managedOutput (ctx : Context) (v : View) : Except Obstacle String := do
  if v.direction.isHook then return ""
  match ctx.resolve? v v.outputToken with
  | none => throw .managedOutput
  | some k =>
    let spelled := ctx.spell (ctx.outputSurface v k .managed) k
    return if spelled == ctx.spell .managed k then ctx.managedType false k else spelled

/-- A parameter of the managed method.  Nothing at all is no parameter. -/
def managedParameter (ctx : Context) (byInterface : Bool) (v : View) (p : Parameter × Nat) :
    Except Obstacle Declared :=
  match ctx.resolve? v p.1.type with
  | some k =>
    if k.isVoid then .error .managedInput
    else .ok ⟨ctx.managedType byInterface k, cleanName p.1.name p.2⟩
  | none => .error .managedInput

/-- A parameter of the managed callback. -/
def callbackParameter (ctx : Context) (v : View) (p : Parameter × Nat) :
    Except Obstacle Declared :=
  match ctx.resolve? v p.1.type with
  | some k => .ok ⟨ctx.spell .callback k, cleanName p.1.name p.2⟩
  | none => .error .callbackInput

/-- The output of a handler; only handlers of main-module classes have one. -/
def handlerOutput (ctx : Context) (v : View) : Except Obstacle String :=
  if ctx.isMainName v.owner then
    match ctx.resolve? v v.outputToken with
    | some k => .ok (if k.isVoid then "" else ctx.managedType false k)
    | none => .error .managedOutput
  else .ok ""

/-- The type of a handler that is connected to a signal or virtual method. -/
def handlerType (ctx : Context) (v : View) : Except Obstacle String := do
  let parameters ← (ctx.hookParameters v).mapM (ctx.managedParameter false v)
  let output ← ctx.handlerOutput v
  return functionType "func" parameters output

/-- The object and the name of the method, which every callback is told first. -/
def callbackLead : List Declared :=
  [⟨"unsafe.Pointer", "ptr"⟩, ⟨"*C.char", "ptrName"⟩]

/-- The parameters of the managed method: what a callback is told, the handler that is connected,
nothing for other hooks, or the method's own parameters. -/
def managedInput (ctx : Context) (v : View) : Except Obstacle (List Declared) := do
  if v.direction == .callback then
    return callbackLead ++ (← (ctx.hookParameters v).mapM (ctx.callbackParameter v))
  if v.isConnectable && v.direction == .connect then
    return [⟨← ctx.handlerType v, "f"⟩]
  if v.isConnectable && !(v.dispatch == .impure && v.direction == .plain) then
    return []
  v.parameters.mapM (ctx.managedParameter true v)

/-- The managed declaration of a view. -/
def managedSignature (ctx : Context) (v : View) : Except Obstacle ManagedSignature := do
  let name ← v.managedName
  let parameters ← ctx.managedInput v
  let output ← ctx.managedOutput v
  let receiver := if v.method.isStatic || v.role == .constructor then none else some v.owner
  return { receiver, name, parameters, output }

/-- The exported callback that a trampoline of the view calls. -/
def callbackSignature (ctx : Context) (v : View) : Except Obstacle ManagedSignature := do
  let v := v.toward .callback
  let name ← v.callbackName
  let parameters ← ctx.managedInput v
  let output ← ctx.managedOutput v
  return { receiver := none, name, parameters, output }

end Context

end Bindery
