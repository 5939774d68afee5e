import Bindery.Emission.Walk
import Bindery.Order
import Bindery.Signature.Managed
import Bindery.Support

/-!
# The managed contract

The list of managed declarations that belong to a module: one for each wrapper, a pair to connect
and disconnect for each overridable virtual method, and the exported callback of each trampoline.

The walk claims linkage symbols as the header does.  A view that claims its symbol is listed even
if it has no managed spelling; such a view has an entry without a signature.
-/

namespace Bindery

/-- What an entry of the contract is for. -/
inductive ContractRole where
  /-- The managed method over a C wrapper. -/
  | wrapper
  /-- A method that connects or disconnects a handler without a C wrapper of its own. -/
  | hook
  /-- The callback of a trampoline. -/
  | callback
deriving DecidableEq, Repr

/-- An entry of the contract. -/
structure ContractEntry where
  role : ContractRole
  view : View
  signature : Option ManagedSignature
deriving DecidableEq, Repr

namespace Context

/-- The claim of a view on its linkage symbol, in the light of the symbols that are taken. -/
def symbolClaim (ctx : Context) (taken : List String) (c : Class) (v : View) :
    Except Obstacle String := do
  ctx.checkMethod c v
  let symbol ← v.linkageSymbol
  if taken.contains symbol then throw .collision
  return symbol

/-- An attempt to list the managed method over the wrapper of a view, and whether the wrapper
exists. -/
def listWrapper (ctx : Context) (c : Class) (v : View) (w : Walk ContractEntry) :
    Walk ContractEntry × Bool :=
  match ctx.symbolClaim w.symbols c v with
  | .ok symbol => (w.claim symbol ⟨.wrapper, v, (ctx.managedSignature v).toOption⟩, true)
  | .error obstacle => (w.skip v obstacle, false)

/-- The walk after the pair that connects and disconnects handlers of a view. -/
def listHooks (ctx : Context) (v : View) (w : Walk ContractEntry) : Walk ContractEntry :=
  [Direction.connect, .disconnect].foldl
    (fun w direction =>
      let v := v.toward direction
      w.write ⟨.hook, v, (ctx.managedSignature v).toOption⟩)
    w

/-- The walk after the callback of a view. -/
def listCallback (ctx : Context) (v : View) (w : Walk ContractEntry) : Walk ContractEntry :=
  w.write ⟨.callback, v, (ctx.callbackSignature v).toOption⟩

/-- The walk after the entries of a signal. -/
def listSignal (ctx : Context) (c : Class) (w : Walk ContractEntry) (m : Method) :
    Walk ContractEntry :=
  let v := View.of m
  let (w, connects) := ctx.listWrapper c (v.toward .connect) w
  let (w, disconnects) := ctx.listWrapper c (v.toward .disconnect) w
  let w := if connects || disconnects then w.settle v.key else w
  let w := if ctx.isPrivateSignal m then w else (ctx.listWrapper c v.plain w).1
  if ctx.generatesSubclass c && m.returnsVoid && (ctx.checkMethod c v).isOk then
    ctx.listCallback v w
  else w

/-- The walk after the entries of a virtual method with an implementation. -/
def listVirtual (ctx : Context) (main : Bool) (c : Class) (w : Walk ContractEntry) (m : Method) :
    Walk ContractEntry :=
  let v := (View.of m).plain
  if w.isSettled v.key then w
  else
    let isBlocked := ctx.config.blocks m.name c.name
    let isHooked := ctx.generatesSubclass c && m.returnsVoid && !isBlocked
      && (ctx.checkMethod c v).isOk
    let w := if isHooked then ctx.listHooks v w else w
    let w := match ctx.listWrapper c v w with
      | (w, false) => w
      | (w, true) =>
        let w := w.settle v.key
        if !main && m.returnsVoid && !isBlocked then (ctx.listWrapper c v.forwardDefault w).1
        else w
    if isHooked then ctx.listCallback v w else w

/-- The walk after the entry of a method that is neither a signal, nor overridable, nor a member
template. -/
def listMember (ctx : Context) (main : Bool) (c : Class) (w : Walk ContractEntry) (m : Method) :
    Walk ContractEntry :=
  let v := View.of m
  if w.isSettled v.key then w
  else match ctx.listWrapper c v w with
    | (w, false) => w
    | (w, true) =>
      let w := w.settle v.key
      if main && ctx.generatesSubclass c && m.role == .slot
          && (ctx.checkMethod c v.nonVirtual).isOk then
        ctx.listCallback v.nonVirtual w
      else w

/-- The walk after the entries of a method that the class declares. -/
def listOwn (ctx : Context) (main : Bool) (c : Class) (w : Walk ContractEntry) (m : Method) :
    Walk ContractEntry :=
  if m.role == .signal then ctx.listSignal c w m
  else if m.isImpure && !m.role.isStructor then ctx.listVirtual main c w m
  else if m.isGeneric then
    m.instantiations.foldl (fun w i => (ctx.listWrapper c ((View.of m).instantiate i) w).1) w
  else ctx.listMember main c w m

/-- The walk after the entries of a method that the class inherits from `base`. -/
def listInherited (ctx : Context) (c base : Class) (w : Walk ContractEntry) (m : Method) :
    Walk ContractEntry :=
  let v := (View.of m).plain.retarget c.name
  if !isInheritable m || w.isSettled v.key || !(ctx.checkMethod base v).isOk then w
  else
    let w := w.settle v.key
    if ctx.config.blocks m.name c.name then w
    else
      let w := if ctx.generatesSubclass c then ctx.listHooks v w else w
      let w := (ctx.listWrapper base v w).1
      let w := (ctx.listWrapper base v.forwardDefault w).1
      if ctx.generatesSubclass c then ctx.listCallback v w else w

/-- What became of the views of a class, in the order of the contract. -/
def contractOutcomes (ctx : Context) (main : Bool) (c : Class) : List (Outcome ContractEntry) :=
  let own := c.methods.foldl (ctx.listOwn main c) Walk.start
  ((ctx.supportedBases c).foldl (fun w base =>
    base.methods.foldl (ctx.listInherited c base) w) own).outcomes

/-- The entries of a class; one that fails its check has none. -/
def classContract (ctx : Context) (main : Bool) (c : Class) : List ContractEntry :=
  if ctx.supports c then writtenItems (ctx.contractOutcomes main c) else []

end Context

end Bindery
