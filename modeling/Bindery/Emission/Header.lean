import Bindery.Emission.Walk
import Bindery.Support
import Bindery.Unicode.Case

/-!
# Headers

The generated header of a module declares one C function for every wrapper, between an include
guard and under C linkage.  First come, class by class, the functions that fetch values of
enumerations; a class that fails its check has nothing else.

A method contributes according to what it is.  A signal has a function to connect and one to
disconnect and, unless it is private, a plain one.  A virtual method with an implementation has a
plain function and, where a generated subclass may override it, one that calls the default.  A
member template has a function for each instantiation, any other method has one.  After the
methods of a class come the inheritable ones of its bases, under the name of the class.
-/

namespace Bindery

/-- A function that fetches the value of an enumerator at run time. -/
structure ValueGetter where
  owner : String
  value : String
deriving DecidableEq, Repr

/-- The C symbol of a getter. -/
def ValueGetter.symbol (g : ValueGetter) : String :=
  g.owner ++ "_" ++ g.value ++ "_Type"

/-- A getter as C declares it, without the semicolon. -/
def ValueGetter.prototypeText (g : ValueGetter) : String :=
  "int " ++ g.symbol ++ "()"

/-- The getters of a class. -/
def Context.valueGetters (ctx : Context) (c : Class) : List ValueGetter :=
  (ctx.fetchedValues c).map fun value => ⟨c.name, value⟩

/-- A wrapper that the header declares: the view it is for, and the C function. -/
structure Declaration where
  view : View
  prototype : Prototype
deriving DecidableEq, Repr

/-- A line of the header that declares a wrapper. -/
def Declaration.text (d : Declaration) : String :=
  d.prototype.text ++ ";"

namespace Context

/-- The declaration of a view, in the light of the symbols that are taken. -/
def declaration (ctx : Context) (taken : List String) (c : Class) (v : View) :
    Except Obstacle Declaration := do
  ctx.checkMethod c v
  let symbol ← v.linkageSymbol
  if taken.contains symbol then throw .collision
  return ⟨v, ← ctx.prototype v⟩

/-- An attempt to declare a view, and whether it was declared. -/
def declare (ctx : Context) (c : Class) (v : View) (w : Walk Declaration) :
    Walk Declaration × Bool :=
  match ctx.declaration w.symbols c v with
  | .ok d => (w.claim d.prototype.symbol d, true)
  | .error obstacle => (w.skip v obstacle, false)

/-- An attempt to declare a view, which settles its key if it succeeds. -/
def declareSettling (ctx : Context) (c : Class) (w : Walk Declaration) (v : View) :
    Walk Declaration :=
  match ctx.declare c v w with
  | (w, true) => w.settle v.key
  | (w, false) => w

/-- The walk after the views of a signal. -/
def declareSignal (ctx : Context) (c : Class) (w : Walk Declaration) (m : Method) :
    Walk Declaration :=
  let w := ctx.declareSettling c w ((View.of m).toward .connect)
  let w := ctx.declareSettling c w ((View.of m).toward .disconnect)
  if ctx.isPrivateSignal m then w else (ctx.declare c (View.of m).plain w).1

/-- The walk after the views of a virtual method with an implementation. -/
def declareVirtual (ctx : Context) (main : Bool) (c : Class) (w : Walk Declaration) (m : Method) :
    Walk Declaration :=
  let v := (View.of m).plain
  if w.isSettled v.key then w
  else match ctx.declare c v w with
    | (w, false) => w
    | (w, true) =>
      let w := w.settle v.key
      if !main && m.returnsVoid && !ctx.config.blocks m.name c.name then
        (ctx.declare c v.forwardDefault w).1
      else w

/-- The walk after the views of a member template. -/
def declareInstances (ctx : Context) (c : Class) (w : Walk Declaration) (m : Method) :
    Walk Declaration :=
  m.instantiations.foldl (fun w i => (ctx.declare c ((View.of m).instantiate i) w).1) w

/-- The walk after the views of a method that the class declares. -/
def declareOwn (ctx : Context) (main : Bool) (c : Class) (w : Walk Declaration) (m : Method) :
    Walk Declaration :=
  if m.role == .signal then ctx.declareSignal c w m
  else if m.isImpure && !m.role.isStructor then ctx.declareVirtual main c w m
  else if m.isGeneric then ctx.declareInstances c w m
  else if w.isSettled (View.of m).key then w
  else ctx.declareSettling c w (View.of m)

/-- The walk after the views of a method that the class inherits from `base`. -/
def declareInherited (ctx : Context) (c base : Class) (w : Walk Declaration) (m : Method) :
    Walk Declaration :=
  let v := (View.of m).plain.retarget c.name
  if !isInheritable m || w.isSettled v.key then w
  else match ctx.checkMethod base v with
    | .error obstacle => w.skip v obstacle
    | .ok () =>
      let w := w.settle v.key
      if ctx.config.blocks m.name c.name then w
      else
        let w := (ctx.declare base v w).1
        (ctx.declare base v.forwardDefault w).1

/-- What became of the views of a class, in the order of the header. -/
def declarations (ctx : Context) (main : Bool) (c : Class) : List (Outcome Declaration) :=
  let own := c.methods.foldl (ctx.declareOwn main c) Walk.start
  ((ctx.supportedBases c).foldl (fun w base =>
    base.methods.foldl (ctx.declareInherited c base) w) own).outcomes

end Context

/-! ## Classes and modules -/

/-- The part of a header that belongs to one class. -/
structure ClassHeader where
  name : String
  getters : List ValueGetter
  /-- The views of the class, or why the class as a whole was skipped. -/
  wrappers : Except Obstacle (List (Outcome Declaration))

namespace ClassHeader

/-- The wrappers that are declared. -/
def declared (h : ClassHeader) : List Declaration :=
  match h.wrappers with
  | .ok outcomes => writtenItems outcomes
  | .error _ => []

/-- The constructs that are skipped. -/
def skips (h : ClassHeader) : List Skipped :=
  match h.wrappers with
  | .ok outcomes => skippedEntries outcomes
  | .error obstacle => [.ofClass h.name obstacle]

/-- The lines of the header that belong to the class. -/
def lines (h : ClassHeader) : List String :=
  h.getters.map (·.prototypeText ++ ";") ++ h.declared.map Declaration.text

end ClassHeader

/-- The part of a header that belongs to a class. -/
def Context.classHeader (ctx : Context) (main : Bool) (c : Class) : ClassHeader where
  name := c.name
  getters := ctx.valueGetters c
  wrappers := (ctx.checkClass c).map fun () => ctx.declarations main c

/-- A generated header. -/
structure Header where
  guard : String
  classes : List ClassHeader

namespace Header

/-- The lines before the classes. -/
def prologue (guard : String) : List String := [
  "#pragma once",
  "",
  "#ifndef " ++ guard,
  "#define " ++ guard,
  "",
  "#ifdef __cplusplus",
  "extern \"C\" \x7b",
  "#endif",
  ""]

/-- The lines after the classes. -/
def epilogue : List String := [
  "",
  "#ifdef __cplusplus",
  "\x7d",
  "#endif",
  "",
  "#endif"]

/-- The text of a header. -/
def text (h : Header) : String :=
  Text.lines (prologue h.guard ++ h.classes.flatMap ClassHeader.lines ++ epilogue)

/-- The constructs that are skipped. -/
def skips (h : Header) : List Skipped :=
  h.classes.flatMap ClassHeader.skips

end Header

/-- The include guard of a module's header. -/
def Config.includeGuard (c : Config) (module : String) : String :=
  c.framework.guardPrefix ++ "_" ++ Unicode.upperText module ++ "_H"

/-- The header of a module with these classes in this order. -/
def Context.header (ctx : Context) (module : String) (classes : List Class) : Header where
  guard := ctx.config.includeGuard module
  classes := classes.map (ctx.classHeader (ctx.config.isMain module))

end Bindery
