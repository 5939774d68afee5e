import Bindery.Config.Basic
import Bindery.Model.Registry
import Bindery.Types.Kind
import Bindery.Types.Token

/-!
# Context of a run

The registry and the configuration of a generation run, and the questions that need both: which
classes belong to the main module, what the generated subclass of a class is called, and what a
type token means.
-/

namespace Bindery

/-- What every step of a run may look at. -/
structure Context where
  registry : Registry
  config : Config

namespace Context

/-- The native string class. -/
def stringClass (ctx : Context) : String :=
  ctx.config.framework.stringClass

/-- Whether a class is owned by the main module. -/
def isMain (ctx : Context) (c : Class) : Bool :=
  ctx.config.isMain c.module

/-- Whether a name is that of a class owned by the main module. -/
def isMainName (ctx : Context) (name : String) : Bool :=
  (ctx.registry.moduleOf? name).any ctx.config.isMain

/-- The name of the generated subclass: a class of the main module is generated itself. -/
def subclassName (ctx : Context) (c : Class) : String :=
  if ctx.isMain c then c.name else "My" ++ c.name

/-! ## Meaning of type tokens -/

/-- The token that is looked up for a view: its placeholder is replaced if the view has an
instantiation. -/
def substituted (v : View) (t : TypeToken) : TypeToken :=
  match v.method.placeholder, v.instantiation with
  | some placeholder, some i =>
    if t.base == placeholder then t.substitute (TypeToken.parse i.type) else t
  | _, _ => t

/-- A kind for tokens that pass values as they are. -/
def valueKind? (t : TypeToken) (k : TypeKind) : Option TypeKind :=
  if t.isValueLike then some k else none

/-- What a token names: the string class, a class of the registry, an enumeration seen from the
class `scope`, or a primitive, directly or by an alias, in this order. -/
def namedKind? (ctx : Context) (scope : String) (t : TypeToken) : Option TypeKind :=
  if t.base == ctx.stringClass then valueKind? t .string
  else match ctx.registry.find? t.base with
    | some c =>
      if t.pointers = 0 then some (.object c.name false t.isConst)
      else if t.pointers = 1 ∧ t.references = 0 then some (.object c.name true t.isConst)
      else none
    | none =>
      match ctx.registry.findEnum? t.base scope with
      | some (owner, e) => valueKind? t (.enumeration owner.name e.name)
      | none =>
        match Primitive.find? ((ctx.config.alias? t.base).getD t.base) with
        | some p => valueKind? t (.primitive p)
        | none => none

/-- Whether a base is a template, a function or an array. -/
def isCompound (base : String) : Bool :=
  base.toList.any ['<', '(', '['].contains

/-- What a token that is not blank means. -/
def tokenKind? (ctx : Context) (scope : String) (t : TypeToken) : Option TypeKind :=
  if t.base == "void" then
    if t.pointers = 0 ∧ t.references = 0 then some .void else none
  else if isCompound t.base || t.references > 1 then none
  else ctx.namedKind? scope t

/-- What a type text means in a view; nothing for types that cannot cross the boundary. -/
def resolve? (ctx : Context) (v : View) (text : String) : Option TypeKind :=
  let trimmed := Text.trim text
  if trimmed == "" then some .void
  else ctx.tokenKind? v.method.owner (substituted v (TypeToken.parse trimmed))

/-- The spelling of a kind on a surface. -/
def spell (ctx : Context) (surface : Surface) (k : TypeKind) : String :=
  k.spelling ctx.stringClass surface

/-- The spelling of a parameter's type on a surface, for questions about one type text; prototypes
and signatures resolve it themselves and spell the kind. -/
def spellInput (ctx : Context) (v : View) (text : String) (surface : Surface) :
    Except Obstacle String :=
  match ctx.resolve? v text with
  | some k => .ok (ctx.spell surface k)
  | none => .error (.input surface)

/-- The surface on which an output is spelled.  A callback of a main-module class that returns a
value is spelled as the boundary passes it. -/
def outputSurface (ctx : Context) (v : View) (k : TypeKind) : Surface → Surface
  | .managed =>
    if v.direction == .callback && ctx.isMainName v.owner && !k.isVoid then .callback
    else .managed
  | surface => surface

/-- The spelling of a view's output on a surface. -/
def spellOutput (ctx : Context) (v : View) (surface : Surface) : Except Obstacle String :=
  match ctx.resolve? v v.outputToken with
  | some k => .ok (ctx.spell (ctx.outputSurface v k surface) k)
  | none => .error (.output surface)

end Context

end Bindery
