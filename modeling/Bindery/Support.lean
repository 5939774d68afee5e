import Bindery.Signature.Prototype

/-!
# What can be emitted

Checks of classes, methods and enumerations.  A check says nothing or names an obstacle; the
emitters add the rules of their own sections.
-/

namespace Bindery

/-! ## Initializers -/

/-- The text after one sign, if there is one. -/
def afterSign : List Char → List Char
  | '-' :: cs => cs
  | '+' :: cs => cs
  | cs => cs

/-- Whether a character marks the size or sign of an integer literal. -/
def isLiteralSuffix (c : Char) : Bool :=
  c = 'u' || c = 'U' || c = 'l' || c = 'L'

/-- Whether characters are a literal without sign and suffix: hexadecimal, octal or decimal. -/
def isUnsignedLiteral (digits : List Char) : Bool :=
  match digits with
  | '0' :: x :: rest =>
    if x = 'x' || x = 'X' then !rest.isEmpty && rest.all Unicode.isHexDigit
    else (x :: rest).all Unicode.isOctalDigit
  | _ => !digits.isEmpty && digits.all Unicode.isDecimalDigit

/-- Whether characters without white space around them are an integer literal. -/
def isIntegerLiteral (cs : List Char) : Bool :=
  isUnsignedLiteral (Text.trimEndWhile isLiteralSuffix (Text.trimStartChars (afterSign cs)))

/-- Whether a value has to be fetched at run time, because its initializer is no integer
literal. -/
def Enumerator.needsGetter (e : Enumerator) : Bool :=
  !isIntegerLiteral (Text.trimChars e.initializer.toList)

namespace Context

/-! ## Classes -/

/-- Whether a name is that of a template. -/
def namesTemplate (name : String) : Bool :=
  name.toList.contains '<'

/-- The check of a class: it is not excluded, neither it nor a base is a template, it is not
nested, and in the main module it has a base. -/
def checkClass (ctx : Context) (c : Class) : Except Obstacle Unit :=
  if ctx.config.excludesClass c.name then .error .excluded
  else if namesTemplate c.name || Text.contains c.name "::" then .error .ofClass
  else if c.bases.any namesTemplate then .error .ofClass
  else if ctx.isMain c && c.bases.isEmpty then .error .ofClass
  else .ok ()

/-- Whether a class passes its check. -/
def supports (ctx : Context) (c : Class) : Bool :=
  (ctx.checkClass c).isOk

/-- Whether the implementation has a generated subclass for a class. -/
def generatesSubclass (ctx : Context) (c : Class) : Bool :=
  ctx.supports c && (c.declaresVirtual || c.declaresSignal) && ctx.config.allowsSubclass c.name

/-- The supported classes among the bases of a class. -/
def supportedBases (ctx : Context) (c : Class) : List Class :=
  (ctx.registry.knownBases c.name).filter ctx.supports

/-! ## Methods -/

/-- Whether a method is excluded, under its declaring class or under the class it is emitted
for. -/
def excludes (ctx : Context) (c : Class) (m : Method) : Bool :=
  ctx.config.excludesMethod m.owner m.name || ctx.config.excludesMethod c.name m.name

/-- The check of a view that connects or disconnects: there is a subclass to connect to, and its
callback can be called. -/
def checkHook (ctx : Context) (c : Class) (v : View) : Except Obstacle Unit := do
  if v.direction.isHook then
    if !ctx.generatesSubclass c then throw .ofClass
    let _ ← ctx.callbackArguments v

/-- The check of a view of a method of a class. -/
def checkMethod (ctx : Context) (c : Class) (v : View) : Except Obstacle Unit := do
  if ctx.excludes c v.method then throw .excluded
  if v.method.role == .constructor && c.isAbstract then throw .abstractConstructor
  ctx.checkHook c v
  let _ ← ctx.prototype v

/-- Whether a signal is private, so that it cannot be emitted from outside. -/
def isPrivateSignal (ctx : Context) (m : Method) : Bool :=
  ctx.isMarked m.signature || m.parameters.any fun p => ctx.isMarked p.type

/-- Whether derived classes repeat a method of their base: it is virtual with an implementation,
puts out nothing and neither makes nor destroys objects. -/
def isInheritable (m : Method) : Bool :=
  m.isImpure && m.returnsVoid && !m.role.isStructor

/-! ## Enumerations -/

/-- Whether an enumeration of a class is emitted: it has a name and values and is not excluded. -/
def supportsEnum (ctx : Context) (owner : Class) (e : Enumeration) : Bool :=
  e.name != "" && !e.values.isEmpty && !ctx.config.excludesClass (owner.name ++ "::" ++ e.name)

/-- The values of a class that are fetched at run time, by name. -/
def fetchedValues (ctx : Context) (c : Class) : List String :=
  (c.enums.filter (ctx.supportsEnum c)).flatMap fun e =>
    (e.values.filter Enumerator.needsGetter).map Enumerator.name

end Context

end Bindery
