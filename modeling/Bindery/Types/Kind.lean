import Bindery.View

/-!
# Kinds of types

What a type token means at the boundary, and how a value of each kind is converted on its way
across.  A kind is either nothing at all, a primitive, the string class, an object of a known
class, or a value of a known enumeration.
-/

namespace Bindery

/-- A primitive type with its spelling on every surface. -/
structure Primitive where
  native : String
  header : String
  managed : String
  callback : String
deriving DecidableEq, Repr

namespace Primitive

/-- All primitives that cross the boundary. -/
def all : List Primitive := [
  ⟨"bool", "int", "bool", "C.int"⟩,
  ⟨"char", "char", "int8", "C.char"⟩,
  ⟨"signed char", "signed char", "int8", "C.schar"⟩,
  ⟨"unsigned char", "unsigned char", "uint8", "C.uchar"⟩,
  ⟨"short", "short", "int16", "C.short"⟩,
  ⟨"unsigned short", "unsigned short", "uint16", "C.ushort"⟩,
  ⟨"int", "int", "int", "C.int"⟩,
  ⟨"unsigned int", "unsigned int", "uint", "C.uint"⟩,
  ⟨"unsigned", "unsigned int", "uint", "C.uint"⟩,
  ⟨"long", "long", "int", "C.long"⟩,
  ⟨"unsigned long", "unsigned long", "uint", "C.ulong"⟩,
  ⟨"long long", "long long", "int64", "C.longlong"⟩,
  ⟨"unsigned long long", "unsigned long long", "uint64", "C.ulonglong"⟩,
  ⟨"float", "float", "float32", "C.float"⟩,
  ⟨"double", "double", "float64", "C.double"⟩]

/-- The primitive of a native spelling. -/
def find? (native : String) : Option Primitive :=
  all.find? (·.native == native)

/-- Whether the primitive is a truth value, which C spells as a number. -/
def isBool (p : Primitive) : Bool :=
  p.native == "bool"

/-- The spelling on a surface. -/
def spelling (p : Primitive) : Surface → String
  | .header => p.header
  | .native => p.native
  | .managed => p.managed
  | .callback => p.callback

end Primitive

/-- What a type token means. -/
inductive TypeKind where
  | void
  | primitive (p : Primitive)
  /-- The string class of the framework. -/
  | string
  /-- An object of a class, passed by pointer, or by value or reference. -/
  | object (name : String) (pointer isConst : Bool)
  | enumeration (owner name : String)
deriving DecidableEq, Repr

namespace TypeKind

/-- Whether there is no value at all. -/
def isVoid : TypeKind → Bool
  | void => true
  | _ => false

/-- The native class that has to be declared where the kind is used. -/
def referenced? : TypeKind → Option String
  | object name _ _ => some name
  | enumeration owner _ => some owner
  | _ => none

/-- The spelling on a surface; nothing at all is spelled as the empty text. -/
def spelling (stringClass : String) (surface : Surface) : TypeKind → String
  | void => ""
  | primitive p => p.spelling surface
  | string =>
    match surface with
    | .header => "char*"
    | .native => stringClass
    | .managed => "string"
    | .callback => "*C.char"
  | object name _ _ =>
    match surface with
    | .header => "void*"
    | .native => name ++ "*"
    | .managed => name
    | .callback => "unsafe.Pointer"
  | enumeration owner name =>
    match surface with
    | .header => "int"
    | .native => owner ++ "::" ++ name
    | .managed => owner ++ "__" ++ name
    | .callback => "C.int"

/-- The managed spelling where callers see it: an object is passed by pointer, or by its interface
where derived objects have to be accepted. -/
def managedSpelling (stringClass : String) (byInterface : Bool) (k : TypeKind) : String :=
  let type := k.spelling stringClass .managed
  match k with
  | object .. => if byInterface then type ++ "_ITF" else "*" ++ type
  | _ => type

/-! ## Conversions of expressions -/

/-- A C argument as a native one. -/
def headerToNative (stringClass : String) (k : TypeKind) (expr : String) : String :=
  match k with
  | primitive p => if p.isBool then expr ++ " != 0" else expr
  | string => stringClass ++ "::fromUtf8(" ++ expr ++ ")"
  | object name true _ => "static_cast<" ++ name ++ "*>(" ++ expr ++ ")"
  | object name false _ => "*static_cast<" ++ name ++ "*>(" ++ expr ++ ")"
  | enumeration owner name => "static_cast<" ++ owner ++ "::" ++ name ++ ">(" ++ expr ++ ")"
  | void => expr

/-- A native result as a C one. -/
def nativeToHeader (k : TypeKind) (expr : String) : String :=
  match k with
  | string => "qstrdup(" ++ expr ++ ".toUtf8().constData())"
  | object name true true => "const_cast<" ++ name ++ "*>(" ++ expr ++ ")"
  | object name false _ => "new " ++ name ++ "(" ++ expr ++ ")"
  | _ => expr

/-- A native argument of a trampoline as an argument of the managed callback. -/
def nativeToCallback (k : TypeKind) (expr : String) : String :=
  match k with
  | string => "const_cast<char*>(" ++ expr ++ ".toUtf8().constData())"
  | object name true true => "const_cast<" ++ name ++ "*>(" ++ expr ++ ")"
  | object name false _ => "const_cast<" ++ name ++ "*>(&" ++ expr ++ ")"
  | _ => expr

/-- The result of a managed callback as a native one. -/
def callbackToNative (stringClass : String) (k : TypeKind) (expr : String) : String :=
  k.headerToNative stringClass expr

end TypeKind

end Bindery
