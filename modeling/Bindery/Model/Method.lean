import Bindery.Text.Basic

/-!
# Methods

A method is a member function of a native class together with what the object model says about
it: its role (constructor, signal, slot, ...), whether it is virtual, and, for a member template,
the instantiations to be bound.  Methods are read once and never changed; every way of looking at
one during emission is a `View`.
-/

namespace Bindery

/-- Role of a method in the native object model. -/
inductive Role where
  | constructor
  | destructor
  | signal
  | slot
  | plain
deriving DecidableEq, Repr, Inhabited

/-- Whether the role is to make or to destroy objects. -/
def Role.isStructor : Role → Bool
  | .constructor | .destructor => true
  | _ => false

/-- How calls of a method are dispatched. -/
inductive Dispatch where
  /-- Not virtual. -/
  | direct
  /-- Virtual without an implementation. -/
  | pure
  /-- Virtual with an implementation that a subclass may override. -/
  | impure
deriving DecidableEq, Repr, Inhabited

/-- An instantiation of a member template: `tag` is appended to the emitted names, `type` takes the
place of the method's placeholder. -/
structure Instantiation where
  tag : String
  type : String
deriving DecidableEq, Repr

/-- A parameter: its name, empty when the native declaration omits it, and its type token as
written there. -/
structure Parameter where
  name : String
  type : String
deriving DecidableEq, Repr

/-- A member function of a native class. -/
structure Method where
  /-- Simple name; a destructor's begins with `~`. -/
  name : String
  /-- Name with the declaring class in front, `Class::name`. -/
  fullName : String
  /-- Parameter list and qualifiers as written in the native header, `(int x) const`. -/
  signature : String := ""
  role : Role := .plain
  dispatch : Dispatch := .direct
  isStatic : Bool := false
  parameters : List Parameter := []
  /-- Output type token; empty for constructors and for methods that return nothing. -/
  output : String := ""
  /-- Index among the methods of the same simple name, when there are several. -/
  overload : Option UInt32 := none
  /-- The type name that instantiations replace. -/
  placeholder : Option String := none
  instantiations : List Instantiation := []
deriving DecidableEq, Repr

namespace Method

/-- A plain method without parameters. -/
def declare (owner name : String) : Method where
  name := name
  fullName := owner ++ "::" ++ name
  signature := "()"

/-- The declaring class: what stands before the first `::` of the full name. -/
def owner (m : Method) : String :=
  match Text.cutFirst? "::" m.fullName with
  | some (before, _) => before
  | none => m.fullName

/-- What names of overloaded methods end in: the overload index, or nothing. -/
def overloadSuffix (m : Method) : String :=
  m.overload.elim "" fun n => toString n.toNat

/-- Whether the method is const-qualified: `const` is a word after the last closing parenthesis
of its signature. -/
def isConst (m : Method) : Bool :=
  match Text.cutLast? ")" m.signature with
  | some (_, qualifiers) => (Text.words qualifiers).contains "const"
  | none => false

/-- Whether the method is a template with instantiations to bind. -/
def isGeneric (m : Method) : Bool :=
  !m.instantiations.isEmpty

/-- Whether the output token is blank or `void`. -/
def returnsVoid (m : Method) : Bool :=
  let output := Text.trim m.output
  output == "" || output == "void"

/-- Whether the method is virtual with an implementation. -/
def isImpure (m : Method) : Bool :=
  m.dispatch == .impure

end Method

end Bindery
