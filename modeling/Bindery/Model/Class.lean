import Bindery.Model.Method

/-!
# Classes

A native class with its bases, methods and enumerations, in declaration order.  A namespace that
only holds enumerations is modelled as a class too.
-/

namespace Bindery

/-- A value of an enumeration and the text of its initializer, as written. -/
structure Enumerator where
  name : String
  initializer : String := ""
deriving DecidableEq, Repr

/-- An enumeration declared inside a class. -/
structure Enumeration where
  name : String
  values : List Enumerator := []
deriving DecidableEq, Repr

/-- A native class. -/
structure Class where
  /-- Unique in a registry. -/
  name : String
  /-- The module that owns the class. -/
  module : String
  /-- Direct bases. -/
  bases : List String := []
  methods : List Method := []
  enums : List Enumeration := []
deriving DecidableEq, Repr

namespace Class

/-- The first direct base. -/
def firstBase? (c : Class) : Option String :=
  c.bases.head?

/-- Whether the class declares a virtual method other than a constructor or destructor. -/
def declaresVirtual (c : Class) : Bool :=
  c.methods.any fun m => m.dispatch != .direct && !m.role.isStructor

/-- Whether the class declares a signal. -/
def declaresSignal (c : Class) : Bool :=
  c.methods.any fun m => m.role == .signal

/-- Whether the class declares a pure virtual method, so that no object of exactly this class can
exist. -/
def isAbstract (c : Class) : Bool :=
  c.methods.any fun m => m.dispatch == .pure

end Class

end Bindery
