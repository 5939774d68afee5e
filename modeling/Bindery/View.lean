import Bindery.Model.Method

/-!
# Views of methods

Emission looks at one method in several ways: as a call to connect a handler, as a plain call, as
a call of the base implementation, under the name of a derived class.  A view is a method together
with these choices; the method itself is never changed.

A view that cannot be emitted meets an obstacle.  Its marker is what the ledger of skipped
constructs records.
-/

namespace Bindery

/-- Spellings of a type. -/
inductive Surface where
  /-- C types of the generated header. -/
  | header
  /-- Native types inside the generated implementation. -/
  | native
  /-- Types of managed declarations. -/
  | managed
  /-- Types of managed callbacks, which the boundary can pass as they are. -/
  | callback
deriving DecidableEq, Repr

/-- Why something cannot be emitted. -/
inductive Obstacle where
  | ofClass
  | excluded
  | abstractConstructor
  | identifier
  | nativeInput
  | nativeOutput
  | managedInput
  | managedOutput
  | callbackInput
  | callbackOutput
  /-- An earlier view of the class has the same linkage symbol. -/
  | collision
deriving DecidableEq, Repr

namespace Obstacle

/-- The text that stands for an obstacle. -/
def marker : Obstacle → String
  | ofClass => "unsupported_class"
  | excluded => "unsupported_excluded"
  | abstractConstructor => "unsupported_abstract_constructor"
  | identifier => "unsupported_identifier"
  | nativeInput => "unsupported_native_input"
  | nativeOutput => "unsupported_native_output"
  | managedInput => "unsupported_managed_input"
  | managedOutput => "unsupported_managed_output"
  | callbackInput => "unsupported_callback_input"
  | callbackOutput => "unsupported_callback_output"
  | collision => "unsupported_collision"

/-- The obstacle of a parameter without a spelling.  The checks name it surface by surface; this is
the whole table, for `Context.spellInput`. -/
def input : Surface → Obstacle
  | .header | .native => nativeInput
  | .managed => managedInput
  | .callback => callbackInput

/-- The obstacle of an output without a spelling. -/
def output : Surface → Obstacle
  | .header | .native => nativeOutput
  | .managed => managedOutput
  | .callback => callbackOutput

end Obstacle

/-- Direction of a view of a signal or virtual method. -/
inductive Direction where
  /-- A call from outside. -/
  | plain
  /-- Connects a managed handler. -/
  | connect
  /-- Disconnects the managed handler. -/
  | disconnect
  /-- The managed callback that a trampoline calls. -/
  | callback
deriving DecidableEq, Repr

namespace Direction

/-- What a direction puts in front of the capitalized method name. -/
def tag : Direction → String
  | plain => ""
  | connect => "Connect"
  | disconnect => "Disconnect"
  | callback => "callback"

/-- The word for a direction. -/
def word : Direction → String
  | plain => "plain"
  | d => d.tag

/-- Whether the direction is to connect or to disconnect a handler. -/
def isHook : Direction → Bool
  | connect | disconnect => true
  | _ => false

end Direction

/-- A method as one emission step looks at it. -/
structure View where
  method : Method
  /-- The class that the emitted names belong to. -/
  owner : String
  role : Role
  dispatch : Dispatch
  direction : Direction := .plain
  instantiation : Option Instantiation := none
  /-- Whether the view calls the base implementation without dispatch. -/
  forwardsDefault : Bool := false
deriving DecidableEq, Repr

namespace View

/-- The view of a method as it was declared. -/
def of (m : Method) : View where
  method := m
  owner := m.owner
  role := m.role
  dispatch := m.dispatch

/-- The view in another direction. -/
def toward (v : View) (direction : Direction) : View :=
  { v with direction }

/-- The view as a plain call, whatever the role of the method. -/
def plain (v : View) : View :=
  { v with role := .plain }

/-- The view without virtual dispatch. -/
def nonVirtual (v : View) : View :=
  { v with dispatch := .direct }

/-- The view with an instantiation of the method's placeholder. -/
def instantiate (v : View) (i : Instantiation) : View :=
  { v with instantiation := some i }

/-- The view under the name of another class. -/
def retarget (v : View) (owner : String) : View :=
  { v with owner }

/-- The view as a call of the base implementation. -/
def forwardDefault (v : View) : View :=
  { v with forwardsDefault := true }

/-- The simple name of the method. -/
def name (v : View) : String :=
  v.method.name

/-- Name and overload index: within a class, one method is declared under each. -/
def key (v : View) : String × Option UInt32 :=
  (v.method.name, v.method.overload)

/-- Whether a managed handler can be connected: to signals and to virtual methods with an
implementation. -/
def isConnectable (v : View) : Bool :=
  v.role == .signal || v.dispatch == .impure

/-- Whether the view makes an object. -/
def isConstructor (v : View) : Bool :=
  v.role == .constructor

/-- The output token, where a constructor without one puts out its own class. -/
def outputToken (v : View) : String :=
  if v.method.role == .constructor && Text.trim v.method.output == "" then v.method.name
  else v.method.output

end View

end Bindery
