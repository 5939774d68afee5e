import Bindery.Text.Basic
import Bindery.Unicode.Case
import Bindery.View

/-!
# Names

Every emitted name is made from a view, so that one method gets a distinct and stable name for
each direction, instantiation and overload.  A name that would hold a character of an operator is
no identifier on any surface and is refused.
-/

namespace Bindery

open Unicode

/-! ## Words -/

/-- The characters with the first letter of every word in upper case.  A word begins after every
character that is neither letter, digit nor underscore; `atStart` says that one begins here. -/
def titleChars (atStart : Bool) : List Char → List Char
  | [] => []
  | c :: cs =>
    (if atStart && isAlphabetic c then upper c else [c])
      ++ titleChars (!(isAlphanumeric c || c = '_')) cs

/-- A name with the first letter of every word in upper case. -/
def titleCase (name : String) : String :=
  String.ofList (titleChars true name.toList)

/-! ## Parameter names -/

/-- Names that mean something on one of the surfaces: words of the managed language, words of the
native one, and the locals of generated code. -/
def reservedNames : List String := [
  "break", "case", "chan", "const", "continue", "default", "defer", "else", "fallthrough",
  "for", "func", "go", "goto", "if", "import", "interface", "map", "package", "range",
  "return", "select", "struct", "switch", "type", "var",
  "bool", "char", "class", "delete", "double", "float", "int", "long", "namespace", "new",
  "private", "protected", "public", "short", "signed", "signals", "slots", "static",
  "template", "this", "unsigned", "virtual", "void", "volatile",
  "ptr", "ptrName", "f", "string"]

/-- A parameter name that is safe on every surface: an omitted one becomes `v` and its position, a
reserved one gets an underscore. -/
def cleanName (name : String) (index : Nat) : String :=
  if name == "" then "v" ++ toString index
  else if reservedNames.contains name then name ++ "_"
  else name

/-! ## Method names -/

/-- Characters that occur in the names of operators only. -/
def operatorChars : List Char :=
  ['&', '<', '>', '=', '/', '!', '(', ')', '[', ']', '\x7b', '\x7d', '-', '^', '|', '*', '+']

/-- Whether a name is that of an operator. -/
def namesOperator (name : String) : Bool :=
  name.toList.any operatorChars.contains || Text.contains name "Operator"

/-- A name as an identifier.  The tilde of a destructor is dropped; operators are refused. -/
def identifier (name : String) : Except Obstacle String :=
  if namesOperator name then .error .identifier
  else .ok (String.ofList (name.toList.filter (· ≠ '~')))

/-- A text with every tilde spelled out. -/
def spellTilde (s : String) : String :=
  String.ofList (s.toList.flatMap fun c => if c = '~' then "Destroy".toList else [c])

namespace View

/-- The name of the managed callback, before the check. -/
def rawCallbackName (v : View) : String :=
  "callback" ++ v.owner ++ spellTilde (titleCase v.name) ++ v.method.overloadSuffix

/-- What a name says about making and destroying objects. -/
def rolePrefix (v : View) : String :=
  match v.role with
  | .constructor => "New"
  | .destructor => "Destroy"
  | _ => ""

/-- The name of the managed method, before the check. -/
def rawManagedName (v : View) : String :=
  if v.direction == .callback then v.rawCallbackName
  else
    (if v.method.isStatic then v.owner ++ "_" else "")
      ++ v.rolePrefix
      ++ v.direction.tag
      ++ titleCase v.name
      ++ (if v.forwardsDefault then "Default" else "")
      ++ v.instantiation.elim "" Instantiation.tag
      ++ v.method.overloadSuffix

/-- The exported managed function that a trampoline calls. -/
def callbackName (v : View) : Except Obstacle String :=
  identifier v.rawCallbackName

/-- The name of the managed method. -/
def managedName (v : View) : Except Obstacle String :=
  identifier v.rawManagedName

/-- The symbol of the C function. -/
def linkageSymbol (v : View) : Except Obstacle String :=
  v.managedName.map fun name => v.owner ++ "_" ++ name

/-- The member of the generated subclass that a signal is connected to. -/
def slotName (v : View) : String :=
  "Signal_" ++ titleCase v.name ++ v.method.overloadSuffix

end View

end Bindery
