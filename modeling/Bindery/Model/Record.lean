import Bindery.Json.Reader
import Bindery.Json.Record
import Bindery.Json.Writer
import Bindery.Model.Registry

/-!
# Models on paper

The JSON form of a model: how each record is read and written, and how a text becomes a registry.
A model is `{"classes": [...]}`; every record follows the rules of `Bindery.Json.fields?`, and its
writer gives all fields in declaration order.
-/

namespace Bindery

open Json

/-! ## Words -/

/-- The words for roles. -/
def Role.words : List (String × Role) :=
  [("constructor", .constructor), ("destructor", .destructor), ("signal", .signal),
    ("slot", .slot), ("plain", .plain)]

/-- The word for a role. -/
def Role.word : Role → String
  | .constructor => "constructor"
  | .destructor => "destructor"
  | .signal => "signal"
  | .slot => "slot"
  | .plain => "plain"

/-- The words for dispatch. -/
def Dispatch.words : List (String × Dispatch) :=
  [("none", .direct), ("pure", .pure), ("impure", .impure)]

/-- The word for a kind of dispatch. -/
def Dispatch.word : Dispatch → String
  | .direct => "none"
  | .pure => "pure"
  | .impure => "impure"

/-! ## Reading records -/

/-- An instantiation from its JSON form. -/
def Instantiation.ofJson? (v : Json) : Option Instantiation := do
  match ← fields? ["tag", "ty"] v with
  | [tag, type] => return { tag := ← required? text? tag, type := ← required? text? type }
  | _ => none

/-- A parameter from its JSON form. -/
def Parameter.ofJson? (v : Json) : Option Parameter := do
  match ← fields? ["name", "value"] v with
  | [name, type] => return { name := ← defaulted? text? "" name, type := ← required? text? type }
  | _ => none

/-- The fields of a method in declaration order. -/
def Method.fieldNames : List String :=
  ["name", "fullname", "signature", "meta", "virtual", "static", "parameters", "output",
    "overload", "generic_param", "generic_modes"]

/-- A method from its JSON form. -/
def Method.ofJson? (v : Json) : Option Method := do
  match ← fields? Method.fieldNames v with
  | [name, fullName, signature, role, dispatch, isStatic, parameters, output, overload,
      placeholder, instantiations] =>
    return {
      name := ← required? text? name
      fullName := ← required? text? fullName
      signature := ← defaulted? text? "" signature
      role := ← defaulted? (word? Role.words) .plain role
      dispatch := ← defaulted? (word? Dispatch.words) .direct dispatch
      isStatic := ← defaulted? bool? false isStatic
      parameters := ← defaulted? (list? Parameter.ofJson?) [] parameters
      output := ← defaulted? text? "" output
      overload := ← defaulted? (optional? index?) none overload
      placeholder := ← defaulted? (optional? text?) none placeholder
      instantiations := ← defaulted? (list? Instantiation.ofJson?) [] instantiations }
  | _ => none

/-- A value of an enumeration from its JSON form. -/
def Enumerator.ofJson? (v : Json) : Option Enumerator := do
  match ← fields? ["name", "value"] v with
  | [name, initializer] =>
    return { name := ← required? text? name, initializer := ← defaulted? text? "" initializer }
  | _ => none

/-- An enumeration from its JSON form. -/
def Enumeration.ofJson? (v : Json) : Option Enumeration := do
  match ← fields? ["name", "values"] v with
  | [name, values] =>
    return {
      name := ← required? text? name
      values := ← defaulted? (list? Enumerator.ofJson?) [] values }
  | _ => none

/-- A class from its JSON form. -/
def Class.ofJson? (v : Json) : Option Class := do
  match ← fields? ["name", "module", "bases", "functions", "enums"] v with
  | [name, module, bases, methods, enums] =>
    return {
      name := ← required? text? name
      module := ← required? text? module
      bases := ← defaulted? (list? text?) [] bases
      methods := ← defaulted? (list? Method.ofJson?) [] methods
      enums := ← defaulted? (list? Enumeration.ofJson?) [] enums }
  | _ => none

/-- The classes of a model from its JSON form. -/
def classesOfJson? (v : Json) : Option (List Class) := do
  match ← fields? ["classes"] v with
  | [classes] => defaulted? (list? Class.ofJson?) [] classes
  | _ => none

/-! ## Writing records -/

/-- The JSON form of an instantiation. -/
def Instantiation.toJson (i : Instantiation) : Json :=
  .record [("tag", .text i.tag), ("ty", .text i.type)]

/-- The JSON form of a parameter. -/
def Parameter.toJson (p : Parameter) : Json :=
  .record [("name", .text p.name), ("value", .text p.type)]

/-- The JSON form of a method. -/
def Method.toJson (m : Method) : Json :=
  .record [
    ("name", .text m.name),
    ("fullname", .text m.fullName),
    ("signature", .text m.signature),
    ("meta", .text m.role.word),
    ("virtual", .text m.dispatch.word),
    ("static", .bool m.isStatic),
    ("parameters", .array (m.parameters.map Parameter.toJson)),
    ("output", .text m.output),
    ("overload", .nullable (fun n => .nat n.toNat) m.overload),
    ("generic_param", .nullable .text m.placeholder),
    ("generic_modes", .array (m.instantiations.map Instantiation.toJson))]

/-- The JSON form of a value of an enumeration. -/
def Enumerator.toJson (e : Enumerator) : Json :=
  .record [("name", .text e.name), ("value", .text e.initializer)]

/-- The JSON form of an enumeration. -/
def Enumeration.toJson (e : Enumeration) : Json :=
  .record [("name", .text e.name), ("values", .array (e.values.map Enumerator.toJson))]

/-- The JSON form of a class. -/
def Class.toJson (c : Class) : Json :=
  .record [
    ("name", .text c.name),
    ("module", .text c.module),
    ("bases", .texts c.bases),
    ("functions", .array (c.methods.map Method.toJson)),
    ("enums", .array (c.enums.map Enumeration.toJson))]

/-- The JSON form of a model. -/
def classesToJson (classes : List Class) : Json :=
  .record [("classes", .array (classes.map Class.toJson))]

/-! ## Whole models -/

/-- Why a text is no model. -/
inductive ModelError where
  /-- The text is no JSON, or its JSON is no model. -/
  | malformed
  /-- A class of this name was given before. -/
  | duplicateClass (name : String)
deriving DecidableEq, Repr

/-- The wording of a model error. -/
def ModelError.message : ModelError → String
  | .malformed => "Failed to parse model JSON"
  | .duplicateClass name => "Duplicate class in model: " ++ name

/-- The registry that a JSON value describes. -/
def Registry.ofJson (v : Json) : Except ModelError Registry :=
  match classesOfJson? v with
  | none => .error .malformed
  | some classes => (Registry.ofClasses classes).mapError .duplicateClass

/-- The registry that a text describes. -/
def Registry.parse (s : String) : Except ModelError Registry :=
  match Json.parse? s with
  | none => .error .malformed
  | some v => Registry.ofJson v

end Bindery
