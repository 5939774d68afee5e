import Bindery.Model.Class

/-!
# The registry

All classes of a model, in model order and with distinct names.  The registry answers every
question that reaches beyond one class: which class a name means, which module owns it, which
bases it has, directly or not, and which enumeration a token names.

The order of the classes is kept: the emission order of the main module breaks ties by it.  As
names are distinct, looking up a name finds a class exactly if it is the one that has the name
(`Registry.find?_eq_some_iff`).
-/

namespace Bindery

/-- The first text that occurs in `earlier` or occurred before in the list itself. -/
def firstRepeated? (earlier : List String) : List String → Option String
  | [] => none
  | s :: rest => if s ∈ earlier then some s else firstRepeated? (s :: earlier) rest

theorem firstRepeated?_eq_none_iff {earlier texts : List String} :
    firstRepeated? earlier texts = none ↔ texts.Nodup ∧ ∀ s ∈ texts, s ∉ earlier := by
  induction texts generalizing earlier with
  | nil => simp [firstRepeated?]
  | cons s rest ih =>
    by_cases h : s ∈ earlier
    · simp [firstRepeated?, h]
    · simp only [firstRepeated?, h, if_false, ih, List.nodup_cons, List.mem_cons, not_or]
      grind

/-- The classes of a model. -/
structure Registry where
  classes : List Class
  /-- No two classes share a name. -/
  distinct : (classes.map Class.name).Nodup

namespace Registry

/-- The registry without classes, which stands where no model is given; a run always reads one. -/
def empty : Registry where
  classes := []
  distinct := List.nodup_nil

instance : Inhabited Registry := ⟨empty⟩

/-- The registry of these classes in this order, or the first name that is given a second time. -/
def ofClasses (classes : List Class) : Except String Registry :=
  match h : firstRepeated? [] (classes.map Class.name) with
  | none => .ok { classes, distinct := (firstRepeated?_eq_none_iff.1 h).1 }
  | some name => .error name

/-- The class of this name. -/
def find? (r : Registry) (name : String) : Option Class :=
  r.classes.find? (·.name == name)

theorem find?_name {r : Registry} {c : Class} (h : c ∈ r.classes) : r.find? c.name = some c := by
  have distinct := r.distinct
  unfold find?
  generalize r.classes = classes at *
  induction classes with
  | nil => cases h
  | cons d classes ih =>
    simp only [List.map_cons, List.nodup_cons] at distinct
    rcases List.mem_cons.mp h with rfl | h
    · simp
    · have differ : d.name ≠ c.name := fun eq => distinct.1 (eq ▸ List.mem_map_of_mem h)
      simpa [List.find?_cons, differ] using ih h distinct.2

/-- As names are distinct, a name means the class that has it and no other. -/
theorem find?_eq_some_iff {r : Registry} {name : String} {c : Class} :
    r.find? name = some c ↔ c ∈ r.classes ∧ c.name = name := by
  constructor
  · intro h
    exact ⟨List.mem_of_find?_eq_some h, by simpa using List.find?_some h⟩
  · rintro ⟨h, rfl⟩
    exact find?_name h

/-- Whether a class has this name. -/
def contains (r : Registry) (name : String) : Bool :=
  (r.find? name).isSome

/-- Number of classes. -/
def size (r : Registry) : Nat :=
  r.classes.length

/-- Names of the classes in model order. -/
def names (r : Registry) : List String :=
  r.classes.map Class.name

/-- The classes of a module, in model order. -/
def classesIn (r : Registry) (module : String) : List Class :=
  r.classes.filter (·.module == module)

theorem mem_classesIn {r : Registry} {module : String} {c : Class} :
    c ∈ r.classesIn module ↔ c ∈ r.classes ∧ c.module = module := by
  simp [classesIn]

/-- The modules that own a class, each once, in the order of their names. -/
def modules (r : Registry) : List String :=
  Text.sorted (r.classes.map Class.module).eraseDups

/-- The module that owns a class. -/
def moduleOf? (r : Registry) (name : String) : Option String :=
  (r.find? name).map Class.module

/-! ## Transitive bases -/

/-- The names in `found`, followed by those met first on a walk through `bases` and, in front of
the next one, through the bases of each new class.  Names that mean no class are listed and end
there.  `depth` bounds how many classes a chain of bases may enter; as every class is entered at
most once, the number of classes is always enough. -/
def walkBases (r : Registry) : (depth : Nat) → (found bases : List String) → List String
  | 0, found, bases => bases.foldl (fun found b => if b ∈ found then found else found ++ [b]) found
  | depth + 1, found, bases =>
    bases.foldl (fun found b =>
      if b ∈ found then found
      else match r.find? b with
        | none => found ++ [b]
        | some c => walkBases r depth (found ++ [b]) c.bases) found

/-- Every direct and indirect base of a class, each once and never the class itself, in the order
of a walk that goes to the bottom of one base before it turns to the next. -/
def allBases (r : Registry) (name : String) : List String :=
  match r.find? name with
  | some c => (walkBases r r.size [] c.bases).erase name
  | none => []

/-- Whether a class is `root` or has it among its bases. -/
def derivesFrom (r : Registry) (name root : String) : Bool :=
  name == root || (r.allBases name).contains root

/-- The known classes among the bases of a class. -/
def knownBases (r : Registry) (name : String) : List Class :=
  (r.allBases name).filterMap r.find?

/-! ## Enumerations -/

/-- The enumeration that a token names, with its owner: `Owner::Enum` is looked up in `Owner`, a
bare name in the class `scope`. -/
def findEnum? (r : Registry) (token scope : String) : Option (Class × Enumeration) := do
  let (owner, name) := (Text.cutLast? "::" token).getD (scope, token)
  let c ← r.find? owner
  let e ← c.enums.find? (·.name == name)
  return (c, e)

end Registry

end Bindery
