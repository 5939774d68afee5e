import Bindery.Context

/-!
# Emission order

The order in which the classes of a module are emitted.  Outside the main module it is the order
of their names.  Classes of the main module are generated themselves, so a base of the same module
has to stand before the classes derived from it: passes over the classes in model order take each
class as soon as all its bases are there, until none is left or a pass takes nothing.  A pass only
divides the classes (`Registry.perm_of_orderPass`).
-/

namespace Bindery

/-- Why a module cannot be generated. -/
inductive GenerationError where
  /-- Bases lead in a circle; the classes are the ones that never become ready. -/
  | dependencyCycle (module : String) (classes : List String)
  | unknownModule (module : String)
deriving DecidableEq, Repr

namespace GenerationError

/-- The wording of a generation error. -/
def message : GenerationError → String
  | dependencyCycle module classes =>
    "dependency cycle among classes of module `" ++ module ++ "`: " ++ Text.commaJoin classes
  | unknownModule module => "module `" ++ module ++ "` has no classes in the model"

/-- The code under which an error is documented. -/
def code : GenerationError → String
  | dependencyCycle .. => "trellis::dependency_cycle"
  | unknownModule _ => "trellis::unknown_module"

/-- Advice on an error. -/
def help? : GenerationError → Option String
  | dependencyCycle .. =>
    some "a class cannot derive, directly or indirectly, from itself; check the base lists of the classes named above"
  | unknownModule _ => none

end GenerationError

namespace Registry

/-- Whether each base of a class is one of the classes `placed` or owned by another module, or by
none. -/
def isReady (r : Registry) (module : String) (placed : List String) (c : Class) : Bool :=
  c.bases.all fun base => r.moduleOf? base != some module || placed.contains base

/-- One pass over classes: the ones it takes and the ones it leaves.  A class that is taken counts
as placed for those after it. -/
def orderPass (r : Registry) (module : String) (placed : List String) :
    List Class → List Class × List Class
  | [] => ([], [])
  | c :: rest =>
    if r.isReady module placed c then
      let (taken, left) := orderPass r module (c.name :: placed) rest
      (c :: taken, left)
    else
      let (taken, left) := orderPass r module placed rest
      (taken, c :: left)

/-- A pass neither loses a class nor adds one. -/
theorem perm_of_orderPass {r : Registry} {module : String} {placed : List String}
    {classes taken left : List Class} (h : r.orderPass module placed classes = (taken, left)) :
    (taken ++ left).Perm classes := by
  induction classes generalizing placed taken left with
  | nil => simp_all [orderPass]
  | cons c rest ih =>
    rw [orderPass] at h
    split at h
    · simp only [Prod.mk.injEq] at h
      obtain ⟨rfl, rfl⟩ := h
      simpa using ih rfl
    · simp only [Prod.mk.injEq] at h
      obtain ⟨rfl, rfl⟩ := h
      exact List.perm_middle.trans ((ih rfl).cons c)

/-- Passes until all classes are taken, or the classes left when a pass takes none.  Every other
pass takes at least one, so as many passes as classes are enough. -/
def orderPasses (r : Registry) (module : String) :
    (passes : Nat) → (placed : List String) → List Class → Except (List Class) (List Class)
  | _, _, [] => .ok []
  | 0, _, pending => .error pending
  | passes + 1, placed, pending =>
    let (taken, left) := orderPass r module placed pending
    if taken.isEmpty then .error left
    else (orderPasses r module passes (taken.map Class.name ++ placed) left).map (taken ++ ·)

end Registry

/-- Classes in the order of their names. -/
def sortedByName (classes : List Class) : List Class :=
  classes.mergeSort fun a b => decide (a.name ≤ b.name)

/-- The classes of a module in emission order. -/
def Context.orderedClasses (ctx : Context) (module : String) :
    Except GenerationError (List Class) :=
  let classes := ctx.registry.classesIn module
  if ctx.config.isMain module then
    (ctx.registry.orderPasses module classes.length [] classes).mapError fun left =>
      .dependencyCycle module (left.map Class.name)
  else .ok (sortedByName classes)

end Bindery
