import Mathlib.Tactic.Lemma
import Mathlib.Data.List.Sort
import Bindery.Generator
import Bindery.Proofs.Includes
import Bindery.Proofs.Order
import Bindery.Proofs.Sample

/-!
# The order of a model

A registry keeps its classes in model order, and generation breaks ties by it: in the main module.
Anywhere else the order makes no difference (`generation_ignores_order`).

Generation asks a registry about a class in two ways.  It looks up names, and it lists the direct
and indirect bases of a class; both answers are the same in every order, as names are distinct
(`Registry.agrees_of_perm`).  Whatever is emitted for one class is made of such answers, emitter by
emitter (`Registry.Agrees`).

The lists of classes are left.  Those of a module come sorted by name, unless it is the main module,
and so do the modules.
-/

namespace Bindery

/-! ## Registries that give the same answers -/

/-- Two registries agree if every name means the same class in both and has the same bases. -/
structure Registry.Agrees (r r' : Registry) : Prop where
  find? : r.find? = r'.find?
  allBases : r.allBases = r'.allBases

namespace Registry

variable {r r' : Registry} {module : String}

/-- As names are distinct, a name means the same class in every order. -/
lemma find?_eq_of_perm (hperm : r.classes.Perm r'.classes) : r.find? = r'.find? := by
  funext name
  refine Option.ext fun c => ?_
  rw [find?_eq_some_iff, find?_eq_some_iff, hperm.mem_iff]

/-- A walk through bases only looks up names. -/
lemma walkBases_congr (hfind : r.find? = r'.find?) (depth : ℕ) :
    r.walkBases depth = r'.walkBases depth := by
  induction depth with
  | zero => rfl
  | succ depth ih =>
    funext found bases
    unfold walkBases
    rw [ih, hfind]

theorem agrees_of_perm (hperm : r.classes.Perm r'.classes) : r.Agrees r' where
  find? := find?_eq_of_perm hperm
  allBases := by
    have hfind : r.find? = r'.find? := find?_eq_of_perm hperm
    have hsize : r.size = r'.size := hperm.length_eq
    funext name
    unfold Registry.allBases
    rw [hfind, hsize, walkBases_congr hfind]

lemma perm_classesIn (hperm : r.classes.Perm r'.classes) (module : String) :
    (r.classesIn module).Perm (r'.classesIn module) :=
  hperm.filter _

lemma modules_eq_of_perm (hperm : r.classes.Perm r'.classes) : r.modules = r'.modules := by
  have hsorted : ∀ r : Registry, r.modules.Pairwise (· < ·) := fun r =>
    Text.pairwise_lt_sorted (nodup_eraseDups _)
  refine (hsorted r).eq_of_mem_iff (hsorted r') fun module => ?_
  simp only [modules, Text.mem_sorted, List.mem_eraseDups, (hperm.map Class.module).mem_iff]

end Registry

/-- Classes with distinct names are sorted by them in one way. -/
lemma sortedByName_eq_of_perm {classes classes' : List Class} (hperm : classes.Perm classes')
    (hdistinct : ∀ b ∈ classes, ∀ c ∈ classes, b.name = c.name → b = c) :
    sortedByName classes = sortedByName classes' := by
  have hsorted : ∀ classes : List Class,
      (sortedByName classes).Pairwise fun b c => b.name ≤ c.name :=
    Text.pairwise_le_mergeSort Class.name
  have hsame : (sortedByName classes).Perm (sortedByName classes') :=
    (List.mergeSort_perm _ _).trans (hperm.trans (List.mergeSort_perm _ _).symm)
  refine hsame.eq_of_pairwise ?_ (hsorted classes) (hsorted classes')
  intro b c hb hc hbc hcb
  have hb : b ∈ classes := List.mem_mergeSort.1 hb
  have hc : c ∈ classes := hperm.mem_iff.2 (List.mem_mergeSort.1 hc)
  exact hdistinct b hb c hc (String.le_antisymm hbc hcb)

namespace Context

/-! ## What the configuration alone decides -/

section
variable (r r' : Registry) (config : Config)

lemma spell_eq : spell ⟨r, config⟩ = spell ⟨r', config⟩ := rfl

lemma managedType_eq : managedType ⟨r, config⟩ = managedType ⟨r', config⟩ := rfl

lemma subclassName_eq : subclassName ⟨r, config⟩ = subclassName ⟨r', config⟩ := rfl

lemma hookParameters_eq : hookParameters ⟨r, config⟩ = hookParameters ⟨r', config⟩ := rfl

lemma hookStatement_eq : hookStatement ⟨r, config⟩ = hookStatement ⟨r', config⟩ := rfl

lemma callee_eq : callee ⟨r, config⟩ = callee ⟨r', config⟩ := rfl

end

end Context

namespace Registry.Agrees

variable {r r' : Registry} {config : Config} (h : r.Agrees r')
include h

lemma moduleOf? : r.moduleOf? = r'.moduleOf? := by
  funext name
  unfold Registry.moduleOf?
  rw [h.find?]

lemma knownBases : r.knownBases = r'.knownBases := by
  funext name
  unfold Registry.knownBases
  rw [h.find?, h.allBases]

lemma derivesFrom : r.derivesFrom = r'.derivesFrom := by
  funext name root
  unfold Registry.derivesFrom
  rw [h.allBases]

lemma findEnum? : r.findEnum? = r'.findEnum? := by
  funext token scope
  unfold Registry.findEnum?
  rw [h.find?]

/-! ## Types and prototypes -/

lemma isMainName : Context.isMainName ⟨r, config⟩ = Context.isMainName ⟨r', config⟩ := by
  funext name
  unfold Context.isMainName
  dsimp only
  rw [h.moduleOf?]

lemma resolve? : Context.resolve? ⟨r, config⟩ = Context.resolve? ⟨r', config⟩ := by
  funext v text
  unfold Context.resolve? Context.tokenKind? Context.namedKind?
  dsimp only
  rw [h.find?, h.findEnum?]
  rfl

lemma outputSurface : Context.outputSurface ⟨r, config⟩ = Context.outputSurface ⟨r', config⟩ := by
  funext v k surface
  unfold Context.outputSurface
  rw [h.isMainName]

lemma headerParameters :
    Context.headerParameters ⟨r, config⟩ = Context.headerParameters ⟨r', config⟩ := by
  funext v
  unfold Context.headerParameters Context.headerParameter
  rw [h.resolve?, Context.spell_eq r r']

lemma headerOutput : Context.headerOutput ⟨r, config⟩ = Context.headerOutput ⟨r', config⟩ := by
  funext v
  unfold Context.headerOutput Context.spellOutput
  rw [h.resolve?, h.outputSurface, Context.spell_eq r r']

lemma prototype : Context.prototype ⟨r, config⟩ = Context.prototype ⟨r', config⟩ := by
  funext v
  unfold Context.prototype
  rw [h.headerOutput, h.headerParameters]

lemma callArguments : Context.callArguments ⟨r, config⟩ = Context.callArguments ⟨r', config⟩ := by
  funext v
  unfold Context.callArguments Context.callArgument
  rw [h.resolve?]

lemma callbackArguments :
    Context.callbackArguments ⟨r, config⟩ = Context.callbackArguments ⟨r', config⟩ := by
  funext v
  unfold Context.callbackArguments Context.callbackArgument
  rw [h.resolve?, Context.hookParameters_eq r r']

/-! ## Checks -/

lemma checkMethod : Context.checkMethod ⟨r, config⟩ = Context.checkMethod ⟨r', config⟩ := by
  funext c v
  unfold Context.checkMethod Context.checkHook
  rw [h.callbackArguments, h.prototype]
  rfl

lemma supportedBases :
    Context.supportedBases ⟨r, config⟩ = Context.supportedBases ⟨r', config⟩ := by
  funext c
  unfold Context.supportedBases
  dsimp only
  rw [h.knownBases]
  rfl

/-! ## Headers -/

lemma declare : Context.declare ⟨r, config⟩ = Context.declare ⟨r', config⟩ := by
  funext c v w
  unfold Context.declare Context.declaration
  rw [h.checkMethod, h.prototype]

lemma declareOwn : Context.declareOwn ⟨r, config⟩ = Context.declareOwn ⟨r', config⟩ := by
  funext main c w m
  unfold Context.declareOwn Context.declareSignal Context.declareVirtual Context.declareInstances
    Context.declareSettling
  rw [h.declare]
  rfl

lemma declareInherited :
    Context.declareInherited ⟨r, config⟩ = Context.declareInherited ⟨r', config⟩ := by
  funext c base w m
  unfold Context.declareInherited
  rw [h.checkMethod, h.declare]

lemma header : Context.header ⟨r, config⟩ = Context.header ⟨r', config⟩ := by
  funext module classes
  unfold Context.header Context.classHeader Context.declarations
  rw [h.declareOwn, h.declareInherited, h.supportedBases]
  rfl

/-! ## Implementations -/

lemma statement : Context.statement ⟨r, config⟩ = Context.statement ⟨r', config⟩ := by
  funext c v cast qualifier
  unfold Context.statement Context.callStatement
  rw [h.callArguments, h.resolve?, Context.hookStatement_eq r r', Context.callee_eq r r']

lemma define : Context.define ⟨r, config⟩ = Context.define ⟨r', config⟩ := by
  funext c v cast qualifier w
  unfold Context.define Context.body
  rw [h.checkMethod, h.prototype, h.statement]

lemma defineOwn : Context.defineOwn ⟨r, config⟩ = Context.defineOwn ⟨r', config⟩ := by
  funext main c w m
  unfold Context.defineOwn Context.defineSignal Context.defineMember Context.defineSettling
  rw [h.define]
  rfl

lemma defineInherited :
    Context.defineInherited ⟨r, config⟩ = Context.defineInherited ⟨r', config⟩ := by
  funext main c base w m
  unfold Context.defineInherited
  rw [h.checkMethod, h.define]
  rfl

lemma bodies : Context.bodies ⟨r, config⟩ = Context.bodies ⟨r', config⟩ := by
  funext main c
  unfold Context.bodies
  rw [h.defineOwn, h.defineInherited, h.supportedBases]

lemma trampolineOutcome :
    Context.trampolineOutcome ⟨r, config⟩ = Context.trampolineOutcome ⟨r', config⟩ := by
  funext c member v
  unfold Context.trampolineOutcome Context.trampoline
  rw [h.callbackArguments, h.resolve?, Context.subclassName_eq r r',
    Context.hookParameters_eq r r']

lemma overrideOwn : Context.overrideOwn ⟨r, config⟩ = Context.overrideOwn ⟨r', config⟩ := by
  funext main c w m
  unfold Context.overrideOwn Context.addTrampoline
  rw [h.checkMethod, h.trampolineOutcome]

lemma overrideInherited :
    Context.overrideInherited ⟨r, config⟩ = Context.overrideInherited ⟨r', config⟩ := by
  funext c base w m
  unfold Context.overrideInherited Context.addTrampoline
  rw [h.checkMethod, h.trampolineOutcome]

lemma overridingMembers :
    Context.overridingMembers ⟨r, config⟩ = Context.overridingMembers ⟨r', config⟩ := by
  funext main c
  unfold Context.overridingMembers
  rw [h.overrideOwn, h.overrideInherited, h.supportedBases]

lemma slotMembers : Context.slotMembers ⟨r, config⟩ = Context.slotMembers ⟨r', config⟩ := by
  funext c
  unfold Context.slotMembers
  rw [h.checkMethod, h.trampolineOutcome]

lemma subclass? : Context.subclass? ⟨r, config⟩ = Context.subclass? ⟨r', config⟩ := by
  funext main c
  unfold Context.subclass? Context.forwardingConstructors Context.namesObjects
  dsimp only
  rw [h.checkMethod, h.overridingMembers, h.slotMembers, h.derivesFrom]
  rfl

lemma includes : Context.includes ⟨r, config⟩ = Context.includes ⟨r', config⟩ := by
  funext mentioned
  unfold Context.includes Context.hasHeader
  dsimp only
  rw [h.moduleOf?]

lemma implementation :
    Context.implementation ⟨r, config⟩ = Context.implementation ⟨r', config⟩ := by
  funext module stem classes
  unfold Context.implementation Context.classImplementation
  rw [h.bodies, h.subclass?, h.includes]
  rfl

/-! ## Managed contracts -/

lemma managedOutput : Context.managedOutput ⟨r, config⟩ = Context.managedOutput ⟨r', config⟩ := by
  funext v
  unfold Context.managedOutput
  rw [h.resolve?, h.outputSurface, Context.spell_eq r r', Context.managedType_eq r r']

lemma handlerType : Context.handlerType ⟨r, config⟩ = Context.handlerType ⟨r', config⟩ := by
  funext v
  unfold Context.handlerType Context.handlerOutput Context.managedParameter
  rw [h.resolve?, h.isMainName, Context.hookParameters_eq r r', Context.managedType_eq r r']

lemma managedInput : Context.managedInput ⟨r, config⟩ = Context.managedInput ⟨r', config⟩ := by
  funext v
  unfold Context.managedInput Context.callbackParameter Context.managedParameter
  rw [h.resolve?, h.handlerType, Context.hookParameters_eq r r', Context.spell_eq r r',
    Context.managedType_eq r r']

lemma managedSignature :
    Context.managedSignature ⟨r, config⟩ = Context.managedSignature ⟨r', config⟩ := by
  funext v
  unfold Context.managedSignature
  rw [h.managedInput, h.managedOutput]

lemma callbackSignature :
    Context.callbackSignature ⟨r, config⟩ = Context.callbackSignature ⟨r', config⟩ := by
  funext v
  unfold Context.callbackSignature
  rw [h.managedInput, h.managedOutput]

lemma listWrapper : Context.listWrapper ⟨r, config⟩ = Context.listWrapper ⟨r', config⟩ := by
  funext c v w
  unfold Context.listWrapper Context.symbolClaim
  rw [h.checkMethod, h.managedSignature]

lemma listHooks : Context.listHooks ⟨r, config⟩ = Context.listHooks ⟨r', config⟩ := by
  funext v w
  unfold Context.listHooks
  rw [h.managedSignature]

lemma listCallback : Context.listCallback ⟨r, config⟩ = Context.listCallback ⟨r', config⟩ := by
  funext v w
  unfold Context.listCallback
  rw [h.callbackSignature]

lemma listOwn : Context.listOwn ⟨r, config⟩ = Context.listOwn ⟨r', config⟩ := by
  funext main c w m
  unfold Context.listOwn Context.listSignal Context.listVirtual Context.listMember
  rw [h.listWrapper, h.listHooks, h.listCallback, h.checkMethod]
  rfl

lemma listInherited : Context.listInherited ⟨r, config⟩ = Context.listInherited ⟨r', config⟩ := by
  funext c base w m
  unfold Context.listInherited
  rw [h.checkMethod, h.listWrapper, h.listHooks, h.listCallback]
  rfl

lemma classContract : Context.classContract ⟨r, config⟩ = Context.classContract ⟨r', config⟩ := by
  funext main c
  unfold Context.classContract Context.contractOutcomes
  rw [h.listOwn, h.listInherited, h.supportedBases]
  rfl

/-! ## Emission orders -/

lemma orderPasses : r.orderPasses = r'.orderPasses := by
  have hready : r.isReady = r'.isReady := by
    funext module placed c
    unfold Registry.isReady
    rw [h.moduleOf?]
  have hpass : r.orderPass = r'.orderPass := by
    funext module placed classes
    induction classes generalizing placed with
    | nil => rfl
    | cons c rest ih => simp only [Registry.orderPass, hready, ih]
  funext module passes placed pending
  induction passes generalizing placed pending with
  | zero => cases pending <;> rfl
  | succ passes ih =>
    cases pending with
    | nil => rfl
    | cons c rest => simp only [Registry.orderPasses, hpass, ih]

end Registry.Agrees

namespace Context

variable {r r' : Registry} {config : Config}

/-- The classes of a module come in the same order, if those of the main module did. -/
lemma emittedClasses_eq_of_perm (hperm : r.classes.Perm r'.classes)
    (hmain : r.classesIn config.framework.mainModule = r'.classesIn config.framework.mainModule)
    (module : String) :
    emittedClasses ⟨r, config⟩ module = emittedClasses ⟨r', config⟩ module := by
  have hclasses : (r.classesIn module).Perm (r'.classesIn module) :=
    Registry.perm_classesIn hperm module
  have hempty : (r.classesIn module).isEmpty = (r'.classesIn module).isEmpty :=
    hclasses.isEmpty_eq
  unfold emittedClasses orderedClasses
  dsimp only
  rw [hempty]
  by_cases h : config.isMain module = true
  · obtain rfl : module = config.framework.mainModule := by simpa [Config.isMain] using h
    rw [if_pos h, if_pos h, hmain, (Registry.agrees_of_perm hperm).orderPasses]
  · have hdistinct : ∀ b ∈ r.classesIn module, ∀ c ∈ r.classesIn module,
        b.name = c.name → b = c := fun b hb c hc => Registry.eq_of_name_eq hb hc
    rw [if_neg h, if_neg h, sortedByName_eq_of_perm hclasses hdistinct]

/-- Take two registries with the same classes, in which the classes of the main module stand in the
same order.  Under every configuration each module is generated alike from both, or fails with the
same error; so are its managed declarations; and a run over all modules or over some visits the same
modules in the same order. -/
theorem generation_ignores_order (config : Config) {r r' : Registry}
    (hperm : r.classes.Perm r'.classes)
    (hmain : r.classesIn config.framework.mainModule = r'.classesIn config.framework.mainModule) :
    (∀ module, generate ⟨r, config⟩ module = generate ⟨r', config⟩ module) ∧
      (∀ module, signatures ⟨r, config⟩ module = signatures ⟨r', config⟩ module) ∧
      ∀ named, selectedModules ⟨r, config⟩ named = selectedModules ⟨r', config⟩ named ∧
        generateSelected ⟨r, config⟩ named = generateSelected ⟨r', config⟩ named := by
  have hagrees : r.Agrees r' := Registry.agrees_of_perm hperm
  have hclasses := emittedClasses_eq_of_perm hperm hmain
  have hgenerate : generate ⟨r, config⟩ = generate ⟨r', config⟩ := by
    funext module
    unfold generate
    rw [hclasses, hagrees.header, hagrees.implementation]
  have hmodules : selectedModules ⟨r, config⟩ = selectedModules ⟨r', config⟩ := by
    funext named
    unfold selectedModules
    dsimp only
    rw [Registry.modules_eq_of_perm hperm]
  refine ⟨congrFun hgenerate, ?_, fun named => ⟨congrFun hmodules named, ?_⟩⟩
  · intro module
    unfold signatures contract
    rw [hclasses, hagrees.classContract]
  · unfold generateSelected
    rw [hmodules, hgenerate]

end Context

namespace Sample

/-- Another class of the main module, which derives from `Counter`. -/
def stopwatch : Class where
  name := "Stopwatch"
  module := "main"
  bases := ["Counter"]
  methods := [{ name := "reset", fullName := "Stopwatch::reset", role := .slot }]

/-- The classes of the small model and a second class of the main module. -/
def ordered : Registry where
  classes := [object, event, stopwatch, timer, counter]
  distinct := by decide

/-- The same classes, those of the main module still in this order. -/
def reordered : Registry where
  classes := [timer, stopwatch, counter, object, event]
  distinct := by decide

end Sample

/-- Two orders of one model, which both generate the main module. -/
theorem generation_ignores_order_sample :
    Sample.ordered.classes.Perm Sample.reordered.classes ∧
      Sample.ordered.classesIn "main" = Sample.reordered.classesIn "main" ∧
      (∀ module, Context.generate ⟨Sample.ordered, {}⟩ module =
        Context.generate ⟨Sample.reordered, {}⟩ module) ∧
      (∀ module, Context.signatures ⟨Sample.ordered, {}⟩ module =
        Context.signatures ⟨Sample.reordered, {}⟩ module) ∧
      ∃ artifacts, Context.generateSelected ⟨Sample.ordered, {}⟩ ["main"] = .ok artifacts ∧
        Context.generateSelected ⟨Sample.reordered, {}⟩ ["main"] = .ok artifacts := by
  have hperm : Sample.ordered.classes.Perm Sample.reordered.classes := by decide +kernel
  have hmain : Sample.ordered.classesIn "main" = Sample.reordered.classesIn "main" := by
    decide +kernel
  obtain ⟨hgenerate, hsignatures, hselected⟩ :=
    Context.generation_ignores_order {} hperm hmain
  have hok : (Context.generateSelected ⟨Sample.ordered, {}⟩ ["main"]).isOk = true := by
    decide +kernel
  obtain ⟨artifacts, hartifacts⟩ := isOk_iff_exists.1 hok
  exact ⟨hperm, hmain, hgenerate, hsignatures, artifacts, hartifacts,
    (hselected ["main"]).2.symm.trans hartifacts⟩

end Bindery
