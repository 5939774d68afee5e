import Mathlib.Tactic.Lemma
import Bindery.Proofs.Candidates
import Bindery.Proofs.OperatorNames
import Bindery.Proofs.Order
import Bindery.Proofs.Provenance
import Bindery.Proofs.Sample
import Bindery.Proofs.Trampolines

/-!
# The slots that signals are connected to

A body that connects a signal takes the address of a member of the generated subclass.  The body is
emitted if its own view passes its check; the member is a trampoline, and whether there is one is
decided by the tests of another view.  `hook_has_slot_iff` says exactly when the member exists.

A view that connects is checked under a name with the tag of its direction in it, which makes no
difference to whether the name is an operator's (`View.namesOperator_toward_iff`).  The name of its
callback is tested by nobody before the trampoline.
-/

namespace Bindery

/-! ## Void outputs -/

namespace Context

variable {ctx : Context} {main : Bool} {c : Class} {v : View} {m : Method}

lemma resolve?_of_returnsVoid (hvoid : m.returnsVoid = true) (hrole : m.role ≠ .constructor) :
    ctx.resolve? (View.of m) (View.of m).outputToken = some .void := by
  have hrole' : (m.role == .constructor) = false := by simpa using hrole
  have htoken : (View.of m).outputToken = m.output := by
    simp [View.outputToken, View.of, hrole']
  rw [htoken]
  have hnone : ∀ t, substituted (View.of m) t = t := fun t => by
    simp [substituted, View.of]
  unfold resolve?
  simp only [Method.returnsVoid, Bool.or_eq_true, beq_iff_eq] at hvoid
  rcases hvoid with hblank | hvoid
  · simp [hblank]
  · have hparsed : TypeToken.parse "void" = ⟨"void", false, 0, 0⟩ := by decide +kernel
    simp [hvoid, hnone, hparsed, tokenKind?]

end Context

/-! ## Slots of hooks -/

/-- The generated subclasses of an implementation. -/
def Implementation.subclasses (i : Implementation) : List Subclass :=
  i.classes.filterMap ClassImplementation.subclass

/-- The wrapper bodies of an implementation. -/
def Implementation.bodies (i : Implementation) : List Body :=
  i.classes.flatMap ClassImplementation.defined

/-- Whether a statement connects or disconnects. -/
def Statement.isHook : Statement → Bool
  | .hook _ => true
  | .call _ => false

lemma Statement.isHook_iff {s : Statement} : s.isHook = true ↔ ∃ h, s = .hook h := by
  cases s <;> simp [isHook]

/-- A trampoline is the member whose address a hook takes: it stands in the subclass that the hook
names and has the name and the parameter types that the hook gives. -/
def Implementation.HasSlot (i : Implementation) (h : HookStatement) (t : Trampoline) : Prop :=
  ∃ s ∈ i.subclasses, s.name = h.subclass ∧ t ∈ s.trampolines ∧ t.member = h.slot ∧
    t.parameters.map Declared.type = h.slotTypes

namespace Context

variable {ctx : Context} {main : Bool} {c : Class} {v : View} {m : Method}

lemma mem_bodies {module : String} {a : Artifacts} (ha : ctx.generate module = .ok a) {b : Body} :
    b ∈ a.implementation.bodies ↔ ∃ c ∈ ctx.registry.classesIn module,
      b ∈ (ctx.classImplementation (ctx.config.isMain module) c).defined := by
  simp only [Implementation.bodies, List.mem_flatMap, mem_implementationClasses ha]
  constructor
  · rintro ⟨k, ⟨c, hc, rfl⟩, hb⟩
    exact ⟨c, hc, hb⟩
  · rintro ⟨c, hc, hb⟩
    exact ⟨_, ⟨c, hc, rfl⟩, hb⟩

lemma mem_subclasses {module : String} {a : Artifacts} (ha : ctx.generate module = .ok a)
    {s : Subclass} :
    s ∈ a.implementation.subclasses ↔ ∃ c ∈ ctx.registry.classesIn module,
      ctx.generatesSubclass c = true ∧ ctx.subclass? (ctx.config.isMain module) c = some s := by
  simp only [Implementation.subclasses, List.mem_filterMap, mem_implementationClasses ha]
  constructor
  · rintro ⟨k, ⟨c, hc, rfl⟩, hs⟩
    exact ⟨c, hc, subclass_eq_some_iff.1 hs⟩
  · rintro ⟨c, hc, hs⟩
    exact ⟨_, ⟨c, hc, rfl⟩, subclass_eq_some_iff.2 hs⟩

lemma isTrampoline_of_mem_subclasses {module : String} {a : Artifacts}
    (ha : ctx.generate module = .ok a) {s : Subclass} {t : Trampoline}
    (hs : s ∈ a.implementation.subclasses) (ht : t ∈ s.trampolines) :
    ∃ c ∈ ctx.registry.classesIn module,
      ctx.subclass? (ctx.config.isMain module) c = some s ∧
      ctx.IsTrampoline (ctx.config.isMain module) c t := by
  obtain ⟨c, hc, hgenerates, hsubclass⟩ := (mem_subclasses ha).1 hs
  refine ⟨c, hc, hsubclass, (isTrampoline_of_mem (isMain_of_mem_classesIn hc) ?_).2⟩
  rw [ClassImplementation.trampolines, subclass_eq_some_iff.2 ⟨hgenerates, hsubclass⟩]
  exact ht

/-- A body connects or disconnects exactly if its view does, and then takes the address of the slot
of its signal. -/
lemma hook_of_statement {subject : Class} {cast : String} {qualifier : Option String}
    {h : HookStatement} (hs : ctx.statement subject v cast qualifier = .ok (.hook h)) :
    v.direction.isHook = true ∧ h = ctx.hookStatement subject v := by
  unfold statement at hs
  cases hd : v.direction.isHook with
  | true =>
    rw [hd, if_pos rfl] at hs
    simp only [Except.ok.injEq, Statement.hook.injEq] at hs
    exact ⟨rfl, hs.symm⟩
  | false =>
    rw [hd] at hs
    cases hcall : ctx.callStatement subject v cast qualifier with
    | error o => simp [hcall, Except.map] at hs
    | ok s => simp [hcall, Except.map] at hs

lemma signal_of_hook {b : Body} {h : HookStatement} (hb : ctx.Defines main c b)
    (hh : b.statement = .hook h) :
    ctx.generatesSubclass c = true ∧ ∃ m ∈ c.methods, m.role = .signal ∧
      b.view.method = m ∧ h.subclass = ctx.subclassName c ∧ h.slot = (View.of m).slotName ∧
      h.slotTypes = nativeTypes (ctx.hookParameters (View.of m)) ∧
      (∀ p ∈ ctx.hookParameters (View.of m), ctx.Carries (View.of m) p) ∧
      ctx.excludes c m = false ∧ namesOperator (View.of m).rawManagedName = false := by
  obtain ⟨subject, hcandidate, hcheck, -, cast, qualifier, hs⟩ := hb
  rw [hh] at hs
  obtain ⟨hd, rfl⟩ := hook_of_statement hs
  obtain ⟨rfl, m, hm, hrole, hview⟩ := hcandidate.exists_signal hd
  generalize b.view.direction = d at hview hd
  obtain ⟨hexcluded, -, hhook, hprototype⟩ := checkMethod_eq_ok_iff.1 hcheck
  have hd' : b.view.direction.isHook = true := by rw [hview]; exact hd
  obtain ⟨hgenerates, hcarries⟩ := checkHook_eq_ok_iff.1 hhook hd'
  obtain ⟨hname, -, -⟩ := prototype_isOk_iff.1 hprototype
  rw [hview] at hcarries hexcluded hname ⊢
  refine ⟨hgenerates, m, hm, hrole, rfl, rfl, rfl, rfl, ?_, hexcluded, ?_⟩
  · exact fun p hp => (carries_congr rfl rfl).1 (hcarries p hp)
  · have hstructor : (View.of m).role.isStructor = false := by
      show m.role.isStructor = false
      rw [hrole]
      rfl
    have hplain : (View.of m).toward .plain = View.of m := rfl
    rw [View.namesOperator_toward_iff hstructor hd, hplain] at hname
    exact hname

/-- Only void signals are forwarded. -/
lemma returnsVoid_of_forwards (hv : ctx.Forwards main c v) (hmethod : v.method = m)
    (hrole : m.role = .signal) : m.returnsVoid = true := by
  cases hv with
  | signal hm hrole' hvoid hcheck => exact hmethod ▸ hvoid
  | override hv =>
    cases hv with
    | @own m' hm hrole' hslot hhooked hcheck hfree =>
      have hmethod : m' = m := hmethod
      exact absurd hrole (hmethod ▸ hrole')
    | @inherited base m' hbase hm hinherit hcheck hfree =>
      have hmethod : m' = m := hmethod
      simp only [isInheritable, Bool.and_eq_true] at hinherit
      exact hmethod ▸ hinherit.1.2
  | @slot m' hmain hm hslot hcheck =>
    have hmethod : m' = m := hmethod
    rw [hmethod, hrole] at hslot
    cases hslot

lemma exists_trampoline_of_signal (hmain : main = ctx.isMain c)
    (hgenerates : ctx.generatesSubclass c = true) (hm : m ∈ c.methods) (hrole : m.role = .signal)
    (hcarries : ∀ p ∈ ctx.hookParameters (View.of m), ctx.Carries (View.of m) p)
    (hexcluded : ctx.excludes c m = false)
    (hname : namesOperator (View.of m).rawManagedName = false)
    (hvoid : m.returnsVoid = true)
    (hcallback : namesOperator (View.of m).rawCallbackName = false) :
    ∃ t ∈ (ctx.classImplementation main c).trampolines,
      ctx.trampoline c (View.of m).slotName (View.of m) = .ok t := by
  have hconstructor : m.role ≠ .constructor := by rw [hrole]; simp
  have houtput : ctx.resolve? (View.of m) (View.of m).outputToken = some .void :=
    resolve?_of_returnsVoid hvoid hconstructor
  have hcheck : ctx.checkMethod c (View.of m) = .ok () := by
    rw [checkMethod_eq_ok_iff, prototype_isOk_iff, checkHook_eq_ok_iff]
    refine ⟨hexcluded, ?_, nofun, hname, fun _ => ⟨_, houtput⟩, fun h => absurd hrole h⟩
    have hother : (m.role == .constructor) = false := by simpa using hconstructor
    exact Bool.and_eq_false_imp.2 fun h => by
      rw [show (View.of m).method.role = m.role from rfl, hother] at h
      cases h
  obtain ⟨t, ht⟩ : ∃ t, ctx.trampoline c (View.of m).slotName (View.of m) = .ok t :=
    trampoline_isOk_iff.2 ⟨View.callbackName_isOk_iff.2 hcallback, hcarries, ⟨_, houtput⟩⟩
  have ho : ctx.trampolineOutcome c (View.of m).slotName (View.of m) ∈
      ctx.overridingMembers main c := mem_overridingMembers_of_signal hm hrole hvoid hcheck
  rw [trampolineOutcome_eq_written_iff.2 ht] at ho
  refine ⟨t, ?_, ht⟩
  rw [trampolines_eq hmain hgenerates]
  exact List.mem_append_left _ (mem_writtenItems.2 ho)

lemma nativeParameters_types (parameters : List (Parameter × ℕ)) :
    (nativeParameters parameters).map Declared.type = nativeTypes parameters := by
  simp [nativeParameters, nativeTypes]

/-- In whatever is generated, the subclass that a hook names exists.  The slot that it names exists
if and only if its signal is void and the callback of the signal has a name, or another trampoline
happens to have the name and the types of the slot. -/
theorem hook_has_slot_iff {ctx : Context} {module : String} {a : Artifacts} {b : Body}
    {h : HookStatement} (ha : ctx.generate module = .ok a) (hb : b ∈ a.implementation.bodies)
    (hh : b.statement = .hook h) :
    (∃ s ∈ a.implementation.subclasses, s.name = h.subclass) ∧
      ((∃ t, a.implementation.HasSlot h t) ↔
        b.view.method.returnsVoid = true ∧
            namesOperator (View.of b.view.method).rawCallbackName = false ∨
          ∃ t, a.implementation.HasSlot h t ∧ t.view ≠ View.of b.view.method) := by
  obtain ⟨c, hc, hb⟩ := (mem_bodies ha).1 hb
  have hmain : ctx.config.isMain module = ctx.isMain c := isMain_of_mem_classesIn hc
  have hdefines := (defines_of_mem_defined hb).2
  obtain ⟨hgenerates, m, hm, hrole, rfl, hsubclass, hslot, htypes, hcarries, hexcluded, hname⟩ :=
    signal_of_hook hdefines hh
  obtain ⟨s, hs, hsname, -⟩ := exists_subclass hmain hgenerates
  have hmem : s ∈ a.implementation.subclasses :=
    (mem_subclasses ha).2 ⟨c, hc, subclass_eq_some_iff.1 hs⟩
  refine ⟨⟨s, hmem, hsname.trans hsubclass.symm⟩, ?_, ?_⟩
  · rintro ⟨t, hhas⟩
    by_cases hview : t.view = View.of b.view.method
    · -- it is the one of the signal itself, and only void signals are forwarded
      obtain ⟨s', hs', -, ht, -, -⟩ := hhas
      obtain ⟨c', -, -, hforwards, hok⟩ := isTrampoline_of_mem_subclasses ha hs' ht
      have hcallback := (trampoline_isOk_iff.1 ⟨t, hok⟩).1
      rw [hview, View.callbackName_isOk_iff] at hcallback
      have hmethod : t.view.method = b.view.method := by rw [hview]; rfl
      exact .inl ⟨returnsVoid_of_forwards hforwards hmethod hrole, hcallback⟩
    · exact .inr ⟨t, hhas, hview⟩
  · rintro (⟨hvoid, hcallback⟩ | ⟨t, hhas, -⟩)
    · obtain ⟨t, ht, hok⟩ := exists_trampoline_of_signal hmain hgenerates hm hrole hcarries
        hexcluded hname hvoid hcallback
      obtain ⟨-, -, -, -, -, hmember, hparameters, -⟩ := trampoline_eq_ok_iff.1 hok
      rw [ClassImplementation.trampolines, hs] at ht
      refine ⟨t, s, hmem, hsname.trans hsubclass.symm, ht, hmember.trans hslot.symm, ?_⟩
      rw [hparameters, nativeParameters_types, htypes]
    · exact ⟨t, hhas⟩

/-- A void signal of a main-module class is connected to a slot that exists. -/
theorem hook_has_slot_sample :
    ∃ a b h, Sample.context.generate "main" = .ok a ∧ b ∈ a.implementation.bodies ∧
      b.statement = .hook h ∧ ∃ t, a.implementation.HasSlot h t := by
  have hvoid : (Sample.context.generate "main").toOption.any (fun a => a.implementation.bodies.any
      fun b => b.statement.isHook && b.view.method.returnsVoid &&
        !namesOperator (View.of b.view.method).rawCallbackName) = true := by
    decide +kernel
  obtain ⟨a, hgenerate, hvoid⟩ := any_toOption_iff.1 hvoid
  simp only [List.any_eq_true, Bool.and_eq_true, Bool.not_eq_true'] at hvoid
  obtain ⟨b, hb, ⟨hhook, hvoid⟩, hcallback⟩ := hvoid
  obtain ⟨h, hh⟩ := Statement.isHook_iff.1 hhook
  have hslot := (hook_has_slot_iff hgenerate hb hh).2.2 (.inl ⟨hvoid, hcallback⟩)
  exact ⟨a, b, h, hgenerate, hb, hh, hslot⟩

end Context

/-- A main-module class with one signal, which puts something out. -/
def Sample.outputSignal : Context where
  registry := {
    classes := [object, { counter with methods := [
      { name := "count", fullName := "Counter::count", role := .signal, output := "int" }] }]
    distinct := by decide }
  config := {}

/-- A signal with an output is connected to a slot that does not exist. -/
theorem hook_without_slot :
    ∃ a b h, Sample.outputSignal.generate "main" = .ok a ∧ b ∈ a.implementation.bodies ∧
      b.statement = .hook h ∧ ¬∃ t, a.implementation.HasSlot h t := by
  have hnone : (Sample.outputSignal.generate "main").toOption.any (fun a =>
      a.implementation.bodies.any (·.statement.isHook) &&
        a.implementation.subclasses.all (·.trampolines.isEmpty)) = true := by
    decide +kernel
  obtain ⟨a, hgenerate, hnone⟩ := any_toOption_iff.1 hnone
  simp only [Bool.and_eq_true, List.any_eq_true, List.all_eq_true, List.isEmpty_iff] at hnone
  obtain ⟨⟨b, hb, hhook⟩, hempty⟩ := hnone
  obtain ⟨h, hh⟩ := Statement.isHook_iff.1 hhook
  refine ⟨a, b, h, hgenerate, hb, hh, ?_⟩
  rintro ⟨t, s, hs, -, ht, -⟩
  rw [hempty s hs] at ht
  cases ht

end Bindery
