import Mathlib.Tactic.Lemma
import Mathlib.Data.List.Basic
import Bindery.Proofs.Includes
import Bindery.Proofs.Precedence
import Bindery.Proofs.Sample

/-!
# Generated subclasses as types

A generated subclass is used by two parts of the implementation that it is not written with.  The
wrapper of a constructor makes an object of it, and so calls one of its constructors; another
generated subclass may derive from it, and has to stand after it.

What a wrapper calls and which constructors a subclass hands on are decided by different tests.
`constructors_handed_on_iff` says on which shapes of classes they part (`Context.Strands`): a
constructor template, which is checked at its instantiations but handed on as it was declared; a
main-module class without virtual methods, which hands nothing on and is made nevertheless; and a
class that happens to have the name of another one's subclass.

In the main module the classes are ordered with the bases first, whether or not anything is
generated for them.  `base_generated_before_iff` says what this comes to: a base that gets a
generated subclass stands before the classes derived from it, and nothing else stands there in its
place.
-/

namespace Bindery

/-! ## The subclasses of a module -/

namespace Context

variable {ctx : Context} {main : Bool} {module : String} {a : Artifacts} {c d : Class}
  {s : Subclass}

lemma name_of_subclass? (hs : ctx.subclass? main c = some s) : s.name = ctx.subclassName c := by
  obtain ⟨base, -, rfl⟩ := Option.map_eq_some_iff.1 hs
  rfl

lemma constructors_of_subclass? (hs : ctx.subclass? main c = some s) :
    s.constructors = ctx.forwardingConstructors c := by
  obtain ⟨base, -, rfl⟩ := Option.map_eq_some_iff.1 hs
  rfl

lemma base_mem_bases (hs : ctx.subclass? true c = some s) : s.base ∈ c.bases := by
  obtain ⟨base, hbase, rfl⟩ := Option.map_eq_some_iff.1 hs
  exact List.mem_of_head? hbase

lemma subclassName_of_isMain (hmain : ctx.isMain c = true) : ctx.subclassName c = c.name := by
  simp [subclassName, hmain]

lemma subclassName_of_not_isMain (hmain : ctx.isMain c = false) :
    ctx.subclassName c = "My" ++ c.name := by
  simp [subclassName, hmain]

lemma isMain_eq_of_mem_classesIn (hc : c ∈ ctx.registry.classesIn module)
    (hd : d ∈ ctx.registry.classesIn module) : ctx.isMain c = ctx.isMain d :=
  (isMain_of_mem_classesIn hc).symm.trans (isMain_of_mem_classesIn hd)

lemma subclassName_of_mem_classesIn (hmain : ctx.config.isMain module = true)
    (hc : c ∈ ctx.registry.classesIn module) : ctx.subclassName c = c.name :=
  subclassName_of_isMain ((isMain_of_mem_classesIn hc).symm.trans hmain)

lemma eq_of_subclassName_eq (hc : c ∈ ctx.registry.classesIn module)
    (hd : d ∈ ctx.registry.classesIn module) (hname : ctx.subclassName c = ctx.subclassName d) :
    c = d := by
  have hmain : ctx.isMain d = ctx.isMain c := isMain_eq_of_mem_classesIn hd hc
  refine Registry.eq_of_name_eq hc hd ?_
  cases h : ctx.isMain c with
  | true =>
    rw [h] at hmain
    rwa [subclassName_of_isMain h, subclassName_of_isMain hmain] at hname
  | false =>
    rw [h] at hmain
    rw [subclassName_of_not_isMain h, subclassName_of_not_isMain hmain] at hname
    have hlists := congrArg String.toList hname
    rw [String.toList_append, String.toList_append] at hlists
    exact String.toList_inj.1 (List.append_cancel_left hlists)

end Context

/-! ## Constructors -/

/-- A body makes objects of the class `name`. -/
def Body.Constructs (b : Body) (name : String) : Prop :=
  ∃ call, b.statement = .call call ∧ call.callee = .construct name

/-- A subclass hands on a constructor: it has one that was written from the same record, with the
parameters of that record. -/
def Subclass.HandsOn (s : Subclass) (m : Method) : Prop :=
  ∃ f ∈ s.constructors, f.method = m ∧ f.parameters = nativeParameters (View.of m).parameters

/-- Whatever a body makes objects of, if it is a generated subclass, then it has the constructor
that the body is written from. -/
def Implementation.HandsOnConstructors (i : Implementation) : Prop :=
  ∀ b ∈ i.bodies, ∀ s ∈ i.subclasses, b.Constructs s.name → s.HandsOn b.view.method

instance (b : Body) (name : String) : Decidable (b.Constructs name) :=
  match h : b.statement with
  | .hook _ => isFalse fun ⟨call, hcall, _⟩ => Statement.noConfusion (h.symm.trans hcall)
  | .call call => decidable_of_iff (call.callee = .construct name) (by simp [Body.Constructs, h])

instance (s : Subclass) (m : Method) : Decidable (s.HandsOn m) :=
  inferInstanceAs (Decidable (∃ f ∈ s.constructors,
    f.method = m ∧ f.parameters = nativeParameters (View.of m).parameters))

/-- A constructor of the class has a wrapper. -/
def Context.WrapsConstructor (ctx : Context) (main : Bool) (c : Class) (m : Method) : Prop :=
  m ∈ c.methods ∧ m.role = .constructor ∧
    ∃ b ∈ (ctx.classImplementation main c).defined, b.view.method = m

/-- If the constructor `m` of the class `c` has a wrapper, then the wrapper makes objects of a
generated subclass that does not hand `m` on. -/
inductive Context.Strands (ctx : Context) (module : String) (c : Class) (m : Method) : Prop
  /-- A template has wrappers for its instantiations.  It is handed on as it was declared, if its
  types mean anything as they stand. -/
  | template (hgenerates : ctx.generatesSubclass c = true) (hvirtual : c.declaresVirtual = true)
      (hgeneric : m.isGeneric = true) (hcheck : ctx.checkMethod c (View.of m) ≠ .ok ())
  /-- Without virtual methods nothing is handed on, but a class of the main module is its own
  generated subclass. -/
  | virtualLess (hmain : ctx.isMain c = true) (hgenerates : ctx.generatesSubclass c = true)
      (hvirtual : c.declaresVirtual = false)
  /-- The class is made itself, and another one's subclass has its name. -/
  | namesake {d : Class} (hmain : ctx.isMain c = false)
      (hitself : (ctx.generatesSubclass c && c.declaresVirtual) = false)
      (hd : d ∈ ctx.registry.classesIn module) (hgenerates : ctx.generatesSubclass d = true)
      (hname : c.name = "My" ++ d.name) (hother : ∀ f ∈ ctx.forwardingConstructors d, f.method ≠ m)

namespace Context

variable {ctx : Context} {main : Bool} {module name : String} {a : Artifacts}
  {c d subject : Class} {s : Subclass} {m : Method} {v : View} {b : Body}

/-! ### What is handed on -/

lemma handsOn_iff_exists (hs : ctx.subclass? main c = some s) :
    s.HandsOn m ↔ ∃ f ∈ ctx.forwardingConstructors c, f.method = m := by
  rw [Subclass.HandsOn, constructors_of_subclass? hs]
  constructor
  · rintro ⟨f, hf, hmethod, -⟩
    exact ⟨f, hf, hmethod⟩
  · rintro ⟨f, hf, rfl⟩
    refine ⟨f, hf, rfl, ?_⟩
    unfold forwardingConstructors at hf
    split at hf
    · obtain ⟨m, -, rfl⟩ := List.mem_map.1 hf
      rfl
    · cases hf

/-- The constructors that the subclass of a class hands on are those that pass their check, if the
class declares a virtual method. -/
theorem exists_forwarding_iff :
    (∃ f ∈ ctx.forwardingConstructors c, f.method = m) ↔ c.declaresVirtual = true ∧
      m ∈ c.methods ∧ m.role = .constructor ∧ ctx.checkMethod c (View.of m) = .ok () := by
  unfold forwardingConstructors
  cases c.declaresVirtual with
  | false => simp
  | true =>
    simp only [if_true, List.mem_map, List.mem_filter, Bool.and_eq_true, beq_iff_eq,
      isOk_iff_eq_ok, true_and]
    constructor
    · rintro ⟨f, ⟨m', hm', rfl⟩, rfl⟩
      exact ⟨hm'.1, hm'.2.1, hm'.2.2⟩
    · rintro ⟨hm, hrole, hcheck⟩
      exact ⟨_, ⟨m, ⟨hm, hrole, hcheck⟩, rfl⟩, rfl⟩

/-! ### What is made -/

lemma ne_constructor {role : Role} (hstructor : role.isStructor = false) :
    role ≠ .constructor := by
  intro hrole
  rw [hrole] at hstructor
  cases hstructor

/-- A view makes objects exactly if its method is a constructor.  Then the class declares it, and it
is looked at as it was declared, unless it is a template. -/
lemma Candidate.constructor_cases (h : ctx.Candidate main c subject v) :
    (v.role = .constructor ↔ v.method.role = .constructor) ∧
      (v.role = .constructor → subject = c ∧ v.method ∈ c.methods ∧
        (v = View.of v.method ∨ v.method.isGeneric = true)) := by
  have hother : ∀ {v : View} {P : Prop}, v.role.isStructor = false →
      v.method.role.isStructor = false →
      (v.role = .constructor ↔ v.method.role = .constructor) ∧ (v.role = .constructor → P) := by
    intro v P hview hmethod
    exact ⟨iff_of_false (ne_constructor hview) (ne_constructor hmethod),
      fun h => absurd h (ne_constructor hview)⟩
  cases h with
  | @hook m d hm hrole hd =>
    have hsignal : m.role.isStructor = false := by rw [hrole]; rfl
    exact hother hsignal hsignal
  | @emit m hm hrole hpublic =>
    have hsignal : m.role.isStructor = false := by rw [hrole]; rfl
    exact hother rfl hsignal
  | virtual hm hrole himpure hstructor => exact hother rfl hstructor
  | default hm hrole himpure hstructor => exact hother rfl hstructor
  | @«instance» m i hm hrole hi =>
    have hgeneric : m.isGeneric = true := by
      cases hinstances : m.instantiations with
      | nil => simp [hinstances] at hi
      | cons i is => simp [Method.isGeneric, hinstances]
    exact ⟨Iff.rfl, fun _ => ⟨rfl, hm, .inr hgeneric⟩⟩
  | member hm hrole => exact ⟨Iff.rfl, fun _ => ⟨rfl, hm, .inl rfl⟩⟩
  | inherited hbase hm hinherit hfree => exact hother rfl (isStructor_of_isInheritable hinherit)
  | inheritedDefault hbase hm hinherit hfree =>
    exact hother rfl (isStructor_of_isInheritable hinherit)

/-- The body of a constructor makes objects of `constructedClass`, and no other body makes any. -/
lemma constructs_iff (hb : ctx.Defines main c b) :
    b.Constructs name ↔ b.view.method.role = .constructor ∧ name = ctx.constructedClass c := by
  obtain ⟨subject, hcandidate, -, -, cast, qualifier, hs⟩ := hb
  obtain ⟨hrole, hown⟩ := hcandidate.constructor_cases
  rw [← hrole]
  constructor
  · rintro ⟨call, hcall, hcallee⟩
    rw [hcall] at hs
    obtain ⟨-, -, hsame⟩ := call_of_statement hs
    rw [hcallee] at hsame
    unfold callee at hsame
    split at hsame
    next hconstructor =>
      obtain ⟨rfl, -⟩ := hown hconstructor
      exact ⟨hconstructor, Callee.construct.inj hsame⟩
    next => cases hsame
    next => split at hsame <;> cases hsame
  · rintro ⟨hconstructor, rfl⟩
    obtain ⟨rfl, -⟩ := hown hconstructor
    cases hstatement : b.statement with
    | hook h =>
      rw [hstatement] at hs
      have hsignal := hcandidate.isHook_iff.1 (hook_of_statement hs).1
      rw [hconstructor] at hsignal
      cases hsignal
    | call call =>
      rw [hstatement] at hs
      obtain ⟨-, -, hcallee⟩ := call_of_statement hs
      refine ⟨call, hstatement, ?_⟩
      rw [hcallee, callee, hconstructor]

/-- A constructor with a wrapper passes its check as it was declared, unless it is a template. -/
lemma check_or_isGeneric_of_wraps (hwraps : ctx.WrapsConstructor main c m) :
    ctx.checkMethod c (View.of m) = .ok () ∨ m.isGeneric = true := by
  obtain ⟨-, hrole, b, hb, rfl⟩ := hwraps
  obtain ⟨subject, hcandidate, hcheck, -⟩ := (defines_of_mem_defined hb).2
  obtain ⟨hmakes, hown⟩ := hcandidate.constructor_cases
  obtain ⟨rfl, -, hview | hgeneric⟩ := hown (hmakes.2 hrole)
  · exact .inl (hview ▸ hcheck)
  · exact .inr hgeneric

lemma constructedClass_of_virtual (hgenerates : ctx.generatesSubclass c = true)
    (hvirtual : c.declaresVirtual = true) : ctx.constructedClass c = ctx.subclassName c := by
  simp [constructedClass, hgenerates, hvirtual]

lemma constructedClass_of_itself
    (hitself : (ctx.generatesSubclass c && c.declaresVirtual) = false) :
    ctx.constructedClass c = c.name := by
  simp [constructedClass, hitself]

/-! ### Where both part -/

lemma Strands.exists_lost (hc : c ∈ ctx.registry.classesIn module)
    (h : ctx.Strands module c m) : ∃ d ∈ ctx.registry.classesIn module,
      ctx.generatesSubclass d = true ∧ ctx.constructedClass c = ctx.subclassName d ∧
      ∀ f ∈ ctx.forwardingConstructors d, f.method ≠ m := by
  cases h with
  | template hgenerates hvirtual hgeneric hcheck =>
    refine ⟨c, hc, hgenerates, constructedClass_of_virtual hgenerates hvirtual, ?_⟩
    intro f hf hmethod
    exact hcheck (exists_forwarding_iff.1 ⟨f, hf, hmethod⟩).2.2.2
  | virtualLess hmain hgenerates hvirtual =>
    refine ⟨c, hc, hgenerates, ?_, ?_⟩
    · rw [constructedClass_of_itself (by rw [hvirtual, Bool.and_false]),
        subclassName_of_isMain hmain]
    · intro f hf hmethod
      have hdeclares := (exists_forwarding_iff.1 ⟨f, hf, hmethod⟩).1
      rw [hvirtual] at hdeclares
      cases hdeclares
  | @namesake d hmain hitself hd hgenerates hsame hother =>
    have hmain' : ctx.isMain d = false := (isMain_eq_of_mem_classesIn hd hc).trans hmain
    refine ⟨d, hd, hgenerates, ?_, hother⟩
    rw [constructedClass_of_itself hitself, subclassName_of_not_isMain hmain', hsame]

/-- A constructor with a wrapper is stranded exactly if what the wrapper makes is a generated
subclass which does not hand it on. -/
theorem strands_iff (hc : c ∈ ctx.registry.classesIn module)
    (hwraps : ctx.WrapsConstructor main c m) :
    ctx.Strands module c m ↔ ∃ d ∈ ctx.registry.classesIn module,
      ctx.generatesSubclass d = true ∧ ctx.constructedClass c = ctx.subclassName d ∧
      ∀ f ∈ ctx.forwardingConstructors d, f.method ≠ m := by
  constructor
  · exact Strands.exists_lost hc
  rintro ⟨d, hd, hgenerates, hname, hlost⟩
  -- the wrapper makes the generated subclass only if the class declares a virtual method
  by_cases hvirtual : (ctx.generatesSubclass c && c.declaresVirtual) = true
  · simp only [Bool.and_eq_true] at hvirtual
    rw [constructedClass_of_virtual hvirtual.1 hvirtual.2] at hname
    obtain rfl : c = d := eq_of_subclassName_eq hc hd hname
    have hcheck : ctx.checkMethod c (View.of m) ≠ .ok () := by
      intro hcheck
      obtain ⟨f, hf, hmethod⟩ :=
        exists_forwarding_iff.2 ⟨hvirtual.2, hwraps.1, hwraps.2.1, hcheck⟩
      exact hlost f hf hmethod
    exact .template hgenerates hvirtual.2
      ((check_or_isGeneric_of_wraps hwraps).resolve_left hcheck) hcheck
  · have hitself : (ctx.generatesSubclass c && c.declaresVirtual) = false :=
      Bool.eq_false_of_not_eq_true hvirtual
    have hmodule : ctx.isMain d = ctx.isMain c := isMain_eq_of_mem_classesIn hd hc
    rw [constructedClass_of_itself hitself] at hname
    by_cases hmain : ctx.isMain c = true
    · rw [subclassName_of_isMain (hmodule.trans hmain)] at hname
      obtain rfl : c = d := Registry.eq_of_name_eq hc hd hname
      rw [hgenerates, Bool.true_and] at hitself
      exact .virtualLess hmain hgenerates hitself
    · have hmain : ctx.isMain c = false := Bool.eq_false_of_not_eq_true hmain
      rw [subclassName_of_not_isMain (hmodule.trans hmain)] at hname
      exact .namesake hmain hitself hd hgenerates hname hlost

lemma exists_mem_subclasses (ha : ctx.generate module = .ok a)
    (hc : c ∈ ctx.registry.classesIn module) (hgenerates : ctx.generatesSubclass c = true) :
    ∃ s ∈ a.implementation.subclasses,
      ctx.subclass? (ctx.config.isMain module) c = some s := by
  obtain ⟨s, hs, -⟩ := exists_subclass (isMain_of_mem_classesIn hc) hgenerates
  have hs' := (subclass_eq_some_iff.1 hs).2
  exact ⟨s, (mem_subclasses ha).2 ⟨c, hc, hgenerates, hs'⟩, hs'⟩

/-- In whatever is generated, a wrapper that makes objects of a generated subclass finds its
constructor there, exactly if no constructor with a wrapper is stranded. -/
theorem constructors_handed_on_iff {ctx : Context} {module : String} {a : Artifacts}
    (ha : ctx.generate module = .ok a) :
    a.implementation.HandsOnConstructors ↔
      ∀ c ∈ ctx.registry.classesIn module, ∀ m,
        ctx.WrapsConstructor (ctx.config.isMain module) c m → ¬ctx.Strands module c m := by
  constructor
  · intro hhands c hc m hwraps hstrands
    obtain ⟨d, hd, hgenerates, hname, hlost⟩ := (strands_iff hc hwraps).1 hstrands
    obtain ⟨-, hrole, b, hb, rfl⟩ := hwraps
    obtain ⟨s, hmem, hs⟩ := exists_mem_subclasses ha hd hgenerates
    have hmakes : b.Constructs s.name := by
      rw [constructs_iff (defines_of_mem_defined hb).2, name_of_subclass? hs]
      exact ⟨hrole, hname.symm⟩
    have hhanded : s.HandsOn b.view.method :=
      hhands b ((mem_bodies ha).2 ⟨c, hc, hb⟩) s hmem hmakes
    obtain ⟨f, hf, hmethod⟩ := (handsOn_iff_exists hs).1 hhanded
    exact hlost f hf hmethod
  · intro hnone b hb s hs hmakes
    obtain ⟨c, hc, hb⟩ := (mem_bodies ha).1 hb
    obtain ⟨d, hd, hgenerates, hs⟩ := (mem_subclasses ha).1 hs
    have hdefines := (defines_of_mem_defined hb).2
    obtain ⟨hrole, hname⟩ := (constructs_iff hdefines).1 hmakes
    rw [name_of_subclass? hs] at hname
    obtain ⟨subject, hcandidate, -⟩ := hdefines
    obtain ⟨hview, hown⟩ := hcandidate.constructor_cases
    have hwraps : ctx.WrapsConstructor (ctx.config.isMain module) c b.view.method :=
      ⟨(hown (hview.2 hrole)).2.1, hrole, b, hb, rfl⟩
    by_contra hlost
    refine hnone c hc b.view.method hwraps ((strands_iff hc hwraps).2 ?_)
    refine ⟨d, hd, hgenerates, hname.symm, fun f hf hmethod => ?_⟩
    exact hlost ((handsOn_iff_exists hs).2 ⟨f, hf, hmethod⟩)

end Context

/-- The constructor of `QTimer` makes a `MyQTimer`, which hands it on. -/
theorem constructors_handed_on_sample :
    ∃ a, Sample.context.generate "QtCore" = .ok a ∧ a.implementation.HandsOnConstructors ∧
      ∃ b ∈ a.implementation.bodies, ∃ s ∈ a.implementation.subclasses, b.Constructs s.name := by
  have hok : (Sample.context.generate "QtCore").isOk = true := by decide +kernel
  obtain ⟨a, ha⟩ := isOk_iff_exists.1 hok
  have htimer : Sample.timer ∈ Sample.context.registry.classesIn "QtCore" := by decide +kernel
  have hgenerates : Sample.context.generatesSubclass Sample.timer = true := by decide +kernel
  have hmakes : ∃ b ∈ (Sample.context.classImplementation
      (Sample.context.config.isMain "QtCore") Sample.timer).defined,
      b.Constructs (Sample.context.subclassName Sample.timer) := by
    decide +kernel
  obtain ⟨b, hb, hmakes⟩ := hmakes
  obtain ⟨s, hs, hsubclass⟩ := Context.exists_mem_subclasses ha htimer hgenerates
  refine ⟨a, ha, (Context.constructors_handed_on_iff ha).2 ?_, b,
    (Context.mem_bodies ha).2 ⟨_, htimer, hb⟩, s, hs, Context.name_of_subclass? hsubclass ▸ hmakes⟩
  rintro c hc m ⟨hm, hrole, -⟩ hstrands
  cases hstrands with
  | template hgenerates hvirtual hgeneric hcheck =>
    have htemplates : ∀ c ∈ Sample.context.registry.classesIn "QtCore", ∀ m ∈ c.methods,
        m.role = .constructor → m.isGeneric = false := by
      decide +kernel
    rw [htemplates c hc m hm hrole] at hgeneric
    cases hgeneric
  | virtualLess hmain hgenerates hvirtual =>
    rw [← Context.isMain_of_mem_classesIn hc] at hmain
    exact absurd hmain (by decide +kernel)
  | @namesake d hmain hitself hd hgenerates hname hother =>
    have hnames : ∀ c ∈ Sample.context.registry.classesIn "QtCore",
        ∀ d ∈ Sample.context.registry.classesIn "QtCore", c.name ≠ "My" ++ d.name := by
      decide +kernel
    exact hnames c hc d hd hname

/-- A main-module class with a constructor and a signal, but without a virtual method. -/
def Sample.constructible : Context where
  registry := {
    classes := [{ name := "QObject", module := "QtCore" }, { counter with methods := [
      { name := "Counter", fullName := "Counter::Counter", role := .constructor,
        parameters := [⟨"parent", "QObject *"⟩] },
      { name := "changed", fullName := "Counter::changed", role := .signal, output := "void" }] }]
    distinct := by decide }
  config := {}

/-- Its wrapper makes a `Counter` from a parent, and the generated class `Counter` has no such
constructor. -/
theorem constructor_stranded :
    ∃ a b s, Sample.constructible.generate "main" = .ok a ∧ b ∈ a.implementation.bodies ∧
      s ∈ a.implementation.subclasses ∧ b.Constructs s.name ∧ ¬s.HandsOn b.view.method := by
  have hstranded : (Sample.constructible.generate "main").toOption.any (fun a => decide
      (∃ b ∈ a.implementation.bodies, ∃ s ∈ a.implementation.subclasses,
        b.Constructs s.name ∧ ¬s.HandsOn b.view.method)) = true := by
    decide +kernel
  obtain ⟨a, ha, hstranded⟩ := any_toOption_iff.1 hstranded
  obtain ⟨b, hb, s, hs, hmakes, hlost⟩ := of_decide_eq_true hstranded
  exact ⟨a, b, s, ha, hb, hs, hmakes, hlost⟩

/-! ## Bases -/

namespace Context

variable {ctx : Context} {module : String} {a : Artifacts} {b d : Class} {s t : Subclass}
  {before after : List Subclass}

lemma generatesSubclass_iff : ctx.generatesSubclass b = true ↔ ctx.supports b = true ∧
    (b.declaresVirtual = true ∨ b.declaresSignal = true) ∧
    ctx.config.allowsSubclass b.name = true := by
  simp [generatesSubclass, and_assoc]

/-- The subclasses of a module stand in the order of its classes: those before a subclass are the
ones of the classes before its class, and so are those after it. -/
lemma exists_class_of_split (ha : ctx.generate module = .ok a)
    (hsplit : a.implementation.subclasses = before ++ s :: after) :
    ∃ first c last, ctx.emittedClasses module = .ok (first ++ c :: last) ∧
      ctx.subclass? (ctx.config.isMain module) c = some s ∧
      (∀ t, t ∈ before ↔ ∃ d ∈ first,
        (ctx.classImplementation (ctx.config.isMain module) d).subclass = some t) ∧
      ∀ t, t ∈ after ↔ ∃ d ∈ last,
        (ctx.classImplementation (ctx.config.isMain module) d).subclass = some t := by
  obtain ⟨classes, hclasses, rfl⟩ := generate_eq_ok_iff.1 ha
  simp only [Implementation.subclasses, implementation, List.filterMap_map] at hsplit
  obtain ⟨first, rest, rfl, rfl, hrest⟩ := List.filterMap_eq_append_iff.1 hsplit
  obtain ⟨skipped, c, last, rfl, hskipped, hc, rfl⟩ := List.filterMap_eq_cons_iff.1 hrest
  refine ⟨first ++ skipped, c, last, ?_, (subclass_eq_some_iff.1 hc).2, ?_, ?_⟩
  · rw [hclasses, List.append_assoc]
  · intro t
    rw [List.mem_filterMap]
    constructor
    · rintro ⟨d, hd, ht⟩
      exact ⟨d, List.mem_append_left _ hd, ht⟩
    · rintro ⟨d, hd, ht⟩
      rcases List.mem_append.1 hd with hd | hd
      · exact ⟨d, hd, ht⟩
      · have hnone : (ctx.classImplementation (ctx.config.isMain module) d).subclass = none :=
          hskipped d hd
        rw [hnone] at ht
        cases ht
  · intro t
    rw [List.mem_filterMap]
    rfl

lemma eq_of_name_of_subclass (hmain : ctx.config.isMain module = true)
    (hd : d ∈ ctx.registry.classesIn module) (hb : b ∈ ctx.registry.classesIn module)
    (ht : (ctx.classImplementation (ctx.config.isMain module) d).subclass = some t)
    (hname : t.name = b.name) : d = b ∧ ctx.generatesSubclass b = true := by
  obtain ⟨hgenerates, ht⟩ := subclass_eq_some_iff.1 ht
  rw [name_of_subclass? ht, subclassName_of_mem_classesIn hmain hd] at hname
  obtain rfl := Registry.eq_of_name_eq hd hb hname
  exact ⟨rfl, hgenerates⟩

/-- In whatever is generated for the main module, take a generated subclass that derives from a
class of the module.  A subclass with the name of that base stands before it, exactly if the base
gets one at all: if it passes its check, declares a virtual method or a signal, and is not refused
by its name.  None stands in its place or after it. -/
theorem base_generated_before_iff {ctx : Context} {module : String} {a : Artifacts}
    {before after : List Subclass} {s : Subclass} {b : Class}
    (hmain : ctx.config.isMain module = true) (ha : ctx.generate module = .ok a)
    (hsplit : a.implementation.subclasses = before ++ s :: after)
    (hb : b ∈ ctx.registry.classesIn module) (hbase : s.base = b.name) :
    ((∃ t ∈ before, t.name = b.name) ↔ ctx.supports b = true ∧
        (b.declaresVirtual = true ∨ b.declaresSignal = true) ∧
        ctx.config.allowsSubclass b.name = true) ∧
      ∀ t ∈ s :: after, t.name ≠ b.name := by
  obtain ⟨first, c, last, hclasses, hs, hbefore, hafter⟩ := exists_class_of_split ha hsplit
  have hperm := perm_of_emittedClasses hclasses
  have hmem : ∀ d ∈ first ++ c :: last, d ∈ ctx.registry.classesIn module :=
    fun d hd => hperm.subset hd
  have hnodup : (first ++ c :: last).Nodup :=
    hperm.nodup_iff.2 (ctx.registry.distinct.of_map.filter _)
  have hc : c ∈ ctx.registry.classesIn module := hmem c (by simp)
  have hderives : b.name ∈ c.bases := by
    rw [← hbase]
    exact base_mem_bases (hmain ▸ hs)
  -- classes and their subclasses are split at the same place
  have hfirst : b ∈ first :=
    basesFirst_of_emittedClasses hmain hclasses first c last rfl b ⟨hc, hb, hderives⟩
  rw [← generatesSubclass_iff]
  refine ⟨⟨?_, ?_⟩, ?_⟩
  · rintro ⟨t, ht, hname⟩
    obtain ⟨d, hd, ht⟩ := (hbefore t).1 ht
    have hd' : d ∈ ctx.registry.classesIn module := hmem d (List.mem_append_left _ hd)
    exact (eq_of_name_of_subclass hmain hd' hb ht hname).2
  · intro hgenerates
    obtain ⟨t, ht, hname, -⟩ := exists_subclass (isMain_of_mem_classesIn hb) hgenerates
    refine ⟨t, (hbefore t).2 ⟨b, hfirst, ht⟩, ?_⟩
    rw [hname, subclassName_of_mem_classesIn hmain hb]
  · intro t ht hname
    obtain ⟨d, hd, hsame⟩ : ∃ d ∈ c :: last, d = b := by
      rcases List.mem_cons.1 ht with rfl | ht
      · rw [name_of_subclass? hs, subclassName_of_mem_classesIn hmain hc] at hname
        exact ⟨c, List.mem_cons_self, Registry.eq_of_name_eq hc hb hname⟩
      · obtain ⟨d, hd, ht⟩ := (hafter t).1 ht
        have hd' : d ∈ ctx.registry.classesIn module := hmem d (by simp [hd])
        exact ⟨d, List.mem_cons_of_mem c hd, (eq_of_name_of_subclass hmain hd' hb ht hname).1⟩
    exact (List.nodup_append.1 hnodup).2.2 b hfirst d hd hsame.symm

end Context

/-- Two classes of the main module, the derived one first: `Base` with these methods and `Derived`
with a signal. -/
def Sample.inheritance (methods : List Method) : Context where
  registry := {
    classes := [
      { name := "QObject", module := "QtCore" },
      { name := "Derived", module := "main", bases := ["Base"], methods := [
        { name := "changed", fullName := "Derived::changed", role := .signal, output := "void" }] },
      { name := "Base", module := "main", bases := ["QObject"], methods }]
    distinct := by
      show ["QObject", "Derived", "Base"].Nodup
      decide }
  config := {}

/-- With a signal of its own `Base` is generated, and before `Derived`. -/
theorem base_generated_before_sample :
    let ctx := Sample.inheritance
      [{ name := "moved", fullName := "Base::moved", role := .signal, output := "void" }]
    ∃ a before s after, ctx.generate "main" = .ok a ∧
      a.implementation.subclasses = before ++ s :: after ∧ s.name = "Derived" ∧ s.base = "Base" ∧
      (∃ t ∈ before, t.name = "Base") ∧ ∀ t ∈ s :: after, t.name ≠ "Base" := by
  intro ctx
  have hderived : (ctx.generate "main").toOption.any (fun a =>
      a.implementation.subclasses.any fun s => s.name == "Derived" && s.base == "Base") = true := by
    decide +kernel
  obtain ⟨a, ha, hderived⟩ := any_toOption_iff.1 hderived
  simp only [List.any_eq_true, Bool.and_eq_true, beq_iff_eq] at hderived
  obtain ⟨s, hs, hname, hbase⟩ := hderived
  obtain ⟨before, after, hsplit⟩ := List.append_of_mem hs
  obtain ⟨b, hb, hb', hdue⟩ : ∃ b ∈ ctx.registry.classesIn "main", b.name = "Base" ∧
      ctx.generatesSubclass b = true := by
    decide +kernel
  have hmain : ctx.config.isMain "main" = true := by decide +kernel
  have hiff := Context.base_generated_before_iff hmain ha hsplit hb (hbase.trans hb'.symm)
  rw [hb'] at hiff
  rw [Context.generatesSubclass_iff, hb'] at hdue
  exact ⟨a, before, s, after, ha, hsplit, hname, hbase, hiff.1.2 hdue, hiff.2⟩

/-- With a plain method only `Base` is not generated, and `Derived` is. -/
theorem base_not_generated :
    let ctx := Sample.inheritance [{ name := "size", fullName := "Base::size", output := "int" }]
    ∃ a s b, ctx.generate "main" = .ok a ∧ s ∈ a.implementation.subclasses ∧
      b ∈ ctx.registry.classesIn "main" ∧ s.base = b.name ∧
      ∀ t ∈ a.implementation.subclasses, t.name ≠ b.name := by
  intro ctx
  have halone : (ctx.generate "main").toOption.any (fun a =>
      a.implementation.subclasses.any (·.base == "Base") &&
        a.implementation.subclasses.all (·.name != "Base")) = true := by
    decide +kernel
  obtain ⟨a, ha, halone⟩ := any_toOption_iff.1 halone
  simp only [Bool.and_eq_true, List.any_eq_true, List.all_eq_true, beq_iff_eq, bne_iff_ne,
    ne_eq] at halone
  obtain ⟨⟨s, hs, hbase⟩, hnone⟩ := halone
  obtain ⟨b, hb, hname⟩ : ∃ b ∈ ctx.registry.classesIn "main", b.name = "Base" := by
    decide +kernel
  refine ⟨a, s, b, ha, hs, hb, hbase.trans hname.symm, ?_⟩
  intro t ht
  rw [hname]
  exact hnone t ht

end Bindery
