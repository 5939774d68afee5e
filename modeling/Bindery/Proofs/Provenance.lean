import Mathlib.Tactic.Lemma
import Bindery.Proofs.Accounting
import Bindery.Proofs.Announcements
import Bindery.Proofs.OperatorNames
import Bindery.Proofs.Trampolines

/-!
# Where emitted views come from

Four walks emit views of methods for a class: its header declares them, its wrapper bodies define
them, its generated subclass forwards them, and its managed contract lists them.  Each asks its own
questions, and asks some of them under the name of a base.

Whatever they ask, they end up with two kinds of views (`Context.Stems`).  Either the class declares
the method, and the view keeps the name that the method has; or the class repeats the method of a
base (`Context.Repeats`), and the view has the name of the class.  In both cases the check speaks of
the class that declares the method, and of no other (`stems_of_emits`).

`Artifacts.Emits` puts the four lists of a module together, and `emits_iff` takes them apart again,
class by class.
-/

namespace Bindery

/-! ## Emitted views -/

/-- The views of which something is emitted for the class `c`. -/
inductive Context.Emits (ctx : Context) (main : Bool) (c : Class) : View → Prop
  /-- The header declares a wrapper. -/
  | declared {d : Declaration} (hd : d ∈ (ctx.classHeader main c).declared) :
      ctx.Emits main c d.view
  /-- The implementation defines a wrapper. -/
  | defined {b : Body} (hb : b ∈ (ctx.classImplementation main c).defined) :
      ctx.Emits main c b.view
  /-- The generated subclass has a trampoline. -/
  | forwarded {t : Trampoline} (ht : t ∈ (ctx.classImplementation main c).trampolines) :
      ctx.Emits main c t.view
  /-- The contract lists a signature. -/
  | listed {e : ContractEntry} {s : ManagedSignature} (he : e ∈ ctx.classContract main c)
      (hs : e.signature = some s) : ctx.Emits main c e.view

/-- The views of which something is emitted for a module. -/
inductive Artifacts.Emits (a : Artifacts) (entries : List ContractEntry) : View → Prop
  | declared {h : ClassHeader} {d : Declaration} (hh : h ∈ a.header.classes)
      (hd : d ∈ h.declared) : a.Emits entries d.view
  | defined {k : ClassImplementation} {b : Body} (hk : k ∈ a.implementation.classes)
      (hb : b ∈ k.defined) : a.Emits entries b.view
  | forwarded {k : ClassImplementation} {t : Trampoline} (hk : k ∈ a.implementation.classes)
      (ht : t ∈ k.trampolines) : a.Emits entries t.view
  | listed {e : ContractEntry} {s : ManagedSignature} (he : e ∈ entries)
      (hs : e.signature = some s) : a.Emits entries e.view

/-! ## Sources -/

/-- A class may repeat a method of a supported base: the method is inheritable and not blocked for
the class, and passes the check of the base under the name of the class. -/
structure Context.Repeats (ctx : Context) (c base : Class) (m : Method) : Prop where
  mem_bases : base ∈ ctx.supportedBases c
  mem_methods : m ∈ base.methods
  inheritable : isInheritable m = true
  free : ctx.config.blocks m.name c.name = false
  check : ctx.checkMethod base ((View.of m).retarget c.name) = .ok ()

/-- Where a view that is emitted for the class `c` comes from: the class that declares its
method. -/
inductive Context.Stems (ctx : Context) (c : Class) : Class → View → Prop
  /-- From the class itself. -/
  | own {v : View} (hm : v.method ∈ c.methods) (howner : v.owner = v.method.owner)
      (hallowed : ctx.excludes c v.method = false) : ctx.Stems c c v
  /-- From a base, whose method the class repeats under its own name. -/
  | inherited {base : Class} {v : View} (howner : v.owner = c.name)
      (hrepeats : ctx.Repeats c base v.method) : ctx.Stems c base v

namespace Context

variable {ctx : Context} {main : Bool} {c source subject base : Class} {v : View} {m : Method}

lemma isStructor_of_isInheritable (hinherit : isInheritable m = true) :
    m.role.isStructor = false := by
  simp only [isInheritable, Bool.and_eq_true, Bool.not_eq_true'] at hinherit
  exact hinherit.2

lemma inheritedView_eq (c : Class) (m : Method) :
    inheritedView c m = ((View.of m).retarget c.name).plain := rfl

lemma takesOver_of_default (hinherit : isInheritable m = true)
    (hcheck : ctx.checkMethod base (inheritedView c m).forwardDefault = .ok ()) :
    ctx.TakesOver c base m := by
  have hdirection : (inheritedView c m).direction ≠ .callback := by
    show Direction.plain ≠ .callback
    decide
  have hstructor : (inheritedView c m).role.isStructor = false := rfl
  have hinstantiation : (inheritedView c m).instantiation = none := rfl
  exact ⟨hinherit, checkMethod_of_forwardDefault hstructor hdirection hinstantiation hcheck⟩

lemma repeats_of_takesOver (hbase : base ∈ ctx.supportedBases c) (hm : m ∈ base.methods)
    (hfree : ctx.config.blocks m.name c.name = false) (htaken : ctx.TakesOver c base m) :
    ctx.Repeats c base m := by
  obtain ⟨hinherit, hcheck⟩ := htaken
  have hstructor : ((View.of m).retarget c.name).role.isStructor = false :=
    isStructor_of_isInheritable hinherit
  rw [inheritedView_eq] at hcheck
  exact ⟨hbase, hm, hinherit, hfree, checkMethod_of_plain hstructor hcheck⟩

/-- What may be repeated is taken over in the header, unless it is a signal. -/
lemma Repeats.takesOver (h : ctx.Repeats c base m) (hrole : m.role ≠ .signal) :
    ctx.TakesOver c base m := by
  have hstructor : ((View.of m).retarget c.name).role.isStructor = false :=
    isStructor_of_isInheritable h.inheritable
  have hcheck : ctx.checkMethod base ((View.of m).retarget c.name).plain = .ok () :=
    checkMethod_plain hstructor hrole h.check
  exact ⟨h.inheritable, hcheck⟩

lemma excludes_of_check (hcheck : ctx.checkMethod c v = .ok ()) :
    ctx.excludes c v.method = false :=
  (checkMethod_eq_ok_iff.1 hcheck).1

namespace Stems

lemma supports (h : ctx.Stems c source v) (hsupports : ctx.supports c = true) :
    ctx.supports source = true := by
  cases h with
  | own hm howner hallowed => exact hsupports
  | inherited howner hrepeats => exact (List.mem_filter.1 hrepeats.mem_bases).2

lemma toward (h : ctx.Stems c source v) (d : Direction) : ctx.Stems c source (v.toward d) := by
  cases h with
  | own hm howner hallowed => exact .own hm howner hallowed
  | inherited howner hrepeats => exact .inherited howner hrepeats

end Stems

/-- The class that a candidate is checked under is its source. -/
lemma Candidate.stems (h : ctx.Candidate main c subject v)
    (hcheck : ctx.checkMethod subject v = .ok ()) : ctx.Stems c subject v := by
  cases h with
  | hook hm | emit hm | virtual hm | default hm | «instance» hm | member hm =>
    exact .own hm rfl (excludes_of_check hcheck)
  | inherited hbase hm hinherit hfree =>
    exact .inherited rfl (repeats_of_takesOver hbase hm hfree ⟨hinherit, hcheck⟩)
  | inheritedDefault hbase hm hinherit hfree =>
    exact .inherited rfl (repeats_of_takesOver hbase hm hfree (takesOver_of_default hinherit hcheck))

lemma ListsCallback.stems (h : ctx.ListsCallback main c v) : ∃ source, ctx.Stems c source v := by
  cases h with
  | signal hm hrole hvoid hcheck => exact ⟨c, .own hm rfl (excludes_of_check hcheck)⟩
  | override hm hrole himpure hstructor hvoid hfree hcheck =>
    exact ⟨c, .own hm rfl (excludes_of_check hcheck)⟩
  | inherited hbase hm hinherit hcheck hfree =>
    exact ⟨_, .inherited rfl (repeats_of_takesOver hbase hm hfree ⟨hinherit, hcheck⟩)⟩
  | slot hmain hm hrole hcheck => exact ⟨c, .own hm rfl (excludes_of_check hcheck)⟩

lemma Forwards.stems (h : ctx.Forwards main c v) : ∃ source, ctx.Stems c source v := by
  cases h with
  | signal hm hrole hvoid hcheck => exact ⟨c, .own hm rfl (excludes_of_check hcheck)⟩
  | override hv =>
    cases hv with
    | own hm hrole hslot hhooked hcheck hfree =>
      exact ⟨c, .own hm rfl (excludes_of_check hcheck)⟩
    | inherited hbase hm hinherit hcheck hfree =>
      exact ⟨_, .inherited rfl ⟨hbase, hm, hinherit, hfree, hcheck⟩⟩
  | slot hmain hm hrole hcheck => exact ⟨c, .own hm rfl (excludes_of_check hcheck)⟩

/-! ## One class -/

lemma declares_of_mem_declared {d : Declaration} (hd : d ∈ (ctx.classHeader main c).declared) :
    ctx.supports c = true ∧ ctx.Declares main c d := by
  unfold ClassHeader.declared classHeader at hd
  cases hcheck : ctx.checkClass c with
  | error o => simp [hcheck, Except.map] at hd
  | ok u =>
    simp only [hcheck, Except.map] at hd
    exact ⟨checkClass_eq_ok_iff.1 hcheck, declares_of_mem hd⟩

lemma defines_of_mem_defined {b : Body} (hb : b ∈ (ctx.classImplementation main c).defined) :
    ctx.supports c = true ∧ ctx.Defines main c b := by
  simp only [ClassImplementation.defined, classImplementation] at hb
  split at hb
  next hsupports => exact ⟨hsupports, defines_of_mem hb⟩
  next => cases hb

lemma supports_of_mem_classContract {e : ContractEntry} (he : e ∈ ctx.classContract main c) :
    ctx.supports c = true := by
  unfold classContract at he
  split at he
  next hsupports => exact hsupports
  next => cases he

lemma stems_of_mem_classContract {e : ContractEntry} (he : e ∈ ctx.classContract main c) :
    ∃ source, ctx.Stems c source e.view := by
  cases hrole : e.role with
  | wrapper =>
    obtain ⟨-, subject, hcandidate, hcheck⟩ := candidate_of_mem_classContract he hrole
    exact ⟨subject, hcandidate.stems hcheck⟩
  | hook =>
    obtain ⟨-, v, d, hv, -, -, hview⟩ := isPair_of_mem he hrole
    obtain ⟨source, hstems⟩ := hv.stems
    exact ⟨source, hview ▸ hstems.toward d⟩
  | callback => exact (listsCallback_of_mem he hrole).2.1.stems

/-- Something is emitted only for a supported class, and every view of it has a source. -/
theorem stems_of_emits (hmain : main = ctx.isMain c) (h : ctx.Emits main c v) :
    ctx.supports c = true ∧ ∃ source, ctx.Stems c source v := by
  cases h with
  | declared hd =>
    obtain ⟨hsupports, subject, hcandidate, hcheck, -⟩ := declares_of_mem_declared hd
    exact ⟨hsupports, subject, hcandidate.stems hcheck⟩
  | defined hb =>
    obtain ⟨hsupports, subject, hcandidate, hcheck, -⟩ := defines_of_mem_defined hb
    exact ⟨hsupports, subject, hcandidate.stems hcheck⟩
  | forwarded ht =>
    obtain ⟨hgenerates, hforwards, -⟩ := isTrampoline_of_mem hmain ht
    exact ⟨supports_of_generatesSubclass hgenerates, hforwards.stems⟩
  | listed he hs => exact ⟨supports_of_mem_classContract he, stems_of_mem_classContract he⟩

/-! ## Modules -/

section
variable {module : String} {a : Artifacts} {entries : List ContractEntry}

lemma isMain_of_mem_classesIn (hc : c ∈ ctx.registry.classesIn module) :
    ctx.config.isMain module = ctx.isMain c := by
  rw [isMain, (Registry.mem_classesIn.1 hc).2]

lemma mem_headerClasses (ha : ctx.generate module = .ok a) {h : ClassHeader} :
    h ∈ a.header.classes ↔ ∃ c ∈ ctx.registry.classesIn module,
      h = ctx.classHeader (ctx.config.isMain module) c := by
  obtain ⟨classes, hclasses, rfl⟩ := generate_eq_ok_iff.1 ha
  simp only [header, List.mem_map, (perm_of_emittedClasses hclasses).mem_iff, eq_comm]

lemma mem_implementationClasses (ha : ctx.generate module = .ok a) {k : ClassImplementation} :
    k ∈ a.implementation.classes ↔ ∃ c ∈ ctx.registry.classesIn module,
      k = ctx.classImplementation (ctx.config.isMain module) c := by
  obtain ⟨classes, hclasses, rfl⟩ := generate_eq_ok_iff.1 ha
  simp only [implementation, List.mem_map, (perm_of_emittedClasses hclasses).mem_iff, eq_comm]

lemma mem_contract (hentries : ctx.contract module = .ok entries) {e : ContractEntry} :
    e ∈ entries ↔ ∃ c ∈ ctx.registry.classesIn module,
      e ∈ ctx.classContract (ctx.config.isMain module) c := by
  obtain ⟨classes, hclasses, rfl⟩ := contract_eq_ok_iff.1 hentries
  simp only [List.mem_flatMap, (perm_of_emittedClasses hclasses).mem_iff]

theorem emits_iff (ha : ctx.generate module = .ok a) (hentries : ctx.contract module = .ok entries) :
    a.Emits entries v ↔
      ∃ c ∈ ctx.registry.classesIn module, ctx.Emits (ctx.config.isMain module) c v := by
  constructor
  · intro h
    cases h with
    | declared hh hd =>
      obtain ⟨c, hc, rfl⟩ := (mem_headerClasses ha).1 hh
      exact ⟨c, hc, .declared hd⟩
    | defined hk hb =>
      obtain ⟨c, hc, rfl⟩ := (mem_implementationClasses ha).1 hk
      exact ⟨c, hc, .defined hb⟩
    | forwarded hk ht =>
      obtain ⟨c, hc, rfl⟩ := (mem_implementationClasses ha).1 hk
      exact ⟨c, hc, .forwarded ht⟩
    | listed he hs =>
      obtain ⟨c, hc, he⟩ := (mem_contract hentries).1 he
      exact ⟨c, hc, .listed he hs⟩
  · rintro ⟨c, hc, h⟩
    cases h with
    | declared hd => exact .declared ((mem_headerClasses ha).2 ⟨c, hc, rfl⟩) hd
    | defined hb => exact .defined ((mem_implementationClasses ha).2 ⟨c, hc, rfl⟩) hb
    | forwarded ht => exact .forwarded ((mem_implementationClasses ha).2 ⟨c, hc, rfl⟩) ht
    | listed he hs => exact .listed ((mem_contract hentries).2 ⟨c, hc, he⟩) hs

lemma classImplementation_of_name (ha : ctx.generate module = .ok a)
    (hc : c ∈ ctx.registry.classesIn module) {k : ClassImplementation} :
    k ∈ a.implementation.classes ∧ k.name = c.name ↔
      k = ctx.classImplementation (ctx.config.isMain module) c := by
  rw [mem_implementationClasses ha]
  constructor
  · rintro ⟨⟨c', hc', rfl⟩, hname⟩
    obtain rfl : c' = c := Registry.eq_of_name_eq hc' hc hname
    rfl
  · rintro rfl
    exact ⟨⟨c, hc, rfl⟩, rfl⟩

lemma classHeader_of_name (ha : ctx.generate module = .ok a)
    (hc : c ∈ ctx.registry.classesIn module) {h : ClassHeader} :
    h ∈ a.header.classes ∧ h.name = c.name ↔
      h = ctx.classHeader (ctx.config.isMain module) c := by
  rw [mem_headerClasses ha]
  constructor
  · rintro ⟨⟨c', hc', rfl⟩, hname⟩
    obtain rfl : c' = c := Registry.eq_of_name_eq hc' hc hname
    rfl
  · rintro rfl
    exact ⟨⟨c, hc, rfl⟩, rfl⟩

end

end Context

end Bindery
