import Mathlib.Tactic.Lemma
import Bindery.Proofs.Contract
import Bindery.Proofs.Provenance
import Bindery.Proofs.Sample

/-!
# What is excluded

The configuration names classes and methods that are never emitted, and the names of templates and
of nested classes are no names that C could have.  This file says what is left of them.

A rejected class is left out of every walk, and nobody inherits from it.  The functions that fetch
its values are not part of a walk, and nobody asks for the class before they are written
(`rejected_omitted_iff`).

A method that is excluded under a class is left out where the class declares it.  Where the class
repeats a method of a base, the check speaks of the base, and the exclusion is not found
(`excluded_absent_iff`).
-/

namespace Bindery

/-! ## Rejected classes -/

/-- A class is excluded, or its name is that of a template or of a nested class. -/
def Context.Rejects (ctx : Context) (c : Class) : Prop :=
  ctx.config.excludesClass c.name = true ∨ Context.namesTemplate c.name = true ∨
    Text.contains c.name "::" = true

/-- Nothing that is generated comes from a class of the module. -/
structure Artifacts.Omits (a : Artifacts) (ctx : Context) (entries : List ContractEntry)
    (c : Class) : Prop where
  /-- The header declares nothing for it. -/
  header : ∀ h ∈ a.header.classes, h.name = c.name → h.lines = []
  /-- The implementation neither defines anything for it nor has its generated subclass. -/
  implementation : ∀ k ∈ a.implementation.classes, k.name = c.name →
    k.lines a.implementation.rootClass a.implementation.stringClass = []
  /-- The contract has no entry for it. -/
  contract : ctx.classContract (ctx.isMain c) c = []
  /-- A view has its name only if another class declares the method under this name. -/
  names : ∀ v, a.Emits entries v → v.owner = c.name →
    ∃ d ∈ ctx.registry.classesIn a.module, d ≠ c ∧ v.method ∈ d.methods ∧ v.method.owner = c.name
  /-- Whatever is emitted for a class, of whatever module, comes from another one. -/
  heirs : ∀ d ∈ ctx.registry.classes, ∀ v, ctx.Emits (ctx.isMain d) d v →
    (∃ source, ctx.Stems d source v) ∧ ∀ source, ctx.Stems d source v → source ≠ c

namespace Context

variable {ctx : Context} {main : Bool} {c d source base : Class} {v : View} {m : Method}

lemma supports_of_rejects (hrejects : ctx.Rejects c) : ctx.supports c = false := by
  rw [supports_eq_false_iff]
  unfold checkClass
  by_cases hexcluded : ctx.config.excludesClass c.name = true
  · exact ⟨.excluded, if_pos hexcluded⟩
  have hname : (namesTemplate c.name || Text.contains c.name "::") = true := by
    rcases hrejects with h | h | h
    · exact absurd h hexcluded
    · rw [h, Bool.true_or]
    · rw [h, Bool.or_true]
  rw [if_neg hexcluded, if_pos hname]
  exact ⟨.ofClass, rfl⟩

/-! What is left of a class that is not supported are its getters. -/

lemma lines_classHeader (hsupports : ctx.supports c = false) :
    (ctx.classHeader main c).lines = (ctx.valueGetters c).map (·.prototypeText ++ ";") := by
  obtain ⟨o, ho⟩ := supports_eq_false_iff.1 hsupports
  simp [ClassHeader.lines, ClassHeader.declared, classHeader, ho, Except.map]

lemma lines_classImplementation (hsupports : ctx.supports c = false)
    (rootClass stringClass : String) :
    (ctx.classImplementation main c).lines rootClass stringClass =
      (ctx.valueGetters c).flatMap ValueGetter.lines := by
  simp [ClassImplementation.lines, ClassImplementation.defined, classImplementation,
    generatesSubclass, hsupports]

lemma classContract_eq_nil (hsupports : ctx.supports c = false) :
    ctx.classContract main c = [] := by
  simp [classContract, hsupports]

lemma ne_of_supports (hsupports : ctx.supports c = false) (hd : ctx.supports d = true) :
    d ≠ c := by
  rintro rfl
  rw [hsupports] at hd
  cases hd

/-- Nothing is left of a rejected class exactly if none of its values has to be fetched at run
time. -/
theorem rejected_omitted_iff {ctx : Context} {module : String} {a : Artifacts}
    {entries : List ContractEntry} {c : Class} (ha : ctx.generate module = .ok a)
    (hentries : ctx.contract module = .ok entries) (hc : c ∈ ctx.registry.classesIn module)
    (hrejects : ctx.Rejects c) : a.Omits ctx entries c ↔ ctx.fetchedValues c = [] := by
  have hsupports : ctx.supports c = false := supports_of_rejects hrejects
  constructor
  · intro homits
    obtain ⟨hh, hname⟩ := (classHeader_of_name ha hc).2 rfl
    have hlines := homits.header _ hh hname
    rw [lines_classHeader hsupports, valueGetters, List.map_map, List.map_eq_nil_iff] at hlines
    exact hlines
  · intro hvalues
    have hgetters : ctx.valueGetters c = [] := by
      rw [valueGetters, hvalues, List.map_nil]
    constructor
    case header =>
      intro h hh hname
      rw [(classHeader_of_name ha hc).1 ⟨hh, hname⟩, lines_classHeader hsupports, hgetters]
      rfl
    case implementation =>
      intro k hk hname
      rw [(classImplementation_of_name ha hc).1 ⟨hk, hname⟩, lines_classImplementation hsupports,
        hgetters]
      rfl
    case contract => exact classContract_eq_nil hsupports
    case names =>
      intro v hv howner
      obtain ⟨d, hd, hv⟩ := (emits_iff ha hentries).1 hv
      -- what is emitted belongs to a supported class, which the rejected one is not
      obtain ⟨hsupported, source, hstems⟩ := stems_of_emits (isMain_of_mem_classesIn hd) hv
      have hother : d ≠ c := ne_of_supports hsupports hsupported
      have hmodule : a.module = module := by
        obtain ⟨classes, -, rfl⟩ := generate_eq_ok_iff.1 ha
        rfl
      cases hstems with
      | own hm hsame hallowed => exact ⟨d, hmodule ▸ hd, hother, hm, hsame ▸ howner⟩
      | inherited hname hrepeats =>
        exact absurd (Registry.eq_of_name_eq hd hc (hname.symm.trans howner)) hother
    case heirs =>
      intro d _ v hv
      obtain ⟨hsupported, hstems⟩ := stems_of_emits rfl hv
      refine ⟨hstems, ?_⟩
      intro source hsource
      exact ne_of_supports hsupports (hsource.supports hsupported)

end Context

/-- The sample without its root class. -/
def Sample.rootless : Context :=
  { Sample.context with config := { exclusions := { classes := ["QObject"] } } }

/-- The root class has no values, so that nothing is left of it where it is excluded. -/
theorem rejected_omitted_sample :
    Sample.rootless.Rejects Sample.object ∧ ∃ a entries, Sample.rootless.generate "QtCore" = .ok a ∧
      Sample.rootless.contract "QtCore" = .ok entries ∧
      a.Omits Sample.rootless entries Sample.object := by
  have hrejects : Sample.rootless.Rejects Sample.object := .inl (by decide)
  have hgenerate : (Sample.rootless.generate "QtCore").isOk = true := by decide +kernel
  have hcontract : (Sample.rootless.contract "QtCore").isOk = true := by decide +kernel
  obtain ⟨a, ha⟩ := isOk_iff_exists.1 hgenerate
  obtain ⟨entries, hentries⟩ := isOk_iff_exists.1 hcontract
  have hobject : Sample.object ∈ Sample.rootless.registry.classesIn "QtCore" := by decide +kernel
  have hvalues : Sample.rootless.fetchedValues Sample.object = [] := by decide
  exact ⟨hrejects, a, entries, ha, hentries,
    (Context.rejected_omitted_iff ha hentries hobject hrejects).2 hvalues⟩

/-- A template with a value that has to be fetched. -/
def Sample.list : Class where
  name := "QList<int>"
  module := "QtCore"
  enums := [⟨"Growth", [⟨"Double", "Single + 1"⟩]⟩]

/-- A module with this template only. -/
def Sample.template : Context where
  registry := { classes := [list], distinct := by decide }
  config := {}

/-- The getter of a template is declared. -/
theorem rejected_emitted :
    Sample.template.Rejects Sample.list ∧ ∃ a entries, Sample.template.generate "QtCore" = .ok a ∧
      Sample.template.contract "QtCore" = .ok entries ∧
      ¬a.Omits Sample.template entries Sample.list := by
  have hrejects : Sample.template.Rejects Sample.list := .inr (.inl (by decide))
  have hdeclares : (Sample.template.generate "QtCore").toOption.any (fun a =>
      a.header.classes.any fun h => h.name == "QList<int>" && !h.lines.isEmpty) = true := by
    decide +kernel
  have hcontract : (Sample.template.contract "QtCore").isOk = true := by decide +kernel
  obtain ⟨a, ha, hdeclares⟩ := any_toOption_iff.1 hdeclares
  obtain ⟨entries, hentries⟩ := isOk_iff_exists.1 hcontract
  simp only [List.any_eq_true, Bool.and_eq_true, beq_iff_eq, Bool.not_eq_true',
    List.isEmpty_eq_false_iff] at hdeclares
  obtain ⟨h, hh, hname, hlines⟩ := hdeclares
  exact ⟨hrejects, a, entries, ha, hentries, fun homits => hlines (homits.header h hh hname)⟩

/-! ## Excluded methods -/

/-- Something is emitted of a method under a class. -/
def Artifacts.EmitsMethod (a : Artifacts) (entries : List ContractEntry) (owner : String)
    (m : Method) : Prop :=
  ∃ v, a.Emits entries v ∧ v.owner = owner ∧ v.method = m

namespace Context

variable {ctx : Context} {main : Bool} {c source base : Class} {v : View} {m : Method} {n : String}
  {w : Walk ContractEntry} {w' : Walk Declaration}

/-! ### Own methods -/

lemma excludesMethod_of_excludes (hallowed : ctx.excludes c m = false) :
    ctx.config.excludesMethod m.owner m.name = false ∧
      ctx.config.excludesMethod c.name m.name = false :=
  Bool.or_eq_false_iff.1 hallowed

/-- What is emitted although it is excluded is repeated. -/
lemma Stems.repeats_of_excluded (h : ctx.Stems c source v)
    (hexcluded : ctx.config.excludesMethod v.owner v.name = true) :
    v.owner = c.name ∧ ctx.Repeats c source v.method := by
  cases h with
  | own hm howner hallowed =>
    have hfree := (excludesMethod_of_excludes hallowed).1
    rw [← howner] at hfree
    exact absurd hexcluded (Bool.eq_false_iff.1 hfree)
  | inherited howner hrepeats => exact ⟨howner, hrepeats⟩

lemma Stems.not_excluded (h : ctx.Stems c source v) (howner : v.owner = v.method.owner) :
    ctx.config.excludesMethod c.name v.name = false := by
  cases h with
  | own hm howner' hallowed => exact (excludesMethod_of_excludes hallowed).2
  | inherited howner' hrepeats =>
    have hallowed : ctx.excludes source ((View.of v.method).retarget c.name).method = false :=
      excludes_of_check hrepeats.check
    rw [← howner', howner]
    exact (excludesMethod_of_excludes hallowed).1

/-! ### Inherited methods -/

lemma managedSignature_of_takesOver (htaken : ctx.TakesOver c base m) :
    ∃ s, ctx.managedSignature ((inheritedView c m).toward .connect) = .ok s := by
  obtain ⟨hinherit, hcheck⟩ := htaken
  set v := inheritedView c m
  have hrole : v.role ≠ .signal := by
    show Role.plain ≠ .signal
    decide
  have hconnectable : (v.toward .connect).isConnectable = true := by
    simp only [isInheritable, Method.isImpure, Bool.and_eq_true] at hinherit
    show (_ || m.dispatch == .impure) = true
    rw [hinherit.1.1, Bool.or_true]
  have hname : ∃ name, (v.toward .connect).managedName = .ok name := by
    obtain ⟨-, -, -, hprototype⟩ := checkMethod_eq_ok_iff.1 hcheck
    obtain ⟨hname, -, -⟩ := prototype_isOk_iff.1 hprototype
    rw [View.managedName_isOk_iff, View.namesOperator_toward_iff rfl rfl]
    exact hname
  have hinput : ∃ ps, ctx.managedInput (v.toward .connect) = .ok ps := by
    rw [managedInput_isOk_iff_of_connect rfl hconnectable, handlerType_isOk_iff]
    have houtput : ∃ k, ctx.resolve? v v.outputToken = some k := output_resolves_of_check hcheck rfl
    refine ⟨fun p hp => ?_, fun _ => houtput⟩
    exact (carries_congr rfl rfl).1 (hookParameters_carry_of_check hcheck hrole p hp)
  have houtput : ∃ o, ctx.managedOutput (v.toward .connect) = .ok o := by
    rw [managedOutput_isOk_iff]
    intro hplain
    cases hplain
  exact managedSignature_isOk_iff_parts.2 ⟨hname, hinput, houtput⟩

/-- The walk over a contract has listed a declaration for a method named `n` under a class. -/
def ListsNamed (owner n : String) (w : Walk ContractEntry) : Prop :=
  ∃ e ∈ writtenItems w.outcomes, e.signature ≠ none ∧ e.view.owner = owner ∧ e.view.name = n

lemma ListsNamed.mono {w₁ w₂ : Walk ContractEntry} {owner : String} (hle : w₁.Le w₂)
    (h : ListsNamed owner n w₁) : ListsNamed owner n w₂ := by
  obtain ⟨e, he, hrest⟩ := h
  exact ⟨e, hle.written he, hrest⟩

lemma mem_listHooks (v : View) (w : Walk ContractEntry) :
    ⟨.hook, v.toward .connect, (ctx.managedSignature (v.toward .connect)).toOption⟩ ∈
      writtenItems (ctx.listHooks v w).outcomes := by
  simp [listHooks, Walk.write]

lemma listsNamed_listHooks (htaken : ctx.TakesOver c base m) (w : Walk ContractEntry) :
    ListsNamed c.name m.name (ctx.listHooks (inheritedView c m) w) := by
  obtain ⟨s, hs⟩ := managedSignature_of_takesOver htaken
  have hsome : (ctx.managedSignature ((inheritedView c m).toward .connect)).toOption ≠ none := by
    rw [hs]
    exact Option.some_ne_none s
  exact ⟨_, mem_listHooks (inheritedView c m) w, hsome, rfl, rfl⟩

lemma listInherited_eq (hgenerates : ctx.generatesSubclass c = true)
    (htaken : ctx.TakesOver c base m) (hfree : ctx.config.blocks m.name c.name = false)
    (hfresh : w.isSettled (View.of m).key = false) :
    ctx.listInherited c base w m =
      let v := inheritedView c m
      let hooked := ctx.listHooks v (w.settle v.key)
      ctx.listCallback v
        (ctx.listWrapper base v.forwardDefault (ctx.listWrapper base v hooked).1).1 := by
  obtain ⟨hinherit, hcheck⟩ := htaken
  have hok : (ctx.checkMethod base ((View.of m).plain.retarget c.name)).isOk = true :=
    isOk_iff_eq_ok.2 hcheck
  have hfresh' : w.isSettled ((View.of m).plain.retarget c.name).key = false := hfresh
  simp [listInherited, inheritedView, hinherit, hfresh', hok, hfree, hgenerates]

/-- At a method that is taken over, the walk settles its key, and unless the key was settled before
it lists the method under the class. -/
lemma listInherited_of_takesOver (hgenerates : ctx.generatesSubclass c = true)
    (htaken : ctx.TakesOver c base m) (hfree : ctx.config.blocks m.name c.name = false)
    (w : Walk ContractEntry) :
    (ctx.listInherited c base w m).isSettled (View.of m).key = true ∧
      (w.isSettled (View.of m).key = true ∨
        ListsNamed c.name m.name (ctx.listInherited c base w m)) := by
  by_cases hsettled : w.isSettled (View.of m).key = true
  · have hstep : ctx.listInherited c base w m = w := by
      have hsettled' : w.isSettled ((View.of m).plain.retarget c.name).key = true := hsettled
      simp [listInherited, hsettled']
    rw [hstep]
    exact ⟨hsettled, .inl hsettled⟩
  have hfresh : w.isSettled (View.of m).key = false := by simpa using hsettled
  have hle : (ctx.listHooks (inheritedView c m) (w.settle (View.of m).key)).Le
      (ctx.listInherited c base w m) := by
    rw [listInherited_eq hgenerates htaken hfree hfresh]
    apply ((le_listWrapper base _ _).trans (le_listWrapper base _ _)).trans
    exact le_listCallback _ _
  have hkey : (ctx.listHooks (inheritedView c m) (w.settle (View.of m).key)).isSettled
      (View.of m).key = true :=
    (le_listHooks _ _).isSettled _ ((Walk.isSettled_settle ..).2 (.inl rfl))
  exact ⟨hle.isSettled _ hkey, .inr ((listsNamed_listHooks htaken _).mono hle)⟩

/-- While the walks over the declarations and over the contract go along, no key of the name `n` is
settled unless the contract lists something of this name. -/
structure Lists (ctx : Context) (main : Bool) (c : Class) (n : String) (w : Walk ContractEntry)
    (w' : Walk Declaration) : Prop where
  follows : ctx.Follows w w'
  declares : w'.AllWritten (ctx.Declares main c)
  listed : ∀ key, key.1 = n → w.isSettled key = true → ListsNamed c.name n w

namespace Lists

lemma start : ctx.Lists main c n Walk.start Walk.start where
  follows := .start
  declares := Walk.allWritten_start
  listed key _ hsettled := by simp [Walk.start, Walk.isSettled] at hsettled

/-- An own method settles its key only if it is declared, and then it is not excluded. -/
lemma listOwn (hexcluded : ctx.config.excludesMethod c.name n = true) (hm : m ∈ c.methods)
    (h : ctx.Lists main c n w w') :
    ctx.Lists main c n (ctx.listOwn main c w m) (ctx.declareOwn main c w' m) := by
  have hfollows := h.follows.listOwn main c m
  have hdeclares := (preserves_declares ctx main c).declareOwn hm h.declares
  rw [declareOwn_declaring] at hdeclares
  refine ⟨hfollows, hdeclares, ?_⟩
  intro key hname hsettled
  rw [hfollows.isSettled] at hsettled
  rcases (contributes_declareOwn main c m w').settled key hsettled with
    hbefore | ⟨rfl, d, hd, hmethod, howner⟩
  · rw [← h.follows.isSettled] at hbefore
    exact (h.listed key hname hbefore).mono (le_listOwn main hm w)
  · obtain ⟨subject, hcandidate, hcheck, -⟩ := hdeclares d hd
    have hfree : ctx.config.excludesMethod c.name d.view.name = false :=
      (hcandidate.stems hcheck).not_excluded (hmethod ▸ howner)
    have hname : d.view.name = n := by
      rw [View.name, hmethod]
      exact hname
    rw [hname, hexcluded] at hfree
    cases hfree

lemma listInherited (hgenerates : ctx.generatesSubclass c = true)
    (hfree : ctx.config.blocks n c.name = false) (hbase : base ∈ ctx.supportedBases c)
    (hm : m ∈ base.methods) (h : ctx.Lists main c n w w') :
    ctx.Lists main c n (ctx.listInherited c base w m) (ctx.declareInherited c base w' m) := by
  have hfollows := h.follows.listInherited c base m
  have hle : w.Le (ctx.listInherited c base w m) := le_listInherited main hbase hm w
  have hdeclares := (preserves_declares ctx main c).declareInherited hbase hm h.declares
  refine ⟨hfollows, hdeclares, ?_⟩
  intro key hname hsettled
  rw [hfollows.isSettled] at hsettled
  rcases (inherits_declareInherited ctx c base m w').settled key hsettled with
    hbefore | ⟨rfl, htaken⟩
  · rw [← h.follows.isSettled] at hbefore
    exact (h.listed key hname hbefore).mono hle
  · obtain rfl : m.name = n := hname
    rcases (listInherited_of_takesOver hgenerates htaken hfree w).2 with hbefore | hlisted
    · exact (h.listed _ rfl hbefore).mono hle
    · exact hlisted

end Lists

/-- Whatever a generated class takes over from its bases under an excluded name is listed in its
contract. -/
theorem listed_of_takesOver (main : Bool) (hgenerates : ctx.generatesSubclass c = true)
    (hexcluded : ctx.config.excludesMethod c.name m.name = true)
    (hbase : base ∈ ctx.supportedBases c) (hm : m ∈ base.methods)
    (htaken : ctx.TakesOver c base m) (hfree : ctx.config.blocks m.name c.name = false) :
    ∃ e ∈ ctx.classContract main c,
      e.signature ≠ none ∧ e.view.owner = c.name ∧ e.view.name = m.name := by
  have hlists : ctx.Lists main c m.name (ctx.contractWalk main c)
      (ctx.walk c (ctx.declareOwn main c) (ctx.declareInherited c) Walk.start) :=
    walk_rel Lists.start (fun _ hm _ _ h => h.listOwn hexcluded hm)
      fun _ hbase _ hm _ _ h => h.listInherited hgenerates hfree hbase hm
  have hsettled : (ctx.contractWalk main c).isSettled (View.of m).key = true := by
    refine walk_inherited (P := fun w : Walk ContractEntry => w.isSettled (View.of m).key = true)
      hbase hm ?_ ?_ _
    · intro w
      exact (listInherited_of_takesOver hgenerates htaken hfree w).1
    · intro base hbase m' hm' w hw
      exact (le_listInherited main hbase hm' w).isSettled _ hw
  rw [classContract_eq (supports_of_generatesSubclass hgenerates)]
  exact hlists.listed _ rfl hsettled

/-- A method that is excluded under a class of the module is kept out of everything under the name
of the class, except where a base passes it on: the base is asked whether the method is excluded,
and the class is not.  Then the exclusion is kept only where nothing of the method is emitted
anyway, which takes a signal or a class without a generated subclass. -/
theorem excluded_absent_iff {ctx : Context} {module : String} {a : Artifacts}
    {entries : List ContractEntry} {c : Class} {n : String} (ha : ctx.generate module = .ok a)
    (hentries : ctx.contract module = .ok entries) (hc : c ∈ ctx.registry.classesIn module)
    (hexcluded : ctx.config.excludesMethod c.name n = true) :
    (∀ v, a.Emits entries v → v.owner = c.name → v.name ≠ n) ↔
      ∀ base m, ctx.Repeats c base m → m.name = n →
        ¬a.EmitsMethod entries c.name m ∧ (ctx.generatesSubclass c = false ∨ m.role = .signal) := by
  constructor
  · rintro hkept base m hrepeats rfl
    constructor
    · rintro ⟨v, hv, howner, rfl⟩
      exact hkept v hv howner rfl
    · by_contra hneither
      simp only [not_or, Bool.not_eq_false] at hneither
      obtain ⟨hgenerates, hrole⟩ := hneither
      have htaken : ctx.TakesOver c base m := hrepeats.takesOver hrole
      obtain ⟨e, he, hsignature, howner, hname⟩ := listed_of_takesOver (ctx.config.isMain module)
        hgenerates hexcluded hrepeats.mem_bases hrepeats.mem_methods htaken hrepeats.free
      obtain ⟨s, hs⟩ := Option.ne_none_iff_exists'.1 hsignature
      have hemits : a.Emits entries e.view := .listed ((mem_contract hentries).2 ⟨c, hc, he⟩) hs
      exact hkept e.view hemits howner hname
  · rintro hkept v hv howner rfl
    obtain ⟨d, hd, hemits⟩ := (emits_iff ha hentries).1 hv
    obtain ⟨-, source, hstems⟩ := stems_of_emits (isMain_of_mem_classesIn hd) hemits
    rw [← howner] at hexcluded
    obtain ⟨hname, hrepeats⟩ := hstems.repeats_of_excluded hexcluded
    obtain rfl : d = c := Registry.eq_of_name_eq hd hc (hname.symm.trans howner)
    exact (hkept source v.method hrepeats rfl).1 ⟨v, hv, howner, rfl⟩

end Context

/-- The sample with a signal of `Counter` excluded. -/
def Sample.unchanging : Context :=
  { Sample.context with config := { exclusions := { methods := ["Counter::changed"] } } }

/-- No base of `Counter` has a method of this name, so that nothing is emitted of it. -/
theorem excluded_absent_sample :
    Sample.unchanging.config.excludesMethod "Counter" "changed" = true ∧
      ∃ a entries, Sample.unchanging.generate "main" = .ok a ∧
        Sample.unchanging.contract "main" = .ok entries ∧
        ∀ v, a.Emits entries v → v.owner = "Counter" → v.name ≠ "changed" := by
  have hgenerate : (Sample.unchanging.generate "main").isOk = true := by decide +kernel
  have hcontract : (Sample.unchanging.contract "main").isOk = true := by decide +kernel
  obtain ⟨a, ha⟩ := isOk_iff_exists.1 hgenerate
  obtain ⟨entries, hentries⟩ := isOk_iff_exists.1 hcontract
  have hcounter : Sample.counter ∈ Sample.unchanging.registry.classesIn "main" := by decide +kernel
  have hexcluded : Sample.unchanging.config.excludesMethod "Counter" "changed" = true := by
    decide +kernel
  have hbases : ∀ base ∈ Sample.unchanging.supportedBases Sample.counter, ∀ m ∈ base.methods,
      m.name ≠ "changed" := by
    decide +kernel
  refine ⟨hexcluded, a, entries, ha, hentries,
    (Context.excluded_absent_iff ha hentries hcounter hexcluded).2 ?_⟩
  intro base m hrepeats hname
  exact absurd hname (hbases base hrepeats.mem_bases m hrepeats.mem_methods)

/-- The sample with a virtual method excluded that `Counter` inherits. -/
def Sample.untimed : Context :=
  { Sample.context with config := { exclusions := { methods := ["Counter::timerEvent"] } } }

/-- The excluded method is declared under `Counter`. -/
theorem excluded_reappears :
    Sample.untimed.config.excludesMethod "Counter" "timerEvent" = true ∧
      ∃ a entries, Sample.untimed.generate "main" = .ok a ∧
        Sample.untimed.contract "main" = .ok entries ∧
        ∃ v, a.Emits entries v ∧ v.owner = "Counter" ∧ v.name = "timerEvent" := by
  have hexcluded : Sample.untimed.config.excludesMethod "Counter" "timerEvent" = true := by
    decide +kernel
  have hdeclares : (Sample.untimed.generate "main").toOption.any (fun a =>
      a.header.classes.any fun h => h.declared.any fun d =>
        d.view.owner == "Counter" && d.view.name == "timerEvent") = true := by
    decide +kernel
  have hcontract : (Sample.untimed.contract "main").isOk = true := by decide +kernel
  obtain ⟨a, ha, hdeclares⟩ := any_toOption_iff.1 hdeclares
  obtain ⟨entries, hentries⟩ := isOk_iff_exists.1 hcontract
  simp only [List.any_eq_true, Bool.and_eq_true, beq_iff_eq] at hdeclares
  obtain ⟨h, hh, d, hd, howner, hname⟩ := hdeclares
  exact ⟨hexcluded, a, entries, ha, hentries, d.view, .declared hh hd, howner, hname⟩

end Bindery
