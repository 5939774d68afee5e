import Mathlib.Tactic.Lemma
import Bindery.Proofs.Announcements
import Bindery.Proofs.Sample
import Bindery.Proofs.Trampolines

/-!
# Callbacks and trampolines

A trampoline calls a managed callback, and the contract lists the callbacks that managed bindings
have to export.  The two are decided by different walks, which settle keys on different grounds,
and they do not always agree.

This file says exactly how far they agree.  A listed callback has its trampoline unless its view is
`Context.Unanswered`; a trampoline has its callback listed unless its view is
`Context.Unannounced`.  So the two sets are equal exactly if nothing unanswered is listed in vain
and nothing unannounced is called in vain (`callbacks_correspond_iff`).
-/

namespace Bindery

/-- The callbacks that the trampolines of an implementation call. -/
def Implementation.calledCallbacks (i : Implementation) : List String :=
  i.classes.flatMap fun k => k.trampolines.map Trampoline.callback

/-! ## Views that may stand alone -/

/-- The views whose callback may be listed without a trampoline that calls it. -/
inductive Context.Unanswered (ctx : Context) (main : Bool) (c : Class) (v : View) : Prop
  /-- A signal that forwards a parameter without a value. -/
  | valueless {p : Parameter × Nat} (hrole : v.role = .signal) (hp : p ∈ ctx.hookParameters v)
      (hvoid : ¬ctx.Carries v p)
  /-- A virtual method whose key the class gives to a method that is not overridable. -/
  | hidden (hrole : v.role ≠ .signal) (hhides : Hides main c v.key)
  /-- A virtual method in whose place another one was overridden. -/
  | displaced {v' : View} (hrole : v.role ≠ .signal) (hv' : ctx.Overrides main c v')
      (hkey : v'.key = v.key)
      (hother : v'.owner ≠ v.owner ∨
        v'.role = .signal ∧ ∃ p ∈ ctx.hookParameters v', ¬ctx.Carries v' p)

/-- The views that may have a trampoline whose callback is not listed. -/
inductive Context.Unannounced (ctx : Context) (main : Bool) (c : Class) : View → Prop
  /-- A virtual method whose wrapper the header does not declare. -/
  | override {v : View} (hv : ctx.Overrides main c v)
      (hundeclared : v.plain ∉ (ctx.classHeader main c).views) : ctx.Unannounced main c v
  /-- A slot that is virtual and puts something out, is blocked, or has no wrapper. -/
  | virtualSlot {m : Method} (hmain : main = true) (hm : m ∈ c.methods) (hrole : m.role = .slot)
      (himpure : m.isImpure = true)
      (h : m.returnsVoid = false ∨ ctx.config.blocks m.name c.name = true ∨
        (View.of m).plain ∉ (ctx.classHeader main c).views) :
      ctx.Unannounced main c (View.of m).nonVirtual
  /-- Any other slot without a wrapper. -/
  | slot {m : Method} (hmain : main = true) (hm : m ∈ c.methods) (hrole : m.role = .slot)
      (himpure : m.isImpure = false) (hundeclared : View.of m ∉ (ctx.classHeader main c).views) :
      ctx.Unannounced main c (View.of m).nonVirtual

namespace Context

variable {ctx : Context} {main : Bool} {c : Class} {v v' : View} {m : Method}

/-! ## Listed callbacks -/

lemma mem_callbacks {member name : String} (hmain : main = ctx.isMain c)
    (hgenerates : ctx.generatesSubclass c = true)
    (ho : ctx.trampolineOutcome c member v ∈ ctx.overridingMembers main c ∨
      main = true ∧ ctx.trampolineOutcome c member v ∈ ctx.slotMembers c)
    (hname : v.callbackName = .ok name) (hcarries : ∀ p ∈ ctx.hookParameters v, ctx.Carries v p)
    (houtput : ∃ k, ctx.resolve? v v.outputToken = some k) :
    name ∈ (ctx.classImplementation main c).trampolines.map Trampoline.callback := by
  obtain ⟨t, ht⟩ : ∃ t, ctx.trampoline c member v = .ok t :=
    trampoline_isOk_iff.2 ⟨⟨name, hname⟩, hcarries, houtput⟩
  have hcallback : t.callback = name := by
    have hsame := (trampoline_eq_ok_iff.1 ht).1
    rw [hname] at hsame
    exact (Except.ok.inj hsame).symm
  rw [trampolineOutcome_eq_written_iff.2 ht] at ho
  refine List.mem_map.2 ⟨t, ?_, hcallback⟩
  rw [trampolines_eq hmain hgenerates]
  rcases ho with ho | ⟨rfl, ho⟩
  · exact List.mem_append_left _ (mem_writtenItems.2 ho)
  · rw [if_pos rfl]
    exact List.mem_append_right _ (mem_writtenItems.2 ho)

/-- The callback of an override is called, unless the override is hidden or displaced. -/
lemma called_of_overrides {name : String} (hmain : main = ctx.isMain c)
    (hgenerates : ctx.generatesSubclass c = true) (hv' : ctx.Overrides main c v')
    (hkey : v'.key = v.key) (hrole : v.role ≠ .signal) (hname : v.callbackName = .ok name) :
    name ∈ (ctx.classImplementation main c).trampolines.map Trampoline.callback ∨
      ctx.Unanswered main c v := by
  rcases overrides_accounted hv' with hhides | ⟨v'', member, hv'', hkey', ho⟩
  · exact .inr (.hidden hrole (hkey ▸ hhides))
  have hkey'' : v''.key = v.key := hkey'.trans hkey
  by_cases howner : v''.owner = v.owner
  · by_cases hcarries : ∀ p ∈ ctx.hookParameters v'', ctx.Carries v'' p
    · obtain ⟨⟨subject, hcheck⟩, hdirection⟩ := hv''.exists_check
      have hname'' : v''.callbackName = .ok name :=
        (View.callbackName_congr howner hkey'').trans hname
      exact .inl (mem_callbacks hmain hgenerates (.inl ho) hname'' hcarries
        (output_resolves_of_check hcheck hdirection))
    · by_cases hsignal : v''.role = .signal
      · push Not at hcarries
        exact .inr (.displaced hrole hv'' hkey'' (.inr ⟨hsignal, hcarries⟩))
      · obtain ⟨⟨subject, hcheck⟩, -⟩ := hv''.exists_check
        exact absurd (hookParameters_carry_of_check hcheck hsignal) hcarries
  · exact .inr (.displaced hrole hv'' hkey'' (.inl howner))

lemma called_of_slot {name : String} (hmain : main = ctx.isMain c)
    (hgenerates : ctx.generatesSubclass c = true) (htrue : main = true) (hm : m ∈ c.methods)
    (hrole : m.role = .slot) (hcheck : ctx.checkMethod c (View.of m).nonVirtual = .ok ())
    (hname : (View.of m).nonVirtual.callbackName = .ok name) :
    name ∈ (ctx.classImplementation main c).trampolines.map Trampoline.callback := by
  have hrole' : (View.of m).nonVirtual.role ≠ .signal := by
    intro hsignal
    have hsignal : m.role = .signal := hsignal
    rw [hrole] at hsignal
    cases hsignal
  exact mem_callbacks hmain hgenerates (.inr ⟨htrue, mem_slotMembers hm hrole hcheck⟩) hname
    (hookParameters_carry_of_check hcheck hrole') (output_resolves_of_check hcheck rfl)

/-- A listed callback is called, unless its view may stay unanswered. -/
theorem called_of_listsCallback {s : ManagedSignature} (hmain : main = ctx.isMain c)
    (hgenerates : ctx.generatesSubclass c = true) (hv : ctx.ListsCallback main c v)
    (hs : ctx.callbackSignature v = .ok s) :
    s.name ∈ (ctx.classImplementation main c).trampolines.map Trampoline.callback ∨
      ctx.Unanswered main c v := by
  have hname : v.callbackName = .ok s.name := callbackName_of_callbackSignature hs
  cases hv with
  | @signal m hm hrole hvoid hcheck =>
    -- the check of a signal does not ask whether its parameters carry values
    by_cases hcarries : ∀ p ∈ ctx.hookParameters (View.of m), ctx.Carries (View.of m) p
    · have ho : ctx.trampolineOutcome c (View.of m).slotName (View.of m) ∈
          ctx.overridingMembers main c := mem_overridingMembers_of_signal hm hrole hvoid hcheck
      exact .inl (mem_callbacks hmain hgenerates (.inl ho) hname hcarries
        (output_resolves_of_check hcheck rfl))
    · push Not at hcarries
      obtain ⟨p, hp, hvoid⟩ := hcarries
      exact .inr (.valueless hrole hp hvoid)
  | @override m hm hrole himpure hstructor hvoid hfree hcheck =>
    have hcheck' : ctx.checkMethod c (View.of m) = .ok () := checkMethod_of_plain hstructor hcheck
    cases hslot : main && m.role == .slot with
    | true =>
      simp only [Bool.and_eq_true, beq_iff_eq] at hslot
      have hcheck'' : ctx.checkMethod c (View.of m).nonVirtual = .ok () :=
        (checkMethod_nonVirtual c (View.of m)).trans hcheck'
      exact .inl (called_of_slot hmain hgenerates hslot.1 hm hslot.2 hcheck'' hname)
    | false =>
      have hhooked : isHooked m = true := isHooked_eq_true_iff.2 ⟨.inr himpure, hvoid, hstructor⟩
      have hown : ctx.Overrides main c (View.of m) :=
        .own hm hrole hslot hhooked hcheck' hfree
      exact called_of_overrides hmain hgenerates hown rfl (by simp [View.plain]) hname
  | @inherited base m hbase hm hinherit hcheck hfree =>
    have hstructor : m.role.isStructor = false := by
      simp only [isInheritable, Bool.and_eq_true, Bool.not_eq_true'] at hinherit
      exact hinherit.2
    have hcheck' : ctx.checkMethod base ((View.of m).retarget c.name) = .ok () :=
      checkMethod_of_plain hstructor hcheck
    have hinherited : ctx.Overrides main c ((View.of m).retarget c.name) :=
      .inherited hbase hm hinherit hcheck' hfree
    exact called_of_overrides hmain hgenerates hinherited rfl
      (by simp [View.plain, View.retarget]) hname
  | slot htrue hm hrole hcheck =>
    exact .inl (called_of_slot hmain hgenerates htrue hm hrole hcheck hname)

/-! ## Called callbacks -/

lemma callbackSignature_of_trampoline {member : String} {t : Trampoline}
    (h : ctx.trampoline c member v = .ok t) :
    ∃ s, ctx.callbackSignature v = .ok s ∧ s.name = t.callback := by
  obtain ⟨hname, hcarries, houtput⟩ := trampoline_isOk_iff.1 ⟨t, h⟩
  obtain ⟨s, hs⟩ := callbackSignature_isOk_iff.2
    ⟨hname, fun p hp => (hcarries p hp).imp fun _ hk => hk.1, houtput⟩
  have hsame : (.ok s.name : Except Obstacle String) = .ok t.callback := by
    rw [← callbackName_of_callbackSignature hs, (trampoline_eq_ok_iff.1 h).1]
  exact ⟨s, hs, Except.ok.inj hsame⟩

/-- What a trampoline of a view calls is listed, once the callback of the view is. -/
lemma mem_listedCallbacks_of_isListed {t : Trampoline} {member : String}
    (hsupports : ctx.supports c = true) (ht : ctx.trampoline c member v = .ok t)
    (hv' : ctx.IsListed (ctx.contractWalk main c) v')
    (hsame : ctx.callbackSignature v' = ctx.callbackSignature v) :
    t.callback ∈ listedCallbacks (ctx.classContract main c) := by
  obtain ⟨e, he, hrole, hsignature⟩ := hv'
  obtain ⟨s, hs, hname⟩ := callbackSignature_of_trampoline ht
  rw [classContract_eq hsupports]
  refine mem_listedCallbacks.2 ⟨e, he, hrole, s, ?_, hname⟩
  rw [hsignature, hsame, hs]
  rfl

lemma Overrides.overridable (hgenerates : ctx.generatesSubclass c = true)
    (hv : ctx.Overrides main c v) : ctx.Overridable main c v.plain := by
  cases hv with
  | own hm hrole hslot hhooked hcheck hfree =>
    obtain ⟨himpure, hvoid, -⟩ := isHooked_eq_true_iff.1 hhooked
    exact ⟨hgenerates, rfl, rfl, rfl, .inl ⟨rfl, himpure.resolve_left hrole, hvoid, hfree⟩⟩
  | inherited hbase hm hinherit hcheck hfree =>
    simp only [isInheritable, Bool.and_eq_true] at hinherit
    exact ⟨hgenerates, rfl, rfl, rfl, .inl ⟨rfl, hinherit.1.1, hinherit.1.2, hfree⟩⟩

/-- What a trampoline calls is listed, unless its view may stay unannounced. -/
theorem listed_of_isTrampoline {t : Trampoline} (hgenerates : ctx.generatesSubclass c = true)
    (ht : ctx.IsTrampoline main c t) :
    t.callback ∈ listedCallbacks (ctx.classContract main c) ∨ ctx.Unannounced main c t.view := by
  have hsupports := supports_of_generatesSubclass hgenerates
  obtain ⟨hv, ht⟩ := ht
  generalize t.view = v at hv ht ⊢
  cases hv with
  | signal hm hrole hvoid hcheck =>
    exact .inl (mem_listedCallbacks_of_isListed hsupports ht
      (isListed_of_signal hgenerates hm hrole hvoid hcheck) rfl)
  | override hv =>
    by_cases hdeclared : v.plain ∈ (ctx.classHeader main c).views
    · exact .inl (mem_listedCallbacks_of_isListed hsupports ht
        (isListed_of_declared (hv.overridable hgenerates) hdeclared)
        (callbackSignature_congr rfl rfl rfl))
    · exact .inr (.override hv hdeclared)
  | @slot m hmain hm hrole hcheck =>
    -- an impure slot is listed as a virtual method is, any other as a slot
    cases himpure : m.isImpure with
    | true =>
      cases hvoid : m.returnsVoid with
      | false => exact .inr (.virtualSlot hmain hm hrole himpure (.inl hvoid))
      | true =>
        cases hfree : ctx.config.blocks m.name c.name with
        | true => exact .inr (.virtualSlot hmain hm hrole himpure (.inr (.inl hfree)))
        | false =>
          by_cases hdeclared : (View.of m).plain ∈ (ctx.classHeader main c).views
          · have hoverridable : ctx.Overridable main c (View.of m).plain :=
              ⟨hgenerates, rfl, rfl, rfl, .inl ⟨rfl, himpure, hvoid, hfree⟩⟩
            exact .inl (mem_listedCallbacks_of_isListed hsupports ht
              (isListed_of_declared hoverridable hdeclared) (callbackSignature_congr rfl rfl rfl))
          · exact .inr (.virtualSlot hmain hm hrole himpure (.inr (.inr hdeclared)))
    | false =>
      by_cases hdeclared : View.of m ∈ (ctx.classHeader main c).views
      · have hoverridable : ctx.Overridable main c (View.of m) :=
          ⟨hgenerates, rfl, rfl, rfl, .inr ⟨hmain, hrole⟩⟩
        exact .inl (mem_listedCallbacks_of_isListed hsupports ht
          (isListed_of_declared hoverridable hdeclared) (callbackSignature_congr rfl rfl rfl))
      · exact .inr (.slot hmain hm hrole himpure hdeclared)

/-! ## Modules -/

lemma mem_calledCallbacks_of_generate {module name : String} {a : Artifacts}
    {classes : List Class} (hclasses : ctx.emittedClasses module = .ok classes)
    (ha : ctx.generate module = .ok a) :
    name ∈ a.implementation.calledCallbacks ↔ ∃ c ∈ classes,
      name ∈ (ctx.classImplementation (ctx.config.isMain module) c).trampolines.map
        Trampoline.callback := by
  obtain ⟨classes', hclasses', rfl⟩ := generate_eq_ok_iff.1 ha
  obtain rfl : classes = classes' := Except.ok.inj (hclasses.symm.trans hclasses')
  simp only [Implementation.calledCallbacks, implementation, List.flatMap_map, List.mem_flatMap]

/-- Whatever a module is generated to, its contract lists exactly the callbacks that its trampolines
call, if and only if none of its unanswered views is listed in vain and none of its unannounced
views is called in vain. -/
theorem callbacks_correspond_iff {ctx : Context} {module : String} {a : Artifacts}
    (ha : ctx.generate module = .ok a) :
    ∃ entries, ctx.contract module = .ok entries ∧
      ((∀ name, name ∈ listedCallbacks entries ↔ name ∈ a.implementation.calledCallbacks) ↔
        (∀ c ∈ ctx.registry.classesIn module,
          ∀ e ∈ ctx.classContract (ctx.config.isMain module) c, e.role = .callback →
            ctx.Unanswered (ctx.config.isMain module) c e.view →
            ∀ s, e.signature = some s → s.name ∈ a.implementation.calledCallbacks) ∧
        ∀ c ∈ ctx.registry.classesIn module,
          ∀ t ∈ (ctx.classImplementation (ctx.config.isMain module) c).trampolines,
            ctx.Unannounced (ctx.config.isMain module) c t.view →
            t.callback ∈ listedCallbacks entries) := by
  obtain ⟨classes, hclasses, -⟩ := generate_eq_ok_iff.1 ha
  have hcontract : ctx.contract module =
      .ok (classes.flatMap (ctx.classContract (ctx.config.isMain module))) :=
    contract_eq_ok_iff.2 ⟨classes, hclasses, rfl⟩
  have hmem : ∀ c, c ∈ classes ↔ c ∈ ctx.registry.classesIn module :=
    fun c => (perm_of_emittedClasses hclasses).mem_iff
  refine ⟨_, hcontract, ?_⟩
  simp only [mem_listedCallbacks_of_contract hclasses hcontract,
    mem_calledCallbacks_of_generate hclasses ha]
  constructor
  · intro h
    constructor
    · intro c hc e he hrole _ s hs
      have hlisted : s.name ∈ listedCallbacks (ctx.classContract (ctx.config.isMain module) c) :=
        mem_listedCallbacks.2 ⟨e, he, hrole, s, hs, rfl⟩
      exact (h s.name).1 ⟨c, (hmem c).2 hc, hlisted⟩
    · intro c hc t ht _
      exact (h t.callback).2 ⟨c, (hmem c).2 hc, List.mem_map.2 ⟨t, ht, rfl⟩⟩
  · rintro ⟨hanswered, hannounced⟩ name
    constructor
    · rintro ⟨c, hc, hname⟩
      obtain ⟨e, he, hrole, s, hs, rfl⟩ := mem_listedCallbacks.1 hname
      obtain ⟨hgenerates, hlists, hsignature⟩ := listsCallback_of_mem he hrole
      have hok : ctx.callbackSignature e.view = .ok s := by
        rw [hsignature] at hs
        cases hcallback : ctx.callbackSignature e.view with
        | error o => simp [hcallback, Except.toOption] at hs
        | ok s' => simpa [hcallback, Except.toOption] using hs
      have hmain : ctx.config.isMain module = ctx.isMain c := (isMain_of_mem hclasses hc).symm
      rcases called_of_listsCallback hmain hgenerates hlists hok with hcalled | hunanswered
      · exact ⟨c, hc, hcalled⟩
      · exact hanswered c ((hmem c).1 hc) e he hrole hunanswered s hs
    · rintro ⟨c, hc, hname⟩
      obtain ⟨t, ht, rfl⟩ := List.mem_map.1 hname
      have hmain : ctx.config.isMain module = ctx.isMain c := (isMain_of_mem hclasses hc).symm
      obtain ⟨hgenerates, htrampoline⟩ := isTrampoline_of_mem hmain ht
      rcases listed_of_isTrampoline hgenerates htrampoline with hlisted | hunannounced
      · exact ⟨c, hc, hlisted⟩
      · exact hannounced c ((hmem c).1 hc) t ht hunannounced

/-- A main-module class with a signal, a slot and an inherited virtual method has all three
callbacks listed and called. -/
theorem callbacks_correspond_sample :
    ∃ a entries, Sample.context.generate "main" = .ok a ∧
      Sample.context.contract "main" = .ok entries ∧
      ∀ name, name ∈ listedCallbacks entries ↔ name ∈ a.implementation.calledCallbacks := by
  have hsame : (Sample.context.generate "main").toOption.any (fun a =>
      (Sample.context.contract "main").toOption.any fun entries =>
        (listedCallbacks entries).all (a.implementation.calledCallbacks.contains ·) &&
          a.implementation.calledCallbacks.all ((listedCallbacks entries).contains ·)) = true := by
    decide +kernel
  obtain ⟨a, hgenerate, hsame⟩ := any_toOption_iff.1 hsame
  obtain ⟨entries, hcontract, hsame⟩ := any_toOption_iff.1 hsame
  simp only [Bool.and_eq_true, List.all_eq_true, List.contains_iff_mem] at hsame
  obtain ⟨hcalled, hlisted⟩ := hsame
  obtain ⟨classes, hclasses, -⟩ := generate_eq_ok_iff.1 hgenerate
  have hmem : ∀ c, c ∈ classes ↔ c ∈ Sample.context.registry.classesIn "main" :=
    fun c => (perm_of_emittedClasses hclasses).mem_iff
  obtain ⟨entries', hcontract', hiff⟩ := callbacks_correspond_iff hgenerate
  obtain rfl : entries = entries' := Except.ok.inj (hcontract.symm.trans hcontract')
  refine ⟨a, entries, hgenerate, hcontract, hiff.2 ⟨?_, ?_⟩⟩
  · intro c hc e he hrole _ s hs
    refine hcalled _ ((mem_listedCallbacks_of_contract hclasses hcontract).2 ?_)
    exact ⟨c, (hmem c).2 hc, mem_listedCallbacks.2 ⟨e, he, hrole, s, hs, rfl⟩⟩
  · intro c hc t ht _
    refine hlisted _ ((mem_calledCallbacks_of_generate hclasses hgenerate).2 ?_)
    exact ⟨c, (hmem c).2 hc, List.mem_map.2 ⟨t, ht, rfl⟩⟩

end Context

/-- A main-module class with one slot, which is virtual and puts something out. -/
def Sample.virtualSlot : Context where
  registry := {
    classes := [object, { counter with methods := [
      { name := "label", fullName := "Counter::label", role := .slot, dispatch := .impure,
        output := "bool" }] }]
    distinct := by decide }
  config := {}

/-- The callback of a virtual slot with an output is called and not listed. -/
theorem callbacks_differ_virtualSlot :
    ∃ a entries, Sample.virtualSlot.generate "main" = .ok a ∧
      Sample.virtualSlot.contract "main" = .ok entries ∧
      "callbackCounterLabel" ∈ a.implementation.calledCallbacks ∧
      "callbackCounterLabel" ∉ listedCallbacks entries := by
  have hdiffer : (Sample.virtualSlot.generate "main").toOption.any (fun a =>
      (Sample.virtualSlot.contract "main").toOption.any fun entries =>
        a.implementation.calledCallbacks.contains "callbackCounterLabel" &&
          !(listedCallbacks entries).contains "callbackCounterLabel") = true := by
    decide +kernel
  obtain ⟨a, hgenerate, hdiffer⟩ := any_toOption_iff.1 hdiffer
  obtain ⟨entries, hcontract, hdiffer⟩ := any_toOption_iff.1 hdiffer
  rw [Bool.and_eq_true, Bool.not_eq_true', List.contains_iff_mem] at hdiffer
  refine ⟨a, entries, hgenerate, hcontract, hdiffer.1, fun hlisted => ?_⟩
  have hcontains : (listedCallbacks entries).contains "callbackCounterLabel" = true :=
    List.contains_iff_mem.2 hlisted
  rw [hdiffer.2] at hcontains
  cases hcontains

end Bindery
