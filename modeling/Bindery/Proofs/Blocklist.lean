import Mathlib.Tactic.Lemma
import Bindery.Proofs.Provenance
import Bindery.Proofs.Sample

/-!
# The blocklist

A pair on the blocklist says that a class may not override a virtual method.  The class then has no
trampoline for it, no way to call its default, no handlers and no callback; what remains is the
plain call.  The blocklist is asked wherever a walk is about to emit one of these, with a single
exception: the slots of a main-module class are forwarded as slots, and whether a slot is virtual
and blocked is not asked.  `blocklist_kept_iff` says that nothing else gets past the blocklist.
-/

namespace Bindery

/-- The blocklist names a method for a class.  It is about virtual methods; signals are never
overridden. -/
def Context.Blocked (ctx : Context) (c : Class) (m : Method) : Prop :=
  m.dispatch ≠ .direct ∧ m.role ≠ .signal ∧ ctx.config.blocks m.name c.name = true

/-- What is generated for a class keeps to the blocklist. -/
structure Artifacts.KeepsBlocklist (a : Artifacts) (ctx : Context) (c : Class) : Prop where
  /-- The generated subclass has no trampoline for a blocked method. -/
  trampolines : ∀ k ∈ a.implementation.classes, k.name = c.name → ∀ t ∈ k.trampolines,
    ¬ctx.Blocked c t.view.method
  /-- The header declares no call of its default. -/
  declarations : ∀ h ∈ a.header.classes, h.name = c.name → ∀ d ∈ h.declared,
    d.view.forwardsDefault = true → ¬ctx.Blocked c d.view.method
  /-- Nor does the implementation define one. -/
  bodies : ∀ k ∈ a.implementation.classes, k.name = c.name → ∀ b ∈ k.defined,
    b.view.forwardsDefault = true → ¬ctx.Blocked c b.view.method
  /-- Whatever the contract lists for a blocked method is a plain call. -/
  contract : ∀ e ∈ ctx.classContract (ctx.isMain c) c, ctx.Blocked c e.view.method →
    e.signature ≠ none → e.role = .wrapper ∧ e.view.direction = .plain ∧
      e.view.forwardsDefault = false

/-- A virtual slot of a main-module class that is forwarded although it is blocked. -/
structure Context.EvadesBlocklist (ctx : Context) (c : Class) (m : Method) : Prop where
  isMain : ctx.isMain c = true
  mem : m ∈ c.methods
  role : m.role = .slot
  dispatch : m.dispatch ≠ .direct
  blocked : ctx.config.blocks m.name c.name = true
  check : ctx.checkMethod c (View.of m) = .ok ()
  /-- The callback has a name, so that it can be called. -/
  callback : namesOperator (View.of m).rawCallbackName = false

namespace Context

variable {ctx : Context} {main : Bool} {c subject : Class} {v : View} {m : Method}

/-! ## What asks the blocklist -/

lemma not_blocked_of_free (hfree : ctx.config.blocks m.name c.name = false) :
    ¬ctx.Blocked c m := by
  rintro ⟨-, -, hblocked⟩
  rw [hfree] at hblocked
  cases hblocked

/-- No default of a blocked method is tried. -/
lemma Candidate.not_blocked_of_default (h : ctx.Candidate main c subject v)
    (hdefault : v.forwardsDefault = true) : ¬ctx.Blocked c v.method := by
  cases h with
  | default hm hrole himpure hstructor hvoid hmain hfree => exact not_blocked_of_free hfree
  | inheritedDefault hbase hm hinherit hfree => exact not_blocked_of_free hfree
  | hook | emit | virtual | «instance» | member | inherited => cases hdefault

lemma Candidate.direction_of_method (h : ctx.Candidate main c subject v)
    (hrole : v.method.role ≠ .signal) : v.direction = .plain := by
  cases h with
  | hook hm hsignal hd => exact absurd hsignal hrole
  | emit | virtual | default | «instance» | member | inherited | inheritedDefault => rfl

/-- A trampoline of a blocked method is that of a slot. -/
lemma Forwards.slot_of_blocked (h : ctx.Forwards main c v) (hblocked : ctx.Blocked c v.method) :
    main = true ∧ v.method ∈ c.methods ∧ v.method.role = .slot ∧
      v = (View.of v.method).nonVirtual ∧ ctx.checkMethod c v = .ok () := by
  cases h with
  | signal hm hrole hvoid hcheck => exact absurd hrole hblocked.2.1
  | override hv =>
    cases hv with
    | own hm hrole hslot hhooked hcheck hfree => exact absurd hblocked (not_blocked_of_free hfree)
    | inherited hbase hm hinherit hcheck hfree => exact absurd hblocked (not_blocked_of_free hfree)
  | slot hmain hm hrole hcheck => exact ⟨hmain, hm, hrole, rfl, hcheck⟩

lemma ListsCallback.slot_of_blocked (h : ctx.ListsCallback main c v)
    (hblocked : ctx.Blocked c v.method) :
    main = true ∧ v.method ∈ c.methods ∧ v.method.role = .slot ∧
      v = (View.of v.method).nonVirtual ∧ ctx.checkMethod c v = .ok () := by
  cases h with
  | signal hm hrole hvoid hcheck => exact absurd hrole hblocked.2.1
  | override hm hrole himpure hstructor hvoid hfree hcheck =>
    exact absurd hblocked (not_blocked_of_free hfree)
  | inherited hbase hm hinherit hcheck hfree => exact absurd hblocked (not_blocked_of_free hfree)
  | slot hmain hm hrole hcheck => exact ⟨hmain, hm, hrole, rfl, hcheck⟩

lemma evadesBlocklist_of_slot (hblocked : ctx.Blocked c v.method)
    (h : ctx.isMain c = true ∧ v.method ∈ c.methods ∧ v.method.role = .slot ∧
      v = (View.of v.method).nonVirtual ∧ ctx.checkMethod c v = .ok ())
    (hname : ∃ name, v.callbackName = .ok name) : ctx.EvadesBlocklist c v.method := by
  obtain ⟨hmain, hm, hrole, hview, hcheck⟩ := h
  rw [hview, checkMethod_nonVirtual] at hcheck
  rw [hview] at hname
  exact ⟨hmain, hm, hrole, hblocked.1, hblocked.2.2, hcheck, View.callbackName_isOk_iff.1 hname⟩

/-! ## What gets past it -/

lemma exists_trampoline_of_evades (hgenerates : ctx.generatesSubclass c = true)
    (h : ctx.EvadesBlocklist c m) :
    ∃ t ∈ (ctx.classImplementation (ctx.isMain c) c).trampolines, t.view.method = m := by
  have hcheck : ctx.checkMethod c (View.of m).nonVirtual = .ok () := by
    rw [checkMethod_nonVirtual]
    exact h.check
  have hrole : (View.of m).nonVirtual.role ≠ .signal := by
    show m.role ≠ .signal
    rw [h.role]
    simp
  have hname : ∃ name, (View.of m).nonVirtual.callbackName = .ok name :=
    View.callbackName_isOk_iff.2 h.callback
  obtain ⟨t, ht⟩ : ∃ t, ctx.trampoline c m.name (View.of m).nonVirtual = .ok t :=
    trampoline_isOk_iff.2 ⟨hname, hookParameters_carry_of_check hcheck hrole,
      output_resolves_of_check hcheck rfl⟩
  have hslot := mem_slotMembers h.mem h.role hcheck
  rw [trampolineOutcome_eq_written_iff.2 ht] at hslot
  refine ⟨t, ?_, ?_⟩
  · rw [trampolines_eq rfl hgenerates, h.isMain, if_pos rfl]
    exact List.mem_append_right _ (mem_writtenItems.2 hslot)
  · rw [(trampoline_eq_ok_iff.1 ht).2.2.2.1]
    rfl

/-- The contract lists nothing but plain calls for a blocked method, unless it is a slot that evades
the blocklist. -/
lemma plainCall_of_mem_classContract {e : ContractEntry}
    (he : e ∈ ctx.classContract (ctx.isMain c) c) (hblocked : ctx.Blocked c e.view.method)
    (hsignature : e.signature ≠ none) :
    (e.role = .wrapper ∧ e.view.direction = .plain ∧ e.view.forwardsDefault = false) ∨
      ctx.generatesSubclass c = true ∧ ctx.EvadesBlocklist c e.view.method := by
  cases hrole : e.role with
  | wrapper =>
    obtain ⟨-, subject, hcandidate, -⟩ := candidate_of_mem_classContract he hrole
    refine .inl ⟨rfl, hcandidate.direction_of_method hblocked.2.1, ?_⟩
    by_contra hdefault
    exact hcandidate.not_blocked_of_default (by simpa using hdefault) hblocked
  | hook =>
    obtain ⟨-, v, d, hv, hplain, -, hview⟩ := isPair_of_mem he hrole
    rw [hview] at hblocked
    obtain ⟨-, -, hslot, hv', -⟩ := hv.slot_of_blocked hblocked
    have hrole' : v.role = .slot := by
      rw [hv']
      exact hslot
    rw [hplain] at hrole'
    cases hrole'
  | callback =>
    obtain ⟨hgenerates, hv, hsigned⟩ := listsCallback_of_mem he hrole
    rw [hsigned, ne_eq, toOption_eq_none_iff, not_not] at hsignature
    have hname : ∃ name, e.view.callbackName = .ok name :=
      (callbackSignature_isOk_iff.1 hsignature).1
    exact .inr ⟨hgenerates, evadesBlocklist_of_slot hblocked (hv.slot_of_blocked hblocked) hname⟩

/-- For whatever class of whatever module, what is generated keeps to the blocklist if and only if
no virtual slot of a generated main-module class is blocked that passes its check and whose callback
has a name. -/
theorem blocklist_kept_iff {ctx : Context} {module : String} {a : Artifacts} {c : Class}
    (ha : ctx.generate module = .ok a) (hc : c ∈ ctx.registry.classesIn module) :
    a.KeepsBlocklist ctx c ↔
      (ctx.generatesSubclass c = true → ∀ m, ¬ctx.EvadesBlocklist c m) := by
  have hmain : ctx.config.isMain module = ctx.isMain c := isMain_of_mem_classesIn hc
  have hheader {h : ClassHeader} := classHeader_of_name (h := h) ha hc
  have himplementation {k : ClassImplementation} := classImplementation_of_name (k := k) ha hc
  rw [hmain] at hheader himplementation
  constructor
  · intro hkept hgenerates m hevades
    obtain ⟨t, ht, hmethod⟩ := exists_trampoline_of_evades hgenerates hevades
    obtain ⟨hk, hname⟩ := himplementation.2 rfl
    have hrole : m.role ≠ .signal := by
      rw [hevades.role]
      simp
    refine hkept.trampolines _ hk hname t ht ?_
    rw [hmethod]
    exact ⟨hevades.dispatch, hrole, hevades.blocked⟩
  · intro hnone
    refine ⟨fun k hk hname t ht hblocked => ?_, fun h hh hname d hd hdefault => ?_,
      fun k hk hname b hb hdefault => ?_, fun e he hblocked hsignature => ?_⟩
    · obtain rfl := himplementation.1 ⟨hk, hname⟩
      obtain ⟨hgenerates, hforwards, hok⟩ := isTrampoline_of_mem rfl ht
      have hcallback := (trampoline_isOk_iff.1 ⟨t, hok⟩).1
      exact hnone hgenerates _
        (evadesBlocklist_of_slot hblocked (hforwards.slot_of_blocked hblocked) hcallback)
    · obtain rfl := hheader.1 ⟨hh, hname⟩
      obtain ⟨-, subject, hcandidate, -⟩ := declares_of_mem_declared hd
      exact hcandidate.not_blocked_of_default hdefault
    · obtain rfl := himplementation.1 ⟨hk, hname⟩
      obtain ⟨-, subject, hcandidate, -⟩ := defines_of_mem_defined hb
      exact hcandidate.not_blocked_of_default hdefault
    · rcases plainCall_of_mem_classContract he hblocked hsignature with
        hplain | ⟨hgenerates, hevades⟩
      · exact hplain
      · exact absurd hevades (hnone hgenerates _)

end Context

/-- The sample with a blocklist for `Counter`, which is about a method that it inherits. -/
def Sample.blocking : Context :=
  { Sample.context with
    config := { exclusions := { blockedVirtuals := [⟨"timerEvent", "Counter"⟩] } } }

/-- A class without virtual slots keeps to its blocklist. -/
theorem blocklist_kept_sample :
    Sample.blocking.config.blocks "timerEvent" "Counter" = true ∧
      ∃ a, Sample.blocking.generate "main" = .ok a ∧
        a.KeepsBlocklist Sample.blocking Sample.counter := by
  have hok : (Sample.blocking.generate "main").isOk = true := by decide +kernel
  obtain ⟨a, ha⟩ := isOk_iff_exists.1 hok
  have hcounter : Sample.counter ∈ Sample.blocking.registry.classesIn "main" := by decide +kernel
  have hdirect : ∀ m ∈ Sample.counter.methods, m.dispatch = .direct := by decide
  refine ⟨by decide, a, ha, (Context.blocklist_kept_iff ha hcounter).2 fun _ m hevades => ?_⟩
  exact hevades.dispatch (hdirect m hevades.mem)

/-- A virtual slot. -/
def Sample.refresh : Method :=
  { name := "refresh", fullName := "Counter::refresh", role := .slot, dispatch := .impure,
    output := "void" }

/-- A main-module class whose only method is a virtual slot, with this slot on the blocklist. -/
def Sample.blockingSlot : Context where
  registry := { classes := [object, { counter with methods := [refresh] }], distinct := by decide }
  config := { exclusions := { blockedVirtuals := [⟨"refresh", "Counter"⟩] } }

/-- A blocked slot has a trampoline. -/
theorem blocklist_evaded :
    ∃ a, Sample.blockingSlot.generate "main" = .ok a ∧
      ¬a.KeepsBlocklist Sample.blockingSlot { Sample.counter with methods := [Sample.refresh] } := by
  have hforwards : (Sample.blockingSlot.generate "main").toOption.any (fun a =>
      a.implementation.classes.any fun k => k.name == "Counter" &&
        k.trampolines.any fun t => t.view.method == Sample.refresh) = true := by
    decide +kernel
  obtain ⟨a, ha, hforwards⟩ := any_toOption_iff.1 hforwards
  simp only [List.any_eq_true, Bool.and_eq_true, beq_iff_eq] at hforwards
  obtain ⟨k, hk, hname, t, ht, hmethod⟩ := hforwards
  refine ⟨a, ha, fun hkept => hkept.trampolines k hk hname t ht ?_⟩
  rw [hmethod]
  exact ⟨by decide, by decide, by decide⟩

end Bindery
