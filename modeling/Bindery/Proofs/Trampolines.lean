import Mathlib.Tactic.Lemma
import Bindery.Proofs.Checks
import Bindery.Proofs.Walkers

/-!
# The trampolines of a class

A generated subclass tries a trampoline for three kinds of views: the signals of its class
(`Context.Forwards.signal`), the virtual methods that it overrides (`Context.Overrides`), and, in
the main module, the slots.  A trampoline exists exactly if its callback has a name and its
parameters and output have a meaning (`trampoline_isOk_iff`).

These are the views that the walk over a class requests, whatever states it goes over
(`Walker.Simulates.overridingMembers`).  `Context.OverrideStep` says more about the states of the
walk itself: it lists what happens to them at a method, and what its five cases keep is carried over
the class by `overridingWalk_induction`.

A virtual method may be tried and still have no trampoline of its own, if its key was settled
before.  `overrides_accounted` says what can have settled it: a method of the class that is not
overridable hides it, or another override of the key was tried in its place.
-/

namespace Bindery

/-- The trampolines of a class. -/
def ClassImplementation.trampolines (i : ClassImplementation) : List Trampoline :=
  i.subclass.elim [] Subclass.trampolines

namespace View

lemma callbackName_congr {v v' : View} (howner : v.owner = v'.owner) (hkey : v.key = v'.key) :
    v.callbackName = v'.callbackName := by
  have hname : v.method.name = v'.method.name := congrArg Prod.fst hkey
  have hoverload : v.method.overload = v'.method.overload := congrArg Prod.snd hkey
  unfold callbackName rawCallbackName Method.overloadSuffix View.name
  rw [howner, hname, hoverload]

end View

namespace Context

variable {ctx : Context} {main : Bool} {c base : Class} {v : View} {m : Method} {member : String}

/-! ## When a trampoline exists -/

lemma trampoline_eq_ok_iff {t : Trampoline} :
    ctx.trampoline c member v = .ok t ↔ v.callbackName = .ok t.callback ∧
      ctx.callbackArguments v = .ok t.arguments ∧
      ctx.resolve? v v.outputToken = some t.output ∧
      t.view = v ∧ t.subclass = ctx.subclassName c ∧ t.member = member ∧
      t.parameters = nativeParameters (ctx.hookParameters v) ∧
      t.outputType = Text.trim v.outputToken := by
  have hname : (v.toward .callback).callbackName = v.callbackName := rfl
  simp only [trampoline, bind_eq_ok, hname]
  constructor
  · rintro ⟨callback, hcallback, arguments, harguments, h⟩
    cases houtput : ctx.resolve? v v.outputToken with
    | none => simp [houtput] at h
    | some output =>
      simp only [houtput, pure_eq_ok] at h
      subst h
      exact ⟨hcallback, harguments, rfl, rfl, rfl, rfl, rfl, rfl⟩
  · rintro ⟨hcallback, harguments, houtput, hview, hsubclass, hmember, hparameters, htype⟩
    refine ⟨_, hcallback, _, harguments, ?_⟩
    simp only [houtput, pure_eq_ok]
    cases t
    simp only at hview hsubclass hmember hparameters htype
    simp only [hview, hsubclass, hmember, hparameters, htype]

/-- A view has a trampoline exactly if its callback has a name, the parameters that are forwarded
carry values, and its output resolves. -/
theorem trampoline_isOk_iff :
    (∃ t, ctx.trampoline c member v = .ok t) ↔ (∃ name, v.callbackName = .ok name) ∧
      (∀ p ∈ ctx.hookParameters v, ctx.Carries v p) ∧
      ∃ k, ctx.resolve? v v.outputToken = some k := by
  rw [← callbackArguments_isOk_iff]
  simp only [trampoline_eq_ok_iff]
  constructor
  · rintro ⟨t, hname, harguments, houtput, -⟩
    exact ⟨⟨_, hname⟩, ⟨_, harguments⟩, ⟨_, houtput⟩⟩
  · rintro ⟨⟨callback, hname⟩, ⟨arguments, harguments⟩, ⟨output, houtput⟩⟩
    exact ⟨⟨_, callback, _, _, _, arguments, output, _⟩, hname, harguments, houtput, rfl, rfl, rfl,
      rfl, rfl⟩

lemma trampolineOutcome_eq_written_iff {t : Trampoline} :
    ctx.trampolineOutcome c member v = .written t ↔ ctx.trampoline c member v = .ok t := by
  unfold trampolineOutcome
  cases ctx.trampoline c member v <;> simp

lemma hookParameters_subset (v : View) : ctx.hookParameters v ⊆ v.parameters :=
  List.filter_sublist.subset

/-- The output of a plain view that passed its check resolves. -/
lemma output_resolves_of_check (hcheck : ctx.checkMethod c v = .ok ())
    (hdirection : v.direction = .plain) : ∃ k, ctx.resolve? v v.outputToken = some k := by
  obtain ⟨-, -, -, hprototype⟩ := checkMethod_eq_ok_iff.1 hcheck
  obtain ⟨-, houtput, -⟩ := prototype_isOk_iff.1 hprototype
  exact houtput (by rw [hdirection]; rfl)

lemma hookParameters_carry_of_check (hcheck : ctx.checkMethod c v = .ok ())
    (hrole : v.role ≠ .signal) : ∀ p ∈ ctx.hookParameters v, ctx.Carries v p := by
  obtain ⟨-, -, -, hprototype⟩ := checkMethod_eq_ok_iff.1 hcheck
  obtain ⟨-, -, hcarries⟩ := prototype_isOk_iff.1 hprototype
  exact fun p hp => hcarries hrole p (hookParameters_subset v hp)

lemma isHooked_eq_true_iff :
    isHooked m = true ↔ (m.role = .signal ∨ m.isImpure = true) ∧ m.returnsVoid = true ∧
      m.role.isStructor = false := by
  simp [isHooked, and_assoc]

end Context

/-! ## The views that are forwarded -/

/-- The views of virtual methods that the generated subclass of `c` overrides, unless their key is
settled before. -/
inductive Context.Overrides (ctx : Context) (main : Bool) (c : Class) : View → Prop
  /-- The class declares the method. -/
  | own {m : Method} (hm : m ∈ c.methods) (hrole : m.role ≠ .signal)
      (hslot : (main && m.role == .slot) = false) (hhooked : isHooked m = true)
      (hcheck : ctx.checkMethod c (View.of m) = .ok ())
      (hfree : ctx.config.blocks m.name c.name = false) : ctx.Overrides main c (View.of m)
  /-- The class inherits the method. -/
  | inherited {base : Class} {m : Method} (hbase : base ∈ ctx.supportedBases c)
      (hm : m ∈ base.methods) (hinherit : isInheritable m = true)
      (hcheck : ctx.checkMethod base ((View.of m).retarget c.name) = .ok ())
      (hfree : ctx.config.blocks m.name c.name = false) :
      ctx.Overrides main c ((View.of m).retarget c.name)

lemma Context.Overrides.exists_check {ctx : Context} {main : Bool} {c : Class} {v : View}
    (h : ctx.Overrides main c v) :
    (∃ subject, ctx.checkMethod subject v = .ok ()) ∧ v.direction = .plain := by
  cases h with
  | own hm hrole hslot hhooked hcheck hfree => exact ⟨⟨_, hcheck⟩, rfl⟩
  | inherited hbase hm hinherit hcheck hfree => exact ⟨⟨_, hcheck⟩, rfl⟩

/-- The views for which the generated subclass of `c` tries a trampoline. -/
inductive Context.Forwards (ctx : Context) (main : Bool) (c : Class) : View → Prop
  | signal {m : Method} (hm : m ∈ c.methods) (hrole : m.role = .signal)
      (hvoid : m.returnsVoid = true) (hcheck : ctx.checkMethod c (View.of m) = .ok ()) :
      ctx.Forwards main c (View.of m)
  | override {v : View} (h : ctx.Overrides main c v) : ctx.Forwards main c v
  | slot {m : Method} (hmain : main = true) (hm : m ∈ c.methods) (hrole : m.role = .slot)
      (hcheck : ctx.checkMethod c (View.of m).nonVirtual = .ok ()) :
      ctx.Forwards main c (View.of m).nonVirtual

/-! ## The requests of the walk -/

/-- A request for a trampoline of the class `c`. -/
def ForwardRequest.IsForwarded (ctx : Context) (main : Bool) (c : Class) (r : ForwardRequest) :
    Prop :=
  r.subject = c ∧ ctx.Forwards main c r.view

namespace Walker

open Context

variable {σ τ : Type} {S : Walker ForwardRequest σ} {T : Walker ForwardRequest τ} {R : σ → τ → Prop}
  {s : σ} {t : τ} {ctx : Context} {main : Bool} {c base : Class} {m : Method}

namespace Simulates

theorem overrideOwn (h : S.Simulates T (·.IsForwarded ctx main c) R) (hm : m ∈ c.methods)
    (hst : R s t) : R (S.overrideOwn ctx main c s m) (T.overrideOwn ctx main c t m) := by
  unfold Walker.overrideOwn
  simp only [h.isSettled hst]
  have hsettled := h.settle hst (View.of m).key
  split
  · exact hst
  next hslot =>
  split
  · exact hsettled
  next hhooked =>
  have hhooked : isHooked m = true := by simpa using hhooked
  split
  · exact h.skip hst _ _
  next hcheck =>
  split
  next hs =>
    have hvoid : m.returnsVoid = true := (isHooked_eq_true_iff.1 hhooked).2.1
    have hsignal : ctx.Forwards main c (View.of m) := .signal hm (by simpa using hs) hvoid hcheck
    exact (h.attempt (r := ⟨c, _, _⟩) ⟨rfl, hsignal⟩ hst).1
  next hs =>
  split
  · exact hst
  split
  · exact hsettled
  next hfree =>
  have hoverride : ctx.Overrides main c (View.of m) := .own hm (by simpa using hs)
    (by simpa using hslot) hhooked hcheck (by simpa using hfree)
  exact (h.attempt (r := ⟨c, _, _⟩) ⟨rfl, .override hoverride⟩ hsettled).1

theorem overrideInherited (h : S.Simulates T (·.IsForwarded ctx main c) R)
    (hbase : base ∈ ctx.supportedBases c) (hm : m ∈ base.methods) (hst : R s t) :
    R (S.overrideInherited ctx c base s m) (T.overrideInherited ctx c base t m) := by
  unfold Walker.overrideInherited
  simp only [h.isSettled hst]
  have hsettled := h.settle hst ((View.of m).retarget c.name).key
  split
  · exact hst
  next htried =>
  simp only [Bool.or_eq_true, Bool.not_eq_true', not_or, Bool.not_eq_false, isOk_iff_eq_ok]
    at htried
  obtain ⟨⟨hinherit, hcheck⟩, -⟩ := htried
  split
  · exact hsettled
  next hfree =>
  have hoverride : ctx.Overrides main c ((View.of m).retarget c.name) :=
    .inherited hbase hm hinherit hcheck (by simpa using hfree)
  exact (h.attempt (r := ⟨c, _, _⟩) ⟨rfl, .override hoverride⟩ hsettled).1

/-- What the attempts at trampolines keep related, the walk over the overriding members keeps
related. -/
theorem overridingMembers (h : S.Simulates T (·.IsForwarded ctx main c) R) (hst : R s t) :
    R (ctx.walk c (S.overrideOwn ctx main c) (S.overrideInherited ctx c) s)
      (ctx.walk c (T.overrideOwn ctx main c) (T.overrideInherited ctx c) t) :=
  walk_rel hst (fun _ hm _ _ hst => h.overrideOwn hm hst)
    fun _ hbase _ hm _ _ hst => h.overrideInherited hbase hm hst

theorem forwardSlots (h : S.Simulates T (·.IsForwarded ctx true c) R) (hst : R s t) :
    R ((c.methods.filter (·.role == .slot)).foldl (S.forwardSlot ctx c) s)
      ((c.methods.filter (·.role == .slot)).foldl (T.forwardSlot ctx c) t) := by
  refine List.foldl_rel hst fun m hm s t hst => ?_
  obtain ⟨hm, hrole⟩ := List.mem_filter.1 hm
  unfold Walker.forwardSlot
  simp only
  split
  next hcheck =>
    have hslot : ctx.Forwards true c (View.of m).nonVirtual :=
      .slot rfl hm (by simpa using hrole) hcheck
    exact (h.attempt (r := ⟨c, _, _⟩) ⟨rfl, hslot⟩ hst).1
  · exact h.skip hst _ _

end Simulates

theorem Preserves.overridingMembers {I : σ → Prop}
    (h : S.Preserves (·.IsForwarded ctx main c) I) (hs : I s) :
    I (ctx.walk c (S.overrideOwn ctx main c) (S.overrideInherited ctx c) s) :=
  (h.simulates.overridingMembers ⟨rfl, hs⟩).2

end Walker

namespace Context

variable {ctx : Context} {main : Bool} {c base : Class} {v : View} {m : Method} {member : String}
  {w : Walk Trampoline}

/-! ## One step of the walk -/

lemma le_addTrampoline (c : Class) (member : String) (v : View) (w : Walk Trampoline) :
    w.Le (ctx.addTrampoline c member v w) :=
  ⟨fun _ h => h, fun _ h => List.mem_append_left _ h⟩

lemma mem_addTrampoline (c : Class) (member : String) (v : View) (w : Walk Trampoline) :
    ctx.trampolineOutcome c member v ∈ (ctx.addTrampoline c member v w).outcomes := by
  simp [addTrampoline]

/-- A method of the class that is not overridable hides inherited ones with its key.  In the main
module slots do not count. -/
def Hides (main : Bool) (c : Class) (key : String × Option UInt32) : Prop :=
  ∃ m ∈ c.methods, (View.of m).key = key ∧ (main && m.role == .slot) = false ∧ isHooked m = false

/-- What the walk over the overriding members can do at a method, from the state `w`. -/
inductive OverrideStep (ctx : Context) (main : Bool) (c : Class) (w : Walk Trampoline) :
    Walk Trampoline → Prop
  | pass : OverrideStep ctx main c w w
  | skip (v : View) (o : Obstacle) : OverrideStep ctx main c w (w.skip v o)
  /-- It settles a key without a trampoline. -/
  | settle {key : String × Option UInt32}
      (h : Hides main c key ∨ ctx.config.blocks key.1 c.name = true) :
      OverrideStep ctx main c w (w.settle key)
  | signal {m : Method} (hm : m ∈ c.methods) (hrole : m.role = .signal)
      (hvoid : m.returnsVoid = true) (hcheck : ctx.checkMethod c (View.of m) = .ok ()) :
      OverrideStep ctx main c w (ctx.addTrampoline c (View.of m).slotName (View.of m) w)
  /-- It overrides a method whose key is not settled, and settles the key. -/
  | override {v : View} (hv : ctx.Overrides main c v) (hfresh : w.isSettled v.key = false) :
      OverrideStep ctx main c w (ctx.addTrampoline c v.method.name v (w.settle v.key))

theorem overrideStep_own (hm : m ∈ c.methods) (w : Walk Trampoline) :
    ctx.OverrideStep main c w (ctx.overrideOwn main c w m) := by
  unfold overrideOwn
  simp only
  split
  · exact .pass
  next hslot =>
  have hslot : (main && m.role == .slot) = false := by simpa using hslot
  split
  next hhooked =>
    have hhides : Hides main c (View.of m).key := ⟨m, hm, rfl, hslot, by simpa using hhooked⟩
    exact .settle (.inl hhides)
  next hhooked =>
  have hhooked : isHooked m = true := by simpa using hhooked
  cases hcheck : ctx.checkMethod c (View.of m) with
  | error o => exact .skip _ o
  | ok u =>
    by_cases hrole : m.role = .signal
    · have hvoid : m.returnsVoid = true := (isHooked_eq_true_iff.1 hhooked).2.1
      simp only [hrole, beq_self_eq_true, if_true]
      exact .signal hm hrole hvoid hcheck
    · have hrole' : (m.role == .signal) = false := by simpa using hrole
      simp only [hrole', Bool.false_eq_true, if_false]
      split
      · exact .pass
      next hsettled =>
      split
      next hblocked => exact .settle (.inr hblocked)
      next hfree =>
      have hfresh : w.isSettled (View.of m).key = false := by simpa using hsettled
      have hfree : ctx.config.blocks m.name c.name = false := by simpa using hfree
      exact .override (.own hm hrole hslot hhooked hcheck hfree) hfresh

theorem overrideStep_inherited (main : Bool) (hbase : base ∈ ctx.supportedBases c)
    (hm : m ∈ base.methods) (w : Walk Trampoline) :
    ctx.OverrideStep main c w (ctx.overrideInherited c base w m) := by
  unfold overrideInherited
  simp only
  split
  · exact .pass
  next hguard =>
  simp only [Bool.or_eq_true, Bool.not_eq_true', not_or, Bool.not_eq_false, Bool.not_eq_true]
    at hguard
  obtain ⟨⟨hinherit, hcheck⟩, hfresh⟩ := hguard
  split
  next hblocked => exact .settle (.inr hblocked)
  next hfree =>
  have hfree : ctx.config.blocks m.name c.name = false := by simpa using hfree
  exact .override (.inherited hbase hm hinherit (isOk_iff_eq_ok.1 hcheck) hfree) hfresh

lemma OverrideStep.le {w' : Walk Trampoline} (h : ctx.OverrideStep main c w w') : w.Le w' := by
  cases h with
  | pass => exact .refl w
  | skip v o => exact Walk.le_skip w v o
  | settle hkey => exact Walk.le_settle w _
  | signal hm hrole hvoid hcheck => exact le_addTrampoline c _ _ w
  | override hv hfresh => exact (Walk.le_settle w _).trans (le_addTrampoline c _ _ _)

/-- The state in which the walk over the overriding members ends. -/
def overridingWalk (ctx : Context) (main : Bool) (c : Class) : Walk Trampoline :=
  ctx.walk c (ctx.overrideOwn main c) (ctx.overrideInherited c) Walk.start

theorem overridingWalk_induction {P : Walk Trampoline → Prop} (start : P Walk.start)
    (step : ∀ w w', ctx.OverrideStep main c w w' → P w → P w') : P (ctx.overridingWalk main c) :=
  walk_induction start (fun _ hm w hw => step w _ (overrideStep_own hm w) hw)
    fun _ hbase _ hm w hw => step w _ (overrideStep_inherited main hbase hm w) hw

/-! ## What is written -/

/-- What is written in a walk are the trampolines of forwarded views. -/
def IsTrampoline (ctx : Context) (main : Bool) (c : Class) (t : Trampoline) : Prop :=
  ctx.Forwards main c t.view ∧ ctx.trampoline c t.member t.view = .ok t

lemma isTrampoline_of_outcome {t : Trampoline} (hv : ctx.Forwards main c v)
    (ht : ctx.trampolineOutcome c member v = .written t) : ctx.IsTrampoline main c t := by
  have hok := trampolineOutcome_eq_written_iff.1 ht
  obtain ⟨-, -, -, hview, -, hmember, -⟩ := trampoline_eq_ok_iff.1 hok
  rw [← hview] at hv hok
  rw [← hmember] at hok
  exact ⟨hv, hok⟩

/-- An attempt at a forwarded view adds its trampoline or none. -/
lemma preserves_isTrampoline (ctx : Context) (main : Bool) (c : Class) :
    ctx.forwarding.Preserves (·.IsForwarded ctx main c)
      (·.AllWritten (ctx.IsTrampoline main c)) where
  settle hw _ := hw
  skip hw _ _ := Walk.allWritten_skip.2 hw
  attempt {w r} hr hw := by
    obtain ⟨rfl, hv⟩ := hr
    intro t ht
    rcases List.mem_append.1 (mem_writtenItems.1 ht) with h | h
    · exact hw t (mem_writtenItems.2 h)
    · exact isTrampoline_of_outcome hv (List.mem_singleton.1 h).symm

theorem isTrampoline_of_mem_overridingMembers {t : Trampoline}
    (ht : t ∈ writtenItems (ctx.overridingMembers main c)) : ctx.IsTrampoline main c t := by
  have h := (preserves_isTrampoline ctx main c).overridingMembers Walk.allWritten_start
  rw [walk_forwarding] at h
  exact h t ht

theorem isTrampoline_of_mem_slotMembers {t : Trampoline} (hmain : main = true)
    (ht : t ∈ writtenItems (ctx.slotMembers c)) : ctx.IsTrampoline main c t := by
  obtain ⟨m, hm, hout⟩ := List.mem_map.1 (mem_writtenItems.1 ht)
  obtain ⟨hm, hrole⟩ := List.mem_filter.1 hm
  cases hcheck : ctx.checkMethod c (View.of m).nonVirtual with
  | error o => simp [hcheck] at hout
  | ok u =>
    simp only [hcheck] at hout
    exact isTrampoline_of_outcome (.slot hmain hm (by simpa using hrole) hcheck) hout

/-! ## What settles a key -/

/-- Why a key is settled: it is hidden or blocked, or an override was tried under it. -/
def Accounts (ctx : Context) (main : Bool) (c : Class) (w : Walk Trampoline)
    (key : String × Option UInt32) : Prop :=
  Hides main c key ∨ ctx.config.blocks key.1 c.name = true ∨
    ∃ v member, ctx.Overrides main c v ∧ v.key = key ∧
      ctx.trampolineOutcome c member v ∈ w.outcomes

/-- Every settled key is accounted for. -/
def Accounted (ctx : Context) (main : Bool) (c : Class) (w : Walk Trampoline) : Prop :=
  ∀ key, w.isSettled key = true → ctx.Accounts main c w key

lemma Accounts.mono {w w' : Walk Trampoline} {key : String × Option UInt32} (hle : w.Le w')
    (h : ctx.Accounts main c w key) : ctx.Accounts main c w' key := by
  rcases h with h | h | ⟨v, member, hv, hkey, ho⟩
  · exact .inl h
  · exact .inr (.inl h)
  · exact .inr (.inr ⟨v, member, hv, hkey, hle.outcomes _ ho⟩)

/-- A step that settles a key accounts for it at the same time. -/
lemma OverrideStep.accounted {w' : Walk Trampoline} (hstep : ctx.OverrideStep main c w w')
    (h : ctx.Accounted main c w) : ctx.Accounted main c w' := by
  have hle : w.Le w' := hstep.le
  intro key hkey
  cases hstep with
  | pass => exact h key hkey
  | skip v o => exact (h key hkey).mono hle
  | signal hm hrole hvoid hcheck => exact (h key hkey).mono hle
  | settle hreason =>
    rcases (Walk.isSettled_settle ..).1 hkey with rfl | hkey
    · rcases hreason with hhides | hblocked
      · exact .inl hhides
      · exact .inr (.inl hblocked)
    · exact (h key hkey).mono hle
  | override hv hfresh =>
    rcases (Walk.isSettled_settle ..).1 hkey with rfl | hkey
    · exact .inr (.inr ⟨_, _, hv, rfl, mem_addTrampoline c _ _ _⟩)
    · exact (h key hkey).mono hle

lemma accounted_overridingWalk : ctx.Accounted main c (ctx.overridingWalk main c) :=
  overridingWalk_induction (fun _ hkey => by simp [Walk.start, Walk.isSettled] at hkey)
    fun _ _ hstep h => hstep.accounted h

/-! ## What the walk reaches -/

theorem mem_overridingMembers_of_signal (hm : m ∈ c.methods) (hrole : m.role = .signal)
    (hvoid : m.returnsVoid = true) (hcheck : ctx.checkMethod c (View.of m) = .ok ()) :
    ctx.trampolineOutcome c (View.of m).slotName (View.of m) ∈ ctx.overridingMembers main c := by
  refine walk_own (P := fun w : Walk Trampoline =>
    ctx.trampolineOutcome c (View.of m).slotName (View.of m) ∈ w.outcomes) hm ?_ ?_ ?_ _
  · intro w
    have hhooked : isHooked m = true :=
      isHooked_eq_true_iff.2 ⟨.inl hrole, hvoid, by rw [hrole]; rfl⟩
    have hstep : ctx.overrideOwn main c w m =
        ctx.addTrampoline c (View.of m).slotName (View.of m) w := by
      simp [overrideOwn, hhooked, hcheck, hrole]
    rw [hstep]
    exact mem_addTrampoline c _ _ w
  · exact fun m hm w hw => (overrideStep_own hm w).le.outcomes _ hw
  · exact fun base hbase m hm w hw => (overrideStep_inherited main hbase hm w).le.outcomes _ hw

lemma isSettled_override (member : String) (v : View) (w : Walk Trampoline) :
    (if w.isSettled v.key then w else
      ctx.addTrampoline c member v (w.settle v.key)).isSettled v.key = true := by
  split
  next hsettled => exact hsettled
  next =>
    have hkey : (w.settle v.key).isSettled v.key = true := (Walk.isSettled_settle ..).2 (.inl rfl)
    exact (le_addTrampoline c member v _).isSettled _ hkey

theorem isSettled_of_overrides (hv : ctx.Overrides main c v) :
    (ctx.overridingWalk main c).isSettled v.key = true := by
  have stepOwn : ∀ m ∈ c.methods, ∀ w : Walk Trampoline, w.isSettled v.key = true →
      (ctx.overrideOwn main c w m).isSettled v.key = true :=
    fun m hm w hw => (overrideStep_own hm w).le.isSettled _ hw
  have stepInherited : ∀ base ∈ ctx.supportedBases c, ∀ m ∈ base.methods,
      ∀ w : Walk Trampoline, w.isSettled v.key = true →
      (ctx.overrideInherited c base w m).isSettled v.key = true :=
    fun base hbase m hm w hw => (overrideStep_inherited main hbase hm w).le.isSettled _ hw
  cases hv with
  | @own m hm hrole hslot hhooked hcheck hfree =>
    -- its own step settles the key, and no later one takes that back
    refine walk_own hm (fun w => ?_) stepOwn stepInherited _
    have hrole' : (m.role == .signal) = false := by simpa using hrole
    have hstep : ctx.overrideOwn main c w m = if w.isSettled (View.of m).key then w
        else ctx.addTrampoline c m.name (View.of m) (w.settle (View.of m).key) := by
      simp [overrideOwn, hhooked, hslot, hcheck, hrole', hfree]
    rw [hstep]
    exact isSettled_override m.name (View.of m) w
  | @inherited base m hbase hm hinherit hcheck hfree =>
    refine walk_inherited hbase hm (fun w => ?_) stepInherited _
    have hok : (ctx.checkMethod base ((View.of m).retarget c.name)).isOk = true :=
      isOk_iff_eq_ok.2 hcheck
    have hstep : ctx.overrideInherited c base w m =
        if w.isSettled ((View.of m).retarget c.name).key then w
        else ctx.addTrampoline c m.name ((View.of m).retarget c.name)
          (w.settle ((View.of m).retarget c.name).key) := by
      simp [overrideInherited, hinherit, hok, hfree]
    rw [hstep]
    exact isSettled_override m.name ((View.of m).retarget c.name) w

/-- Under the key of an override, a trampoline was tried for it or for another override, unless
the class hides it. -/
theorem overrides_accounted (hv : ctx.Overrides main c v) :
    Hides main c v.key ∨ ∃ v' member, ctx.Overrides main c v' ∧ v'.key = v.key ∧
      ctx.trampolineOutcome c member v' ∈ ctx.overridingMembers main c := by
  have hfree : ctx.config.blocks v.key.1 c.name = false := by
    cases hv with
    | own hm hrole hslot hhooked hcheck hfree => exact hfree
    | inherited hbase hm hinherit hcheck hfree => exact hfree
  rcases accounted_overridingWalk v.key (isSettled_of_overrides hv) with h | h | h
  · exact .inl h
  · rw [hfree] at h
    cases h
  · exact .inr h

theorem mem_slotMembers (hm : m ∈ c.methods) (hrole : m.role = .slot)
    (hcheck : ctx.checkMethod c (View.of m).nonVirtual = .ok ()) :
    ctx.trampolineOutcome c m.name (View.of m).nonVirtual ∈ ctx.slotMembers c := by
  refine List.mem_map.2 ⟨m, List.mem_filter.2 ⟨hm, by simp [hrole]⟩, ?_⟩
  simp only [hcheck]

/-! ## The trampolines of one class -/

lemma exists_firstBase (hsupports : ctx.supports c = true) (hmain : ctx.isMain c = true) :
    ∃ base, c.firstBase? = some base := by
  have hbases : c.bases ≠ [] := by
    intro hempty
    have hcheck := checkClass_eq_ok_iff.2 hsupports
    unfold checkClass at hcheck
    simp only [hempty, hmain, List.any_nil, List.isEmpty_nil, Bool.and_self, if_true,
      Bool.false_eq_true, if_false] at hcheck
    split at hcheck
    · cases hcheck
    split at hcheck <;> cases hcheck
  obtain ⟨base, rest, hcons⟩ := List.exists_cons_of_ne_nil hbases
  exact ⟨base, by rw [Class.firstBase?, hcons]; rfl⟩

lemma subclass_eq_some_iff {s : Subclass} : (ctx.classImplementation main c).subclass = some s ↔
    ctx.generatesSubclass c = true ∧ ctx.subclass? main c = some s := by
  simp [classImplementation]

lemma exists_subclass (hmain : main = ctx.isMain c) (hgenerates : ctx.generatesSubclass c = true) :
    ∃ s, (ctx.classImplementation main c).subclass = some s ∧ s.name = ctx.subclassName c ∧
      s.members = ctx.overridingMembers main c ∧
      s.sections = if main then some ⟨signalDeclarations c, ctx.slotMembers c⟩ else none := by
  obtain ⟨base, hbase⟩ : ∃ base, subclassBase? main c = some base := by
    unfold subclassBase?
    cases hm : main with
    | true =>
      exact exists_firstBase (supports_of_generatesSubclass hgenerates) (hmain.symm.trans hm)
    | false => exact ⟨c.name, rfl⟩
  have hsubclass : (ctx.classImplementation main c).subclass = ctx.subclass? main c := by
    simp [classImplementation, hgenerates]
  rw [hsubclass, subclass?, hbase]
  exact ⟨_, rfl, rfl, rfl, rfl⟩

theorem trampolines_eq (hmain : main = ctx.isMain c) (hgenerates : ctx.generatesSubclass c = true) :
    (ctx.classImplementation main c).trampolines =
      writtenItems (ctx.overridingMembers main c) ++
        if main then writtenItems (ctx.slotMembers c) else [] := by
  obtain ⟨s, hs, -, hmembers, hsections⟩ := exists_subclass hmain hgenerates
  rw [ClassImplementation.trampolines, hs, Option.elim_some, Subclass.trampolines, hmembers,
    hsections]
  cases main <;> rfl

lemma trampolines_eq_nil (hgenerates : ctx.generatesSubclass c = false) :
    (ctx.classImplementation main c).trampolines = [] := by
  simp [ClassImplementation.trampolines, classImplementation, hgenerates]

/-- Every trampoline of a class is that of a forwarded view. -/
theorem isTrampoline_of_mem {t : Trampoline} (hmain : main = ctx.isMain c)
    (ht : t ∈ (ctx.classImplementation main c).trampolines) :
    ctx.generatesSubclass c = true ∧ ctx.IsTrampoline main c t := by
  cases hgenerates : ctx.generatesSubclass c with
  | false =>
    rw [trampolines_eq_nil hgenerates] at ht
    cases ht
  | true =>
    refine ⟨rfl, ?_⟩
    rw [trampolines_eq hmain hgenerates] at ht
    rcases List.mem_append.1 ht with ht | ht
    · exact isTrampoline_of_mem_overridingMembers ht
    · split at ht
      next htrue => exact isTrampoline_of_mem_slotMembers htrue ht
      next => cases ht

end Context

end Bindery
