import Mathlib.Logic.Relation
import Mathlib.Tactic.Lemma
import Bindery.Proofs.Contract

/-!
# The callbacks that are listed

The contract of a class lists callbacks for the views of `Context.ListsCallback`, unless their key
is settled before.  `Context.Announces` is the invariant of the walk: every callback listed is that
of such a view, and no wrapper of an overridable method is listed without its callback.  Between the
two entries of one method the invariant is broken for a moment; the view that still waits for its
callback is then pending.

What holds of every entry by itself needs no such care.  `Context.ListStep` is what the walk does at
a time; a property of entries is shown for what such a step writes, and `classContract_induction`
carries it over the class.
-/

namespace Bindery

/-- The callbacks that a contract lists. -/
def listedCallbacks (entries : List ContractEntry) : List String :=
  ((entries.filter (·.role == .callback)).filterMap ContractEntry.signature).map
    ManagedSignature.name

lemma mem_listedCallbacks {entries : List ContractEntry} {name : String} :
    name ∈ listedCallbacks entries ↔
      ∃ e ∈ entries, e.role = .callback ∧ ∃ s, e.signature = some s ∧ s.name = name := by
  simp only [listedCallbacks, List.mem_map, List.mem_filterMap, List.mem_filter, beq_iff_eq]
  constructor
  · rintro ⟨s, ⟨e, ⟨he, hrole⟩, hs⟩, hname⟩
    exact ⟨e, he, hrole, s, hs, hname⟩
  · rintro ⟨e, he, hrole, s, hs, hname⟩
    exact ⟨s, ⟨e, ⟨he, hrole⟩, hs⟩, hname⟩

namespace Context

variable {ctx : Context} {v v' : View}

/-! ## Callback signatures -/

lemma callbackSignature_isOk_iff :
    (∃ s, ctx.callbackSignature v = .ok s) ↔ (∃ name, v.callbackName = .ok name) ∧
      (∀ p ∈ ctx.hookParameters v, ∃ k, ctx.resolve? v p.1.type = some k) ∧
      ∃ k, ctx.resolve? v v.outputToken = some k := by
  have hname : (v.toward .callback).callbackName = v.callbackName := rfl
  have hinput : (∃ ps, ctx.managedInput (v.toward .callback) = .ok ps) ↔
      ∀ p ∈ ctx.hookParameters v, ∃ k, ctx.resolve? v p.1.type = some k := by
    have hmap : (∃ ps, (ctx.hookParameters v).mapM (ctx.callbackParameter (v.toward .callback)) =
        .ok ps) ↔ ∀ p ∈ ctx.hookParameters v, ∃ k, ctx.resolve? v p.1.type = some k := by
      simp only [mapM_isOk_iff, callbackParameter_isOk_iff]
      rfl
    have hparameters : ctx.hookParameters (v.toward .callback) = ctx.hookParameters v := rfl
    rw [← hmap, ← hparameters]
    simp [managedInput, View.toward, map_eq_ok]
  have houtput : (∃ o, ctx.managedOutput (v.toward .callback) = .ok o) ↔
      ∃ k, ctx.resolve? v v.outputToken = some k := by
    rw [managedOutput_isOk_iff]
    exact forall_prop_of_true rfl
  rw [← hinput, ← houtput, ← hname]
  exact bind₃_isOk_iff

lemma callbackSignature_congr (hmethod : v.method = v'.method) (howner : v.owner = v'.owner)
    (hinstantiation : v.instantiation = v'.instantiation) :
    ctx.callbackSignature v = ctx.callbackSignature v' := by
  have hresolve : ctx.resolve? (v.toward .callback) = ctx.resolve? (v'.toward .callback) :=
    resolve?_congr hmethod hinstantiation
  have hname : (v.toward .callback).callbackName = (v'.toward .callback).callbackName := by
    unfold View.callbackName View.rawCallbackName View.name View.toward
    rw [hmethod, howner]
  have hparameters : ctx.hookParameters (v.toward .callback) =
      ctx.hookParameters (v'.toward .callback) := by
    unfold hookParameters View.parameters View.toward
    rw [hmethod]
  have hinput : ctx.managedInput (v.toward .callback) = ctx.managedInput (v'.toward .callback) := by
    unfold managedInput callbackParameter
    rw [hparameters, hresolve]
    rfl
  have htoken : (v.toward .callback).outputToken = (v'.toward .callback).outputToken :=
    View.outputToken_congr hmethod
  have howner' : (v.toward .callback).owner = (v'.toward .callback).owner := howner
  have hdirection : (v.toward .callback).direction = (v'.toward .callback).direction := rfl
  have houtput : ctx.managedOutput (v.toward .callback) =
      ctx.managedOutput (v'.toward .callback) := by
    unfold managedOutput outputSurface
    rw [hresolve, htoken, howner', hdirection]
  unfold callbackSignature
  simp only [hname, hinput, houtput]

/-- A callback signature in parts.  It is that of a function. -/
lemma callbackSignature_eq_ok_iff {s : ManagedSignature} :
    ctx.callbackSignature v = .ok s ↔ v.callbackName = .ok s.name ∧
      ctx.managedInput (v.toward .callback) = .ok s.parameters ∧
      ctx.managedOutput (v.toward .callback) = .ok s.output ∧ s.receiver = none := by
  have hname : (v.toward .callback).callbackName = v.callbackName := rfl
  simp only [callbackSignature, hname, bind_eq_ok, pure_eq_ok]
  constructor
  · rintro ⟨name, hname, parameters, hparameters, output, houtput, rfl⟩
    exact ⟨hname, hparameters, houtput, rfl⟩
  · rintro ⟨hname, hparameters, houtput, hreceiver⟩
    exact ⟨_, hname, _, hparameters, _, houtput, by rw [← hreceiver]⟩

lemma callbackName_of_callbackSignature {s : ManagedSignature}
    (h : ctx.callbackSignature v = .ok s) : v.callbackName = .ok s.name :=
  (callbackSignature_eq_ok_iff.1 h).1

end Context

/-! ## The views whose callbacks are listed -/

/-- The views whose callbacks the contract of `c` lists, unless their key is settled before. -/
inductive Context.ListsCallback (ctx : Context) (main : Bool) (c : Class) : View → Prop
  | signal {m : Method} (hm : m ∈ c.methods) (hrole : m.role = .signal)
      (hvoid : m.returnsVoid = true) (hcheck : ctx.checkMethod c (View.of m) = .ok ()) :
      ctx.ListsCallback main c (View.of m)
  | override {m : Method} (hm : m ∈ c.methods) (hrole : m.role ≠ .signal)
      (himpure : m.isImpure = true) (hstructor : m.role.isStructor = false)
      (hvoid : m.returnsVoid = true) (hfree : ctx.config.blocks m.name c.name = false)
      (hcheck : ctx.checkMethod c (View.of m).plain = .ok ()) :
      ctx.ListsCallback main c (View.of m).plain
  | inherited {base : Class} {m : Method} (hbase : base ∈ ctx.supportedBases c)
      (hm : m ∈ base.methods) (hinherit : isInheritable m = true)
      (hcheck : ctx.checkMethod base ((View.of m).plain.retarget c.name) = .ok ())
      (hfree : ctx.config.blocks m.name c.name = false) :
      ctx.ListsCallback main c ((View.of m).plain.retarget c.name)
  | slot {m : Method} (hmain : main = true) (hm : m ∈ c.methods) (hrole : m.role = .slot)
      (hcheck : ctx.checkMethod c (View.of m).nonVirtual = .ok ()) :
      ctx.ListsCallback main c (View.of m).nonVirtual

/-- A wrapper of a method that the generated subclass of `c` overrides or has as a slot. -/
def Context.Overridable (ctx : Context) (main : Bool) (c : Class) (v : View) : Prop :=
  ctx.generatesSubclass c = true ∧ v.direction = .plain ∧ v.forwardsDefault = false ∧
    v.instantiation = none ∧
    (v.role = .plain ∧ v.method.isImpure = true ∧ v.method.returnsVoid = true ∧
        ctx.config.blocks v.method.name c.name = false ∨
      main = true ∧ v.role = .slot)

/-- The callback of a view is listed. -/
def Context.IsListed (ctx : Context) (w : Walk ContractEntry) (v : View) : Prop :=
  ∃ e ∈ writtenItems w.outcomes, e.role = .callback ∧
    e.signature = (ctx.callbackSignature v).toOption

/-- The state of a walk that lists callbacks as it should: those of the right views, and for each
wrapper of an overridable method its callback, except perhaps for one that is pending. -/
structure Context.Announces (ctx : Context) (main : Bool) (c : Class) (pending : Option View)
    (w : Walk ContractEntry) : Prop where
  callbacks : w.AllWritten fun e => e.role = .callback → ctx.generatesSubclass c = true ∧
    ctx.ListsCallback main c e.view ∧ e.signature = (ctx.callbackSignature e.view).toOption
  wrappers : ∀ e ∈ writtenItems w.outcomes, e.role = .wrapper → ctx.Overridable main c e.view →
    ctx.IsListed w e.view ∨ pending = some e.view

namespace Context

variable {ctx : Context} {main : Bool} {c subject base : Class} {v v' : View} {m : Method}
  {pending : Option View} {w : Walk ContractEntry}

/-! ## One step of the walk -/

lemma symbolClaim_eq_ok {taken : List String} {symbol : String}
    (h : ctx.symbolClaim taken c v = .ok symbol) : ctx.checkMethod c v = .ok () := by
  simp only [symbolClaim, bind_eq_ok, exists_unit_iff] at h
  exact h.1

lemma le_listWrapper (c : Class) (v : View) (w : Walk ContractEntry) :
    w.Le (ctx.listWrapper c v w).1 := by
  unfold listWrapper
  cases ctx.symbolClaim w.symbols c v with
  | error o => exact Walk.le_skip w v o
  | ok symbol => exact Walk.le_claim w symbol _

lemma le_listHooks (v : View) (w : Walk ContractEntry) : w.Le (ctx.listHooks v w) :=
  (Walk.le_write w _).trans (Walk.le_write _ _)

lemma le_listCallback (v : View) (w : Walk ContractEntry) : w.Le (ctx.listCallback v w) :=
  Walk.le_write w _

lemma IsListed.mono {w w' : Walk ContractEntry} (hle : w.Le w') (h : ctx.IsListed w v) :
    ctx.IsListed w' v := by
  obtain ⟨e, he, hrest⟩ := h
  exact ⟨e, hle.written he, hrest⟩

lemma isListed_listCallback (v : View) (w : Walk ContractEntry) :
    ctx.IsListed (ctx.listCallback v w) v :=
  ⟨_, mem_writtenItems.2 (List.mem_append_right _ (List.mem_singleton_self _)), rfl, rfl⟩

namespace Announces

lemma start : ctx.Announces main c none Walk.start :=
  ⟨Walk.allWritten_start, fun _ he => by simp [Walk.start] at he⟩

lemma pend (h : ctx.Announces main c none w) (v : View) : ctx.Announces main c (some v) w where
  callbacks := h.callbacks
  wrappers e he hrole hv := .inl ((h.wrappers e he hrole hv).resolve_right nofun)

lemma settle (h : ctx.Announces main c pending w) (key : String × Option UInt32) :
    ctx.Announces main c pending (w.settle key) :=
  ⟨h.callbacks, h.wrappers⟩

lemma skip (h : ctx.Announces main c pending w) (v : View) (o : Obstacle) :
    ctx.Announces main c pending (w.skip v o) where
  callbacks := by simpa using h.callbacks
  wrappers e he hrole hv := by
    have he' : e ∈ writtenItems w.outcomes := by simpa using he
    exact (h.wrappers e he' hrole hv).imp_left (·.mono (Walk.le_skip w v o))

lemma write (h : ctx.Announces main c pending w) {e : ContractEntry}
    (hcallback : e.role ≠ .callback)
    (hwrapper : e.role = .wrapper → ctx.Overridable main c e.view → pending = some e.view) :
    ctx.Announces main c pending (w.write e) where
  callbacks := Walk.allWritten_write.2 ⟨h.callbacks, fun hrole => absurd hrole hcallback⟩
  wrappers e' he hrole hv := by
    rcases List.mem_append.1 (mem_writtenItems.1 he) with he | he
    · have hle := Walk.le_write w e
      exact (h.wrappers e' (mem_writtenItems.2 he) hrole hv).imp_left (·.mono hle)
    · obtain rfl : e' = e := by simpa using he
      exact .inr (hwrapper hrole hv)

lemma listHooks (h : ctx.Announces main c pending w) (v : View) :
    ctx.Announces main c pending (ctx.listHooks v w) :=
  (h.write (by simp) (by simp)).write (by simp) (by simp)

lemma listWrapper (h : ctx.Announces main c pending w) (subject : Class) (v : View)
    (hv : ctx.Overridable main c v → ctx.checkMethod subject v = .ok () → pending = some v) :
    ctx.Announces main c pending (ctx.listWrapper subject v w).1 := by
  unfold Context.listWrapper
  cases hclaim : ctx.symbolClaim w.symbols subject v with
  | error o => exact h.skip v o
  | ok symbol =>
    have hwrite := h.write (e := ⟨.wrapper, v, (ctx.managedSignature v).toOption⟩) (by simp)
      fun _ hoverridable => hv hoverridable (symbolClaim_eq_ok hclaim)
    exact ⟨hwrite.callbacks, hwrite.wrappers⟩

lemma listWrapper_false (h : ctx.Announces main c pending w) {w' : Walk ContractEntry}
    (hw : ctx.listWrapper subject v w = (w', false)) : ctx.Announces main c pending w' := by
  unfold Context.listWrapper at hw
  cases hclaim : ctx.symbolClaim w.symbols subject v with
  | error o =>
    simp only [hclaim, Prod.mk.injEq, and_true] at hw
    exact hw ▸ h.skip v o
  | ok symbol => simp [hclaim] at hw

lemma listCallback (h : ctx.Announces main c (some v) w)
    (hgenerates : ctx.generatesSubclass c = true) (hv : ctx.ListsCallback main c v')
    (hsame : ctx.callbackSignature v' = ctx.callbackSignature v) :
    ctx.Announces main c none (ctx.listCallback v' w) where
  callbacks := Walk.allWritten_write.2 ⟨h.callbacks, fun _ => ⟨hgenerates, hv, rfl⟩⟩
  wrappers e he hrole hoverridable := by
    rcases List.mem_append.1 (mem_writtenItems.1 he) with he | he
    · rcases h.wrappers e (mem_writtenItems.2 he) hrole hoverridable with hlisted | hpending
      · exact .inl (hlisted.mono (le_listCallback v' w))
      · have hlisted : ctx.IsListed (ctx.listCallback v' w) v' := isListed_listCallback v' w
        obtain rfl := Option.some.inj hpending
        obtain ⟨e', he', hrole', hsignature⟩ := hlisted
        exact .inl ⟨e', he', hrole', hsame ▸ hsignature⟩
    · obtain rfl : e = ⟨.callback, v', (ctx.callbackSignature v').toOption⟩ := by simpa using he
      cases hrole

lemma listPair (h : ctx.Announces main c none w) (m : Method) :
    ctx.Announces main c none (ctx.listPair c w m) := by
  have hconnected := h.listWrapper c ((View.of m).toward .connect) nofun
  have hboth := hconnected.listWrapper c ((View.of m).toward .disconnect) nofun
  unfold Context.listPair
  simp only
  split
  · exact hboth.settle _
  · exact hboth

lemma listSignal (hm : m ∈ c.methods) (hrole : m.role = .signal)
    (h : ctx.Announces main c none w) : ctx.Announces main c none (ctx.listSignal c w m) := by
  have hpair := h.listPair m
  have hstructor : m.role.isStructor = false := by rw [hrole]; rfl
  rw [listSignal_eq]
  generalize ctx.listPair c w m = w at hpair ⊢
  cases hlists : ctx.listsSignal c m with
  | true =>
    simp only [listsSignal, Bool.and_eq_true, isOk_iff_eq_ok] at hlists
    obtain ⟨⟨hgenerates, hvoid⟩, hcheck⟩ := hlists
    have hpending := hpair.pend (View.of m).plain
    have hlisted : ctx.Announces main c (some (View.of m).plain)
        (if ctx.isPrivateSignal m then w else (ctx.listWrapper c (View.of m).plain w).1) := by
      split
      · exact hpending
      · exact hpending.listWrapper _ _ fun _ _ => rfl
    exact hlisted.listCallback hgenerates (.signal hm hrole hvoid hcheck)
      (callbackSignature_congr rfl rfl rfl)
  | false =>
    simp only [Bool.false_eq_true, if_false]
    split
    · exact hpair
    · refine hpair.listWrapper _ _ fun hoverridable hcheck => ?_
      obtain ⟨hgenerates, -, -, -, ⟨-, -, hvoid, -⟩ | ⟨-, hslot⟩⟩ := hoverridable
      · have hcheck' : ctx.checkMethod c (View.of m) = .ok () :=
          checkMethod_of_plain hstructor hcheck
        have hvoid : m.returnsVoid = true := hvoid
        rw [listsSignal, hgenerates, hvoid, isOk_iff_eq_ok.2 hcheck'] at hlists
        cases hlists
      · cases hslot

/-- The wrapper of a default is listed after that of its method, and is not overridable. -/
lemma listDefault (h : ctx.Announces main c pending (ctx.listWrapper subject v w).1)
    (hasDefault : Bool) :
    ctx.Announces main c pending (ctx.listDefault subject v hasDefault w) := by
  unfold Context.listDefault
  generalize ctx.listWrapper subject v w = listed at h ⊢
  obtain ⟨w', done⟩ := listed
  cases done with
  | false => exact h
  | true =>
    have hsettled := h.settle v.key
    cases hasDefault with
    | false => exact hsettled
    | true => exact hsettled.listWrapper subject v.forwardDefault nofun

lemma listVirtual (hm : m ∈ c.methods) (hrole : m.role ≠ .signal) (himpure : m.isImpure = true)
    (hstructor : m.role.isStructor = false) (h : ctx.Announces main c none w) :
    ctx.Announces main c none (ctx.listVirtual main c w m) := by
  rw [listVirtual_eq]
  split
  · exact h
  cases hlists : ctx.listsOverride c m with
  | true =>
    simp only [listsOverride, Bool.and_eq_true, Bool.not_eq_true', isOk_iff_eq_ok] at hlists
    obtain ⟨⟨⟨hgenerates, hvoid⟩, hfree⟩, hcheck⟩ := hlists
    have hpending := (h.listHooks (View.of m).plain).pend (View.of m).plain
    have hlisted := hpending.listWrapper c (View.of m).plain fun _ _ => rfl
    exact (hlisted.listDefault _).listCallback hgenerates
      (.override hm hrole himpure hstructor hvoid hfree hcheck) rfl
  | false =>
    have hlisted := h.listWrapper c (View.of m).plain fun hoverridable hcheck => by
      obtain ⟨hgenerates, -, -, -, ⟨-, -, hvoid, hfree⟩ | ⟨-, hslot⟩⟩ := hoverridable
      · have hvoid : m.returnsVoid = true := hvoid
        have hfree : ctx.config.blocks m.name c.name = false := hfree
        rw [listsOverride, hgenerates, hvoid, hfree, isOk_iff_eq_ok.2 hcheck] at hlists
        cases hlists
      · cases hslot
    exact hlisted.listDefault _

lemma listMember (hm : m ∈ c.methods) (hdirect : (m.isImpure && !m.role.isStructor) = false)
    (h : ctx.Announces main c none w) : ctx.Announces main c none (ctx.listMember main c w m) := by
  unfold Context.listMember
  simp only
  split
  · exact h
  cases hlists : main && ctx.generatesSubclass c && m.role == .slot &&
    (ctx.checkMethod c (View.of m).nonVirtual).isOk with
  | true =>
    simp only [Bool.and_eq_true, beq_iff_eq, isOk_iff_eq_ok] at hlists
    obtain ⟨⟨⟨hmain, hgenerates⟩, hrole⟩, hcheck⟩ := hlists
    have hpending := (h.pend (View.of m)).listWrapper c _ fun _ _ => rfl
    simp only [if_true]
    split
    next w' hw => exact h.listWrapper_false hw
    next w' hw =>
      rw [hw] at hpending
      exact (hpending.settle _).listCallback hgenerates (.slot hmain hm hrole hcheck)
        (callbackSignature_congr rfl rfl rfl)
  | false =>
    simp only [Bool.false_eq_true, if_false]
    have hlisted := h.listWrapper c (View.of m)
      fun hoverridable hcheck => by
        obtain ⟨hgenerates, -, -, -, ⟨hplain, himpure, -, -⟩ | ⟨hmain, hslot⟩⟩ := hoverridable
        · have hplain : m.role = .plain := hplain
          have himpure : m.isImpure = true := himpure
          rw [hplain, himpure] at hdirect
          cases hdirect
        · have hslot : m.role = .slot := hslot
          rw [hmain, hgenerates, hslot, checkMethod_nonVirtual, isOk_iff_eq_ok.2 hcheck] at hlists
          cases hlists
    split
    next w' hw =>
      rw [hw] at hlisted
      exact hlisted
    next w' hw =>
      rw [hw] at hlisted
      exact hlisted.settle _

lemma listOwn (hm : m ∈ c.methods) (h : ctx.Announces main c none w) :
    ctx.Announces main c none (ctx.listOwn main c w m) := by
  unfold Context.listOwn
  split
  next hs => exact h.listSignal hm (by simpa using hs)
  next hs =>
  have hrole : m.role ≠ .signal := by simpa using hs
  cases hvirtual : m.isImpure && !m.role.isStructor with
  | true =>
    simp only [Bool.and_eq_true, Bool.not_eq_true'] at hvirtual
    exact h.listVirtual hm hrole hvirtual.1 hvirtual.2
  | false =>
    simp only [Bool.false_eq_true, if_false]
    split
    · refine List.foldlRecOn _ _ h fun w hw i _ => ?_
      exact hw.listWrapper _ _ nofun
    · exact h.listMember hm hvirtual

lemma listInherited (hbase : base ∈ ctx.supportedBases c) (hm : m ∈ base.methods)
    (h : ctx.Announces main c none w) :
    ctx.Announces main c none (ctx.listInherited c base w m) := by
  unfold Context.listInherited
  simp only
  split
  · exact h
  next hguard =>
  simp only [Bool.or_eq_true, Bool.not_eq_true', not_or, Bool.not_eq_false, isOk_iff_eq_ok]
    at hguard
  obtain ⟨⟨hinherit, -⟩, hcheck⟩ := hguard
  split
  · exact h.settle _
  next hfree =>
  have hfree : ctx.config.blocks m.name c.name = false := by simpa using hfree
  have hsettled := h.settle ((View.of m).plain.retarget c.name).key
  cases hgenerates : ctx.generatesSubclass c with
  | true =>
    simp only [if_true]
    refine Announces.listCallback (v := (View.of m).plain.retarget c.name) ?_ hgenerates
      (.inherited hbase hm hinherit hcheck hfree) rfl
    have hlisted := ((hsettled.listHooks ((View.of m).plain.retarget c.name)).pend
      ((View.of m).plain.retarget c.name)).listWrapper base _ fun _ _ => rfl
    exact hlisted.listWrapper _ _ nofun
  | false =>
    simp only [Bool.false_eq_true, if_false]
    have hnone : ∀ v, ¬ctx.Overridable main c v := fun v hv => by
      have hgenerated := hv.1
      rw [hgenerates] at hgenerated
      cases hgenerated
    have hlisted := hsettled.listWrapper base ((View.of m).plain.retarget c.name)
      fun hv _ => absurd hv (hnone _)
    exact hlisted.listWrapper _ _ fun hv _ => absurd hv (hnone _)

end Announces

theorem announces_contractWalk (main : Bool) (c : Class) :
    ctx.Announces main c none (ctx.contractWalk main c) :=
  walk_induction Announces.start (fun _ hm _ h => h.listOwn hm)
    fun _ hbase _ hm _ h => h.listInherited hbase hm

/-! ## What the walk does at a time -/

/-- What the walk over the contract of `c` can do at a time, from the state `w`. -/
inductive ListStep (ctx : Context) (main : Bool) (c : Class) (w : Walk ContractEntry) :
    Walk ContractEntry → Prop
  | settle (key : String × Option UInt32) : ListStep ctx main c w (w.settle key)
  | wrapper (subject : Class) (v : View) : ListStep ctx main c w (ctx.listWrapper subject v w).1
  /-- It lists the pair that connects and disconnects handlers of an overridden method. -/
  | pair {v : View} (hgenerates : ctx.generatesSubclass c = true)
      (hv : ctx.ListsCallback main c v) (hrole : v.role = .plain) :
      ListStep ctx main c w (ctx.listHooks v w)
  | callback (v : View) : ListStep ctx main c w (ctx.listCallback v w)

/-- The walk gets from one state to another. -/
def ListSteps (ctx : Context) (main : Bool) (c : Class) :
    Walk ContractEntry → Walk ContractEntry → Prop :=
  Relation.ReflTransGen (ctx.ListStep main c)

variable {w' : Walk ContractEntry}

lemma ListStep.le (h : ctx.ListStep main c w w') : w.Le w' := by
  cases h with
  | settle key => exact Walk.le_settle w key
  | wrapper subject v => exact le_listWrapper subject v w
  | pair hgenerates hv hrole => exact le_listHooks _ w
  | callback v => exact le_listCallback v w

namespace ListSteps

lemma le (h : ctx.ListSteps main c w w') : w.Le w' := by
  induction h with
  | refl => exact .refl w
  | tail _ hstep ih => exact ih.trans hstep.le

lemma settle (h : ctx.ListSteps main c w w') (key : String × Option UInt32) :
    ctx.ListSteps main c w (w'.settle key) :=
  Relation.ReflTransGen.tail h (.settle key)

lemma listWrapper (h : ctx.ListSteps main c w w') (subject : Class) (v : View) :
    ctx.ListSteps main c w (ctx.listWrapper subject v w').1 :=
  Relation.ReflTransGen.tail h (.wrapper subject v)

lemma listHooks (h : ctx.ListSteps main c w w') (hgenerates : ctx.generatesSubclass c = true)
    (hv : ctx.ListsCallback main c v) (hrole : v.role = .plain) :
    ctx.ListSteps main c w (ctx.listHooks v w') :=
  Relation.ReflTransGen.tail h (.pair hgenerates hv hrole)

lemma listCallback (h : ctx.ListSteps main c w w') (v : View) :
    ctx.ListSteps main c w (ctx.listCallback v w') :=
  Relation.ReflTransGen.tail h (.callback v)

lemma listPair (h : ctx.ListSteps main c w w') (m : Method) :
    ctx.ListSteps main c w (ctx.listPair c w' m) := by
  have hboth := (h.listWrapper c ((View.of m).toward .connect)).listWrapper c
    ((View.of m).toward .disconnect)
  unfold Context.listPair
  simp only
  split
  · exact hboth.settle _
  · exact hboth

lemma listSignal (h : ctx.ListSteps main c w w') (m : Method) :
    ctx.ListSteps main c w (ctx.listSignal c w' m) := by
  have hpair := h.listPair m
  have hemitted := hpair.listWrapper c (View.of m).plain
  rw [listSignal_eq]
  simp only
  split <;> split
  · exact hpair.listCallback _
  · exact hemitted.listCallback _
  · exact hpair
  · exact hemitted

lemma listDefault (h : ctx.ListSteps main c w w') (subject : Class) (v : View)
    (hasDefault : Bool) : ctx.ListSteps main c w (ctx.listDefault subject v hasDefault w') := by
  have hlisted := h.listWrapper subject v
  unfold Context.listDefault
  generalize ctx.listWrapper subject v w' = listed at hlisted ⊢
  obtain ⟨w₁, done⟩ := listed
  cases done with
  | false => exact hlisted
  | true =>
    have hsettled := hlisted.settle v.key
    cases hasDefault with
    | false => exact hsettled
    | true => exact hsettled.listWrapper subject v.forwardDefault

lemma listVirtual (h : ctx.ListSteps main c w w') (hm : m ∈ c.methods) (hrole : m.role ≠ .signal)
    (himpure : m.isImpure = true) (hstructor : m.role.isStructor = false) :
    ctx.ListSteps main c w (ctx.listVirtual main c w' m) := by
  rw [listVirtual_eq]
  split
  · exact h
  cases hlists : ctx.listsOverride c m with
  | true =>
    simp only [listsOverride, Bool.and_eq_true, Bool.not_eq_true', isOk_iff_eq_ok] at hlists
    obtain ⟨⟨⟨hgenerates, hvoid⟩, hfree⟩, hcheck⟩ := hlists
    have hlisted := h.listHooks hgenerates
      (.override hm hrole himpure hstructor hvoid hfree hcheck) rfl
    exact (hlisted.listDefault c _ _).listCallback _
  | false => exact h.listDefault c _ _

lemma listMember (h : ctx.ListSteps main c w w') (m : Method) :
    ctx.ListSteps main c w (ctx.listMember main c w' m) := by
  unfold Context.listMember
  simp only
  split
  · exact h
  have hlisted := h.listWrapper c (View.of m)
  generalize ctx.listWrapper c (View.of m) w' = listed at hlisted ⊢
  obtain ⟨w₁, done⟩ := listed
  cases done with
  | false => exact hlisted
  | true =>
    have hsettled := hlisted.settle (View.of m).key
    simp only
    split
    · exact hsettled.listCallback _
    · exact hsettled

lemma listOwn (h : ctx.ListSteps main c w w') (hm : m ∈ c.methods) :
    ctx.ListSteps main c w (ctx.listOwn main c w' m) := by
  unfold Context.listOwn
  split
  · exact h.listSignal m
  next hs =>
  have hrole : m.role ≠ .signal := by simpa using hs
  split
  next hvirtual =>
    simp only [Bool.and_eq_true, Bool.not_eq_true'] at hvirtual
    exact h.listVirtual hm hrole hvirtual.1 hvirtual.2
  split
  · exact List.foldlRecOn _ _ h fun _ hw i _ => hw.listWrapper c _
  · exact h.listMember m

lemma listInherited (h : ctx.ListSteps main c w w') (hbase : base ∈ ctx.supportedBases c)
    (hm : m ∈ base.methods) : ctx.ListSteps main c w (ctx.listInherited c base w' m) := by
  unfold Context.listInherited
  simp only
  split
  · exact h
  next hguard =>
  simp only [Bool.or_eq_true, Bool.not_eq_true', not_or, Bool.not_eq_false, isOk_iff_eq_ok]
    at hguard
  obtain ⟨⟨hinherit, -⟩, hcheck⟩ := hguard
  have hsettled := h.settle ((View.of m).plain.retarget c.name).key
  split
  · exact hsettled
  next hfree =>
  have hfree : ctx.config.blocks m.name c.name = false := by simpa using hfree
  split
  next hgenerates =>
    have hlisted := hsettled.listHooks hgenerates (.inherited hbase hm hinherit hcheck hfree) rfl
    exact ((hlisted.listWrapper base _).listWrapper base _).listCallback _
  next => exact (hsettled.listWrapper base _).listWrapper base _

end ListSteps

theorem listSteps_contractWalk (main : Bool) (c : Class) :
    ctx.ListSteps main c Walk.start (ctx.contractWalk main c) :=
  walk_induction Relation.ReflTransGen.refl (fun _ hm _ h => h.listOwn hm)
    fun _ hbase _ hm _ h => h.listInherited hbase hm

/-! ## What the walk reaches -/

lemma le_listOwn (main : Bool) (hm : m ∈ c.methods) (w : Walk ContractEntry) :
    w.Le (ctx.listOwn main c w m) := by
  have hsteps : ctx.ListSteps main c w (ctx.listOwn main c w m) :=
    ListSteps.listOwn Relation.ReflTransGen.refl hm
  exact hsteps.le

lemma le_listInherited (main : Bool) (hbase : base ∈ ctx.supportedBases c)
    (hm : m ∈ base.methods) (w : Walk ContractEntry) :
    w.Le (ctx.listInherited c base w m) := by
  have hsteps : ctx.ListSteps main c w (ctx.listInherited c base w m) :=
    ListSteps.listInherited Relation.ReflTransGen.refl hbase hm
  exact hsteps.le

theorem isListed_of_signal (hgenerates : ctx.generatesSubclass c = true) (hm : m ∈ c.methods)
    (hrole : m.role = .signal) (hvoid : m.returnsVoid = true)
    (hcheck : ctx.checkMethod c (View.of m) = .ok ()) :
    ctx.IsListed (ctx.contractWalk main c) (View.of m) := by
  refine walk_own (P := fun w => ctx.IsListed w (View.of m)) hm ?_ ?_ ?_ _
  · intro w
    have hlists : ctx.listsSignal c m = true := by
      rw [listsSignal, hgenerates, hvoid, isOk_iff_eq_ok.2 hcheck]
      rfl
    have hstep : ctx.listOwn main c w m = ctx.listSignal c w m := by
      simp [listOwn, hrole]
    rw [hstep, listSignal_eq, hlists]
    exact isListed_listCallback _ _
  · exact fun m hm w hw => hw.mono (le_listOwn main hm w)
  · exact fun base hbase m hm w hw => hw.mono (le_listInherited main hbase hm w)

/-! ## What the contract lists -/

lemma listsCallback_of_mem {e : ContractEntry} (he : e ∈ ctx.classContract main c)
    (hrole : e.role = .callback) :
    ctx.generatesSubclass c = true ∧ ctx.ListsCallback main c e.view ∧
      e.signature = (ctx.callbackSignature e.view).toOption := by
  unfold classContract at he
  split at he
  next =>
    have hannounces : ctx.Announces main c none (ctx.contractWalk main c) :=
      announces_contractWalk main c
    exact hannounces.callbacks e he hrole
  next => cases he

/-- What holds of the entries of wrappers, of pairs and of callbacks holds of all entries of a
class. -/
theorem classContract_induction {P : ContractEntry → Prop}
    (wrapper : ∀ v, P ⟨.wrapper, v, (ctx.managedSignature v).toOption⟩)
    (pair : ∀ v d, ctx.generatesSubclass c = true → ctx.ListsCallback main c v → v.role = .plain →
      d.isHook = true → P ⟨.hook, v.toward d, (ctx.managedSignature (v.toward d)).toOption⟩)
    (callback : ∀ v, P ⟨.callback, v, (ctx.callbackSignature v).toOption⟩) :
    ∀ e ∈ ctx.classContract main c, P e := by
  have step : ∀ {w w'}, ctx.ListStep main c w w' → w.AllWritten P → w'.AllWritten P := by
    intro w w' hstep hw
    cases hstep with
    | settle key => exact Walk.allWritten_settle.2 hw
    | wrapper subject v =>
      unfold listWrapper
      cases ctx.symbolClaim w.symbols subject v with
      | error o => exact Walk.allWritten_skip.2 hw
      | ok symbol => exact Walk.allWritten_claim.2 ⟨hw, wrapper v⟩
    | @pair v hgenerates hv hrole =>
      exact Walk.allWritten_write.2 ⟨Walk.allWritten_write.2
        ⟨hw, pair v .connect hgenerates hv hrole rfl⟩, pair v .disconnect hgenerates hv hrole rfl⟩
    | callback v => exact Walk.allWritten_write.2 ⟨hw, callback v⟩
  have steps : ∀ {w}, ctx.ListSteps main c Walk.start w → w.AllWritten P := by
    intro w h
    induction h with
    | refl => exact Walk.allWritten_start
    | tail _ hstep ih => exact step hstep ih
  intro e he
  cases hsupports : ctx.supports c with
  | true =>
    rw [classContract_eq hsupports] at he
    exact steps (listSteps_contractWalk main c) e he
  | false => simp [classContract, hsupports] at he

/-- An entry that connects or disconnects apart from a wrapper comes from a virtual method that is
overridden, and whose callback the class lists. -/
def IsPair (ctx : Context) (main : Bool) (c : Class) (e : ContractEntry) : Prop :=
  e.role = .hook → ctx.generatesSubclass c = true ∧ ∃ v d, ctx.ListsCallback main c v ∧
    v.role = .plain ∧ d.isHook = true ∧ e.view = v.toward d

/-- A listed entry that connects or disconnects apart from a wrapper is one of a pair. -/
lemma isPair_of_mem {e : ContractEntry} (he : e ∈ ctx.classContract main c) :
    ctx.IsPair main c e :=
  classContract_induction (fun _ => nofun) (fun v d hgenerates hv hrole hd _ =>
    ⟨hgenerates, v, d, hv, hrole, hd, rfl⟩) (fun _ => nofun) e he

/-- Every entry has the signature of its view: that of the callback, if it is for one. -/
lemma signature_of_mem {e : ContractEntry} (he : e ∈ ctx.classContract main c) :
    e.signature = if e.role = .callback then (ctx.callbackSignature e.view).toOption
      else (ctx.managedSignature e.view).toOption :=
  classContract_induction (P := fun e => e.signature = if e.role = .callback then
    (ctx.callbackSignature e.view).toOption else (ctx.managedSignature e.view).toOption)
    (fun _ => rfl) (fun _ _ _ _ _ _ => rfl) (fun _ => rfl) e he

lemma mem_listedCallbacks_of_contract {module name : String} {entries : List ContractEntry}
    {classes : List Class} (hclasses : ctx.emittedClasses module = .ok classes)
    (hentries : ctx.contract module = .ok entries) :
    name ∈ listedCallbacks entries ↔ ∃ c ∈ classes,
      name ∈ listedCallbacks (ctx.classContract (ctx.config.isMain module) c) := by
  obtain ⟨classes', hclasses', rfl⟩ := contract_eq_ok_iff.1 hentries
  obtain rfl : classes = classes' := Except.ok.inj (hclasses.symm.trans hclasses')
  simp only [mem_listedCallbacks, List.mem_flatMap]
  constructor
  · rintro ⟨e, ⟨c, hc, he⟩, hrest⟩
    exact ⟨c, hc, e, he, hrest⟩
  · rintro ⟨c, hc, e, he, hrest⟩
    exact ⟨e, ⟨c, hc, he⟩, hrest⟩

lemma isListed_of_declared (hv : ctx.Overridable main c v)
    (hdeclared : v ∈ (ctx.classHeader main c).views) :
    ctx.IsListed (ctx.contractWalk main c) v := by
  have hsupports := supports_of_generatesSubclass hv.1
  rw [← wrapperViews_classContract, classContract_eq hsupports] at hdeclared
  obtain ⟨e, he, rfl⟩ := List.mem_map.1 hdeclared
  obtain ⟨he, hrole⟩ := List.mem_filter.1 he
  have hannounces : ctx.Announces main c none (ctx.contractWalk main c) :=
    announces_contractWalk main c
  exact (hannounces.wrappers e he (by simpa using hrole) hv).resolve_right nofun

end Context

end Bindery
