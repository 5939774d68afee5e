import Mathlib.Tactic.Lemma
import Bindery.Proofs.Candidates
import Bindery.Proofs.Order
import Bindery.Proofs.Sample

/-!
# The managed contract follows the header

The contract of a module is listed by a walk of its own, which puts hooks and callbacks between the
wrappers.  Neither claims a symbol, so the walk stays in step with that of the header
(`Context.Follows`): the wrappers that it lists are the views that the header declares, in the same
order.

A wrapper is listed before it is known whether it has a managed spelling.  It has one, with a single
exception (`managedSignature_isOk_iff`): a signal of a main-module class whose output means nothing
cannot be given a handler.
-/

namespace Bindery

/-- The views whose wrappers a contract lists, in its order. -/
def wrapperViews (entries : List ContractEntry) : List View :=
  (entries.filter (·.role == .wrapper)).map ContractEntry.view

/-- The views that a class declares. -/
def ClassHeader.views (h : ClassHeader) : List View :=
  h.declared.map Declaration.view

/-- The views that a header declares. -/
def Header.views (h : Header) : List View :=
  h.classes.flatMap ClassHeader.views

namespace Context

variable {ctx : Context} {main : Bool} {c subject base : Class} {v : View} {m : Method}
  {module : String}

/-! ## Managed spellings -/

lemma handlerType_isOk_iff :
    (∃ t, ctx.handlerType v = .ok t) ↔ (∀ p ∈ ctx.hookParameters v, ctx.Carries v p) ∧
      (ctx.isMainName v.owner = true → ∃ k, ctx.resolve? v v.outputToken = some k) := by
  have hparameters := @mapM_isOk_iff _ _ _ (ctx.managedParameter false v) (ctx.hookParameters v)
  simp only [managedParameter_isOk_iff] at hparameters
  have houtput : (∃ o, ctx.handlerOutput v = .ok o) ↔
      (ctx.isMainName v.owner = true → ∃ k, ctx.resolve? v v.outputToken = some k) := by
    unfold handlerOutput
    cases ctx.isMainName v.owner <;> cases ctx.resolve? v v.outputToken <;> simp
  rw [← hparameters, ← houtput]
  simp only [handlerType, bind_eq_ok, pure_eq_ok]
  constructor
  · rintro ⟨-, parameters, hp, output, ho, -⟩
    exact ⟨⟨parameters, hp⟩, ⟨output, ho⟩⟩
  · rintro ⟨⟨parameters, hp⟩, ⟨output, ho⟩⟩
    exact ⟨_, parameters, hp, output, ho, rfl⟩

lemma managedOutput_isOk_iff :
    (∃ o, ctx.managedOutput v = .ok o) ↔
      (v.direction.isHook = false → ∃ k, ctx.resolve? v v.outputToken = some k) := by
  unfold managedOutput
  cases v.direction.isHook with
  | true => simp [pure_eq_ok]
  | false => cases ctx.resolve? v v.outputToken <;> simp [pure_eq_ok]

lemma managedInput_isOk_of_plain (hd : v.direction = .plain) (hrole : v.role ≠ .signal)
    (hcarries : ∀ p ∈ v.parameters, ctx.Carries v p) : ∃ ps, ctx.managedInput v = .ok ps := by
  have hmap : ∃ ps, v.parameters.mapM (ctx.managedParameter true v) = .ok ps := by
    refine mapM_isOk_iff.2 fun p hp => ?_
    exact managedParameter_isOk_iff.2 (hcarries p hp)
  have hown : ¬(v.isConnectable = true ∧ ¬v.dispatch = .impure) := by
    simp [View.isConnectable, hrole]
  simpa [managedInput, hd, hown] using hmap

/-- A view that connects has a managed spelling exactly if its handler has a type. -/
lemma managedInput_isOk_iff_of_connect (hd : v.direction = .connect)
    (hconnectable : v.isConnectable = true) :
    (∃ ps, ctx.managedInput v = .ok ps) ↔ ∃ t, ctx.handlerType v = .ok t := by
  simp [managedInput, hd, hconnectable, map_eq_ok]

lemma managedInput_of_disconnect (hd : v.direction = .disconnect) (hrole : v.role = .signal) :
    ctx.managedInput v = .ok [] := by
  simp [managedInput, hd, hrole, View.isConnectable, pure, Except.pure]

/-- A managed signature in parts.  It has a receiver exactly if the C function takes the object. -/
lemma managedSignature_eq_ok_iff {s : ManagedSignature} :
    ctx.managedSignature v = .ok s ↔ v.managedName = .ok s.name ∧
      ctx.managedInput v = .ok s.parameters ∧ ctx.managedOutput v = .ok s.output ∧
      s.receiver = if v.hasReceiver then some v.owner else none := by
  have hreceiver : (if (v.method.isStatic || v.role == .constructor) = true then none
      else some v.owner) = if v.hasReceiver then some v.owner else none := by
    rw [View.hasReceiver, View.isConstructor]
    cases v.method.isStatic || v.role == .constructor <;> rfl
  simp only [managedSignature, hreceiver, bind_eq_ok, pure_eq_ok]
  constructor
  · rintro ⟨name, hname, parameters, hparameters, output, houtput, rfl⟩
    exact ⟨hname, hparameters, houtput, rfl⟩
  · rintro ⟨hname, hparameters, houtput, hsame⟩
    exact ⟨_, hname, _, hparameters, _, houtput, by rw [← hsame]⟩

lemma managedSignature_isOk_iff_parts :
    (∃ s, ctx.managedSignature v = .ok s) ↔ (∃ name, v.managedName = .ok name) ∧
      (∃ ps, ctx.managedInput v = .ok ps) ∧ ∃ o, ctx.managedOutput v = .ok o :=
  bind₃_isOk_iff

/-- A candidate that passed its check has a managed signature, unless it connects a handler whose
output is asked for and means nothing. -/
theorem managedSignature_isOk_iff (hv : ctx.Candidate main c subject v)
    (hcheck : ctx.checkMethod subject v = .ok ()) :
    (∃ s, ctx.managedSignature v = .ok s) ↔ ¬(v.direction = .connect ∧
      ctx.isMainName v.owner = true ∧ ctx.resolve? v v.outputToken = none) := by
  obtain ⟨-, -, hhook, hprototype⟩ := checkMethod_eq_ok_iff.1 hcheck
  obtain ⟨hname, houtput, hcarries⟩ := prototype_isOk_iff.1 hprototype
  rw [managedSignature_isOk_iff_parts]
  have hname : ∃ name, v.managedName = .ok name := View.managedName_isOk_iff.2 hname
  have houtput : ∃ o, ctx.managedOutput v = .ok o := managedOutput_isOk_iff.2 houtput
  by_cases hrole : v.role = .signal
  · have hd : v.direction.isHook = true := hv.isHook_iff.2 hrole
    obtain ⟨-, hhandler⟩ := checkHook_eq_ok_iff.1 hhook hd
    rcases hdirection : v.direction with _ | _ | _ | _
    · simp [hdirection, Direction.isHook] at hd
    · have hparameters : (∃ ps, ctx.managedInput v = .ok ps) ↔ ∃ t, ctx.handlerType v = .ok t :=
        managedInput_isOk_iff_of_connect hdirection (by simp [View.isConnectable, hrole])
      rw [handlerType_isOk_iff, and_iff_right hhandler] at hparameters
      rw [hparameters]
      cases ctx.resolve? v v.outputToken <;> simp [hname, houtput]
    · simp [hname, houtput, managedInput_of_disconnect hdirection hrole]
    · simp [hdirection, Direction.isHook] at hd
  · have hdirection : v.direction = .plain := hv.direction_eq_plain hrole
    simp [hname, houtput, hdirection,
      managedInput_isOk_of_plain hdirection hrole (hcarries hrole)]

/-! ## The steps in parts -/

/-- The walk after the wrappers that connect and disconnect a signal. -/
def listPair (ctx : Context) (c : Class) (w : Walk ContractEntry) (m : Method) :
    Walk ContractEntry :=
  let (w, connects) := ctx.listWrapper c ((View.of m).toward .connect) w
  let (w, disconnects) := ctx.listWrapper c ((View.of m).toward .disconnect) w
  if connects || disconnects then w.settle (View.of m).key else w

/-- Whether the callback of a signal is listed. -/
def listsSignal (ctx : Context) (c : Class) (m : Method) : Bool :=
  ctx.generatesSubclass c && m.returnsVoid && (ctx.checkMethod c (View.of m)).isOk

lemma listSignal_eq (c : Class) (w : Walk ContractEntry) (m : Method) :
    ctx.listSignal c w m =
      let w := ctx.listPair c w m
      let w := if ctx.isPrivateSignal m then w else (ctx.listWrapper c (View.of m).plain w).1
      if ctx.listsSignal c m then ctx.listCallback (View.of m) w else w := rfl

/-- The walk after the wrapper of a view and, if that one exists, the wrapper of its default. -/
def listDefault (ctx : Context) (c : Class) (v : View) (hasDefault : Bool)
    (w : Walk ContractEntry) : Walk ContractEntry :=
  match ctx.listWrapper c v w with
  | (w, false) => w
  | (w, true) =>
    if hasDefault then (ctx.listWrapper c v.forwardDefault (w.settle v.key)).1
    else w.settle v.key

/-- Whether the callback of a virtual method is listed, and with it a pair to connect and
disconnect. -/
def listsOverride (ctx : Context) (c : Class) (m : Method) : Bool :=
  ctx.generatesSubclass c && m.returnsVoid && !ctx.config.blocks m.name c.name &&
    (ctx.checkMethod c (View.of m).plain).isOk

lemma listVirtual_eq (main : Bool) (c : Class) (w : Walk ContractEntry) (m : Method) :
    ctx.listVirtual main c w m =
      if w.isSettled (View.of m).plain.key then w
      else
        let hasDefault := !main && m.returnsVoid && !ctx.config.blocks m.name c.name
        let w := if ctx.listsOverride c m then ctx.listHooks (View.of m).plain w else w
        let w := ctx.listDefault c (View.of m).plain hasDefault w
        if ctx.listsOverride c m then ctx.listCallback (View.of m).plain w else w := rfl

/-! ## The two walks step by step -/

/-- A walk that lists follows a walk that declares: the same symbols are taken, the same keys are
settled, the wrappers listed are the views declared, and each is listed with its signature. -/
structure Follows (ctx : Context) (w : Walk ContractEntry) (w' : Walk Declaration) : Prop where
  symbols : w.symbols = w'.symbols
  isSettled : ∀ key, w.isSettled key = w'.isSettled key
  views : wrapperViews (writtenItems w.outcomes) = (writtenItems w'.outcomes).map Declaration.view
  signed : w.AllWritten fun e =>
    e.role = .wrapper → e.signature = (ctx.managedSignature e.view).toOption

variable {w : Walk ContractEntry} {w' : Walk Declaration}

namespace Follows

lemma start : ctx.Follows Walk.start Walk.start :=
  ⟨rfl, fun _ => rfl, rfl, Walk.allWritten_start⟩

lemma settle (h : ctx.Follows w w') (key : String × Option UInt32) :
    ctx.Follows (w.settle key) (w'.settle key) where
  symbols := h.symbols
  isSettled other := by
    have hsettled := h.isSettled other
    rw [Bool.eq_iff_iff] at hsettled ⊢
    rw [Walk.isSettled_settle, Walk.isSettled_settle, hsettled]
  views := h.views
  signed := h.signed

/-- The contract passes in silence over what the header records as skipped. -/
lemma skip (h : ctx.Follows w w') (v : View) (o : Obstacle) : ctx.Follows w (w'.skip v o) where
  symbols := h.symbols
  isSettled := h.isSettled
  views := by simpa using h.views
  signed := h.signed

lemma skip_skip (h : ctx.Follows w w') (v : View) (o : Obstacle) :
    ctx.Follows (w.skip v o) (w'.skip v o) where
  symbols := h.symbols
  isSettled := h.isSettled
  views := by simpa using h.views
  signed := by simpa using h.signed

lemma write (h : ctx.Follows w w') {e : ContractEntry} (he : e.role ≠ .wrapper) :
    ctx.Follows (w.write e) w' where
  symbols := h.symbols
  isSettled := h.isSettled
  views := by
    have hnone : wrapperViews [e] = [] := by simp [wrapperViews, he]
    rw [← h.views, ← List.append_nil (wrapperViews (writtenItems w.outcomes)), ← hnone]
    simp [Walk.write, wrapperViews]
  signed := Walk.allWritten_write.2 ⟨h.signed, fun hrole => absurd hrole he⟩

lemma listHooks (h : ctx.Follows w w') (v : View) : ctx.Follows (ctx.listHooks v w) w' :=
  (h.write (by simp)).write (by simp)

lemma listCallback (h : ctx.Follows w w') (v : View) : ctx.Follows (ctx.listCallback v w) w' :=
  h.write (by simp)

end Follows

/-- A symbol is claimed for the contract exactly if the header has a declaration under it. -/
lemma map_declaration (taken : List String) (c : Class) (v : View) :
    (ctx.declaration taken c v).map (fun d => d.prototype.symbol) = ctx.symbolClaim taken c v := by
  unfold declaration symbolClaim
  cases hcheck : ctx.checkMethod c v with
  | error e => rfl
  | ok u =>
    obtain ⟨q, hq⟩ := (checkMethod_eq_ok_iff.1 hcheck).2.2.2
    have hsymbol : v.linkageSymbol = .ok q.symbol := (prototype_eq_ok_iff.1 hq).1
    rw [ok_bind, ok_bind, hsymbol, ok_bind, ok_bind, hq]
    by_cases ht : q.symbol ∈ taken
    · simp [ht, Except.map]
    · simp [ht, Except.map, pure, Except.pure]

theorem Follows.listWrapper (h : ctx.Follows w w') (c : Class) (v : View) :
    ctx.Follows (ctx.listWrapper c v w).1 (ctx.declare c v w').1 ∧
      (ctx.listWrapper c v w).2 = (ctx.declare c v w').2 := by
  unfold Context.listWrapper declare
  rw [← map_declaration, ← h.symbols]
  cases hd : ctx.declaration w.symbols c v with
  | error e => exact ⟨h.skip_skip v e, rfl⟩
  | ok d =>
    have hview : d.view = v := (declaration_eq_ok_iff.1 hd).1
    refine ⟨⟨?_, h.isSettled, ?_, ?_⟩, rfl⟩
    · exact congrArg (d.prototype.symbol :: ·) h.symbols
    · simp only [Walk.outcomes_claim, writtenItems_append, writtenItems_written, writtenItems_nil,
        List.map_append, List.map_cons, List.map_nil, hview, ← h.views]
      simp [wrapperViews, Except.map]
    · exact Walk.allWritten_claim.2 ⟨h.signed, fun _ => rfl⟩

lemma declare_settle (c : Class) (v : View) (w' : Walk Declaration)
    (key : String × Option UInt32) :
    ctx.declare c v (w'.settle key) =
      ((ctx.declare c v w').1.settle key, (ctx.declare c v w').2) := by
  unfold declare
  rw [Walk.symbols_settle]
  cases ctx.declaration w'.symbols c v <;> rfl

/-- Settling a key once more changes nothing. -/
lemma Follows.settle_again (h : ctx.Follows w w') {key : String × Option UInt32}
    (hkey : w'.isSettled key = true) : ctx.Follows w (w'.settle key) where
  symbols := h.symbols
  isSettled other := by
    have hsettled := h.isSettled other
    rw [Bool.eq_iff_iff] at hsettled ⊢
    rw [Walk.isSettled_settle, hsettled]
    constructor
    · exact Or.inr
    · rintro (rfl | hother)
      · exact hkey
      · exact hother
  views := h.views
  signed := h.signed

lemma Follows.listPair (h : ctx.Follows w w') (c : Class) (m : Method) :
    ctx.Follows (ctx.listPair c w m)
      (ctx.declareSettling c (ctx.declareSettling c w' ((View.of m).toward .connect))
        ((View.of m).toward .disconnect)) := by
  obtain ⟨h₁, hsame₁⟩ := h.listWrapper c ((View.of m).toward .connect)
  obtain ⟨h₂, hsame₂⟩ := h₁.listWrapper c ((View.of m).toward .disconnect)
  unfold Context.listPair
  simp only
  rw [hsame₁, hsame₂]
  unfold declareSettling
  cases hd₁ : ctx.declare c ((View.of m).toward .connect) w' with
  | mk w₁ connects =>
    rw [hd₁] at h₂
    cases connects with
    | false =>
      simp only [Bool.false_or]
      cases hd₂ : ctx.declare c ((View.of m).toward .disconnect) w₁ with
      | mk w₂ disconnects =>
        rw [hd₂] at h₂
        cases disconnects with
        | false => exact h₂
        | true => exact h₂.settle _
    | true =>
      simp only [Bool.true_or, if_true, declare_settle]
      cases hd₂ : ctx.declare c ((View.of m).toward .disconnect) w₁ with
      | mk w₂ disconnects =>
        rw [hd₂] at h₂
        cases disconnects with
        | false => exact h₂.settle _
        | true => exact (h₂.settle _).settle_again ((Walk.isSettled_settle ..).2 (.inl rfl))

lemma Follows.listSignal (h : ctx.Follows w w') (c : Class) (m : Method) :
    ctx.Follows (ctx.listSignal c w m) (ctx.declareSignal c w' m) := by
  have hpair := h.listPair c m
  have hplain := (hpair.listWrapper c (View.of m).plain).1
  rw [listSignal_eq]
  unfold declareSignal
  cases ctx.isPrivateSignal m with
  | true =>
    cases ctx.listsSignal c m with
    | true => exact hpair.listCallback _
    | false => exact hpair
  | false =>
    cases ctx.listsSignal c m with
    | true => exact hplain.listCallback _
    | false => exact hplain

lemma Follows.listDefault (h : ctx.Follows w w') (c : Class) (v : View) (hasDefault : Bool) :
    ctx.Follows (ctx.listDefault c v hasDefault w)
      (match ctx.declare c v w' with
        | (w', false) => w'
        | (w', true) =>
          if hasDefault then (ctx.declare c v.forwardDefault (w'.settle v.key)).1
          else w'.settle v.key) := by
  obtain ⟨hlisted, hsame⟩ := h.listWrapper c v
  unfold Context.listDefault
  generalize ctx.listWrapper c v w = listed at hlisted hsame ⊢
  generalize ctx.declare c v w' = declared at hlisted hsame ⊢
  obtain ⟨w₁, done⟩ := listed
  obtain ⟨w₁', _⟩ := declared
  subst hsame
  cases done with
  | false => exact hlisted
  | true =>
    have hsettled := hlisted.settle v.key
    cases hasDefault with
    | false => exact hsettled
    | true => exact (hsettled.listWrapper c v.forwardDefault).1

lemma Follows.listVirtual (h : ctx.Follows w w') (main : Bool) (c : Class) (m : Method) :
    ctx.Follows (ctx.listVirtual main c w m) (ctx.declareVirtual main c w' m) := by
  rw [listVirtual_eq]
  unfold declareVirtual
  simp only [h.isSettled]
  split
  · exact h
  cases ctx.listsOverride c m with
  | true => exact ((h.listHooks _).listDefault c _ _).listCallback _
  | false => exact h.listDefault c _ _

lemma Follows.listMember (h : ctx.Follows w w') (main : Bool) (c : Class) (m : Method) :
    ctx.Follows (ctx.listMember main c w m)
      (if w'.isSettled (View.of m).key then w' else ctx.declareSettling c w' (View.of m)) := by
  unfold Context.listMember declareSettling
  simp only [h.isSettled]
  split
  · exact h
  obtain ⟨hlisted, hsame⟩ := h.listWrapper c (View.of m)
  generalize ctx.listWrapper c (View.of m) w = listed at hlisted hsame ⊢
  generalize ctx.declare c (View.of m) w' = declared at hlisted hsame ⊢
  obtain ⟨w₁, done⟩ := listed
  obtain ⟨w₁', _⟩ := declared
  subst hsame
  cases done with
  | false => exact hlisted
  | true =>
    simp only
    split
    · exact (hlisted.settle _).listCallback _
    · exact hlisted.settle _

theorem Follows.listOwn (h : ctx.Follows w w') (main : Bool) (c : Class) (m : Method) :
    ctx.Follows (ctx.listOwn main c w m) (ctx.declareOwn main c w' m) := by
  unfold Context.listOwn declareOwn
  split
  · exact h.listSignal c m
  split
  · exact h.listVirtual main c m
  split
  · exact List.foldl_rel h fun i _ w w' h => (h.listWrapper c ((View.of m).instantiate i)).1
  · exact h.listMember main c m

theorem Follows.listInherited (h : ctx.Follows w w') (c base : Class) (m : Method) :
    ctx.Follows (ctx.listInherited c base w m) (ctx.declareInherited c base w' m) := by
  unfold Context.listInherited declareInherited
  simp only [h.isSettled]
  cases hskip : !isInheritable m || w'.isSettled ((View.of m).plain.retarget c.name).key with
  | true => exact h
  | false =>
    simp only [Bool.false_or, Bool.false_eq_true, if_false]
    cases hcheck : ctx.checkMethod base ((View.of m).plain.retarget c.name) with
    | error o => simpa [Except.isOk, Except.toBool] using h.skip _ o
    | ok u =>
      simp only [Except.isOk, Except.toBool, Bool.not_true, Bool.false_eq_true, if_false]
      have hsettled := h.settle ((View.of m).plain.retarget c.name).key
      split
      · exact hsettled
      split
      · have hhooks := hsettled.listHooks ((View.of m).plain.retarget c.name)
        exact ((hhooks.listWrapper base _).1.listWrapper base _).1.listCallback _
      · exact ((hsettled.listWrapper base _).1.listWrapper base _).1

/-- The state in which the walk over the contract of a class ends. -/
def contractWalk (ctx : Context) (main : Bool) (c : Class) : Walk ContractEntry :=
  ctx.walk c (ctx.listOwn main c) (ctx.listInherited c) Walk.start

lemma classContract_eq (hsupports : ctx.supports c = true) :
    ctx.classContract main c = writtenItems (ctx.contractWalk main c).outcomes := by
  unfold classContract
  rw [if_pos hsupports]
  rfl

/-- The walk that lists the contract of a class follows the walk that declares it. -/
theorem follows_contractWalk (main : Bool) (c : Class) :
    ctx.Follows (ctx.contractWalk main c)
      (ctx.walk c (ctx.declareOwn main c) (ctx.declareInherited c) Walk.start) :=
  walk_rel Follows.start (fun m _ _ _ h => h.listOwn main c m)
    fun base _ m _ _ _ h => h.listInherited c base m

/-! ## Classes and modules -/

lemma wrapperViews_flatMap (f : Class → List ContractEntry) (classes : List Class) :
    wrapperViews (classes.flatMap f) = classes.flatMap fun c => wrapperViews (f c) := by
  rw [wrapperViews, List.filter_flatMap, List.map_flatMap]
  rfl

lemma wrapperViews_classContract (main : Bool) (c : Class) :
    wrapperViews (ctx.classContract main c) = (ctx.classHeader main c).views := by
  unfold classContract ClassHeader.views ClassHeader.declared classHeader
  cases hcheck : ctx.checkClass c with
  | error o =>
    have hsupports : ctx.supports c = false := supports_eq_false_iff.2 ⟨o, hcheck⟩
    rw [hsupports]
    rfl
  | ok u =>
    have hsupports : ctx.supports c = true := checkClass_eq_ok_iff.1 hcheck
    rw [hsupports]
    exact (ctx.follows_contractWalk main c).views

lemma candidate_of_mem_classContract {e : ContractEntry} (he : e ∈ ctx.classContract main c)
    (hrole : e.role = .wrapper) :
    e.signature = (ctx.managedSignature e.view).toOption ∧
      ∃ subject, ctx.Candidate main c subject e.view ∧ ctx.checkMethod subject e.view = .ok () := by
  unfold classContract at he
  split at he
  next =>
    have hfollows := ctx.follows_contractWalk main c
    refine ⟨hfollows.signed e he hrole, ?_⟩
    have hmem : e.view ∈ wrapperViews (writtenItems (ctx.contractOutcomes main c)) :=
      List.mem_map.2 ⟨e, List.mem_filter.2 ⟨he, by simp [hrole]⟩, rfl⟩
    have hviews : wrapperViews (writtenItems (ctx.contractOutcomes main c)) =
        (writtenItems (ctx.declarations main c)).map Declaration.view := hfollows.views
    rw [hviews] at hmem
    obtain ⟨d, hd, hview⟩ := List.mem_map.1 hmem
    obtain ⟨subject, hcandidate, hcheck, -⟩ := declares_of_mem hd
    rw [hview] at hcandidate hcheck
    exact ⟨subject, hcandidate, hcheck⟩
  next => cases he

/-- The wrappers of a module's contract are the views that its header declares, in the same order.
Each contributes its signature, and the only ones that have none connect a signal of a main-module
class whose output token means nothing. -/
theorem contract_follows_header (ctx : Context) (module : String) :
    (ctx.contract module).map wrapperViews =
        (ctx.generate module).map (fun a => a.header.views) ∧
      ∀ entries signatures, ctx.contract module = .ok entries →
        ctx.signatures module = .ok signatures →
        signatures = entries.filterMap ContractEntry.signature ∧
        ∀ e ∈ entries, e.role = .wrapper →
          e.signature = (ctx.managedSignature e.view).toOption ∧
          (e.signature = none ↔ e.view.direction = .connect ∧ e.view.role = .signal ∧
            ctx.isMainName e.view.owner = true ∧
            ctx.resolve? e.view e.view.outputToken = none) := by
  constructor
  · unfold contract generate
    cases ctx.emittedClasses module with
    | error e => rfl
    | ok classes =>
      refine congrArg Except.ok ?_
      simp only [wrapperViews_flatMap, wrapperViews_classContract, Header.views, header,
        List.flatMap_map]
  intro entries signatures hentries hsignatures
  constructor
  · rw [Context.signatures, hentries] at hsignatures
    exact (Except.ok.inj hsignatures).symm
  intro e he hrole
  obtain ⟨classes, -, rfl⟩ := contract_eq_ok_iff.1 hentries
  obtain ⟨c, -, he⟩ := List.mem_flatMap.1 he
  obtain ⟨hsignature, subject, hcandidate, hcheck⟩ := candidate_of_mem_classContract he hrole
  refine ⟨hsignature, ?_⟩
  rw [hsignature, toOption_eq_none_iff, managedSignature_isOk_iff hcandidate hcheck, not_not]
  constructor
  · rintro ⟨hconnect, hrest⟩
    have hsignal : e.view.role = .signal := hcandidate.isHook_iff.1 (by rw [hconnect]; rfl)
    exact ⟨hconnect, hsignal, hrest⟩
  · rintro ⟨hconnect, -, hrest⟩
    exact ⟨hconnect, hrest⟩

/-- The contract of a main-module class with a signal and a slot follows its header. -/
theorem contract_follows_header_sample :
    ∃ entries a, Sample.context.contract "main" = .ok entries ∧
      Sample.context.signatures "main" = .ok (entries.filterMap ContractEntry.signature) ∧
      Sample.context.generate "main" = .ok a ∧ wrapperViews entries = a.header.views ∧
      ∀ e ∈ entries, e.role = .wrapper →
        e.signature = (Sample.context.managedSignature e.view).toOption := by
  obtain ⟨hviews, hentries⟩ := contract_follows_header Sample.context "main"
  have hok : (Sample.context.contract "main").isOk = true := by decide +kernel
  obtain ⟨entries, hcontract⟩ := isOk_iff_exists.1 hok
  have hsignatures : Sample.context.signatures "main" =
      .ok (entries.filterMap ContractEntry.signature) := by rw [signatures, hcontract]; rfl
  obtain ⟨-, hsigned⟩ := hentries entries _ hcontract hsignatures
  cases hgenerate : Sample.context.generate "main" with
  | error e => simp [hcontract, hgenerate, Except.map] at hviews
  | ok a =>
    rw [hcontract, hgenerate] at hviews
    exact ⟨entries, a, hcontract, hsignatures, rfl, Except.ok.inj hviews,
      fun e he hrole => (hsigned e he hrole).1⟩

end Context

end Bindery
