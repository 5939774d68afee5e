import Mathlib.Tactic.Lemma
import Mathlib.Data.List.Basic
import Mathlib.Data.List.Forall2
import Bindery.Proofs.Lists
import Bindery.Signature.Managed
import Bindery.Support

/-!
# What a passed check promises

`Context.checkMethod` is asked before a view is declared, defined or listed, and each of these
steps spells the view again for its own side of the boundary.  This file says what the check
amounts to (`checkMethod_eq_ok_iff`, `prototype_isOk_iff`) and on what it does not depend: the
dispatch (`checkMethod_nonVirtual`) and, to one side, the role (`checkMethod_of_plain`).

Everything rests on one property of parameters, `Context.Carries`: the type resolves, and not to
nothing at all.  The header, the callback and the managed side each refuse exactly the parameters
that do not carry a value.
-/

namespace Bindery

/-! ## Computations that may fail -/

lemma bind_eq_ok {ε α β : Type} {x : Except ε α} {f : α → Except ε β} {b : β} :
    (x >>= f) = .ok b ↔ ∃ a, x = .ok a ∧ f a = .ok b := by
  cases x with
  | error e => simp [bind, Except.bind]
  | ok a => simp [bind, Except.bind]

lemma map_eq_ok {ε α β : Type} {x : Except ε α} {f : α → β} {b : β} :
    (f <$> x) = .ok b ↔ ∃ a, x = .ok a ∧ f a = b := by
  cases x with
  | error e => simp [Functor.map, Except.map]
  | ok a => simp [Functor.map, Except.map]

lemma pure_eq_ok {ε α : Type} {a b : α} : (pure a : Except ε α) = .ok b ↔ a = b := by
  simp [pure, Except.pure]

@[simp] lemma throw_eq_error {ε α : Type} (e : ε) : (throw e : Except ε α) = .error e := rfl

@[simp] lemma error_bind {ε α β : Type} (e : ε) (f : α → Except ε β) :
    (Except.error e >>= f) = .error e := rfl

@[simp] lemma ok_bind {ε α β : Type} (a : α) (f : α → Except ε β) :
    (Except.ok a >>= f) = f a := rfl

lemma bind₃_isOk_iff {ε α β γ δ : Type} {x : Except ε α} {y : Except ε β} {z : Except ε γ}
    {f : α → β → γ → δ} :
    (∃ d, (x >>= fun a => y >>= fun b => z >>= fun c => pure (f a b c)) = .ok d) ↔
      (∃ a, x = .ok a) ∧ (∃ b, y = .ok b) ∧ ∃ c, z = .ok c := by
  simp only [bind_eq_ok, pure_eq_ok]
  constructor
  · rintro ⟨-, a, ha, b, hb, c, hc, -⟩
    exact ⟨⟨a, ha⟩, ⟨b, hb⟩, ⟨c, hc⟩⟩
  · rintro ⟨⟨a, ha⟩, ⟨b, hb⟩, ⟨c, hc⟩⟩
    exact ⟨_, a, ha, b, hb, c, hc, rfl⟩

lemma isOk_iff_eq_ok {ε : Type} {x : Except ε Unit} : x.isOk = true ↔ x = .ok () := by
  cases x <;> simp [Except.isOk, Except.toBool]

lemma exists_unit_iff {P : Unit → Prop} : (∃ u, P u) ↔ P () :=
  ⟨fun ⟨_, h⟩ => h, fun h => ⟨(), h⟩⟩

lemma mapM_isOk_iff {ε α β : Type} {f : α → Except ε β} {l : List α} :
    (∃ bs, l.mapM f = .ok bs) ↔ ∀ a ∈ l, ∃ b, f a = .ok b := by
  induction l with
  | nil => simp [pure_eq_ok]
  | cons a l ih =>
    simp only [List.mapM_cons, bind_eq_ok, pure_eq_ok, List.forall_mem_cons, ← ih]
    constructor
    · rintro ⟨-, b, hb, bs, hbs, -⟩
      exact ⟨⟨b, hb⟩, ⟨bs, hbs⟩⟩
    · rintro ⟨⟨b, hb⟩, bs, hbs⟩
      exact ⟨b :: bs, b, hb, bs, hbs, rfl⟩

lemma mapM_eq_ok_iff {ε α β : Type} {f : α → Except ε β} {l : List α} {bs : List β} :
    l.mapM f = .ok bs ↔ List.Forall₂ (fun a b => f a = .ok b) l bs := by
  induction l generalizing bs with
  | nil =>
    rw [List.mapM_nil, pure_eq_ok, List.forall₂_nil_left_iff]
    exact eq_comm
  | cons a l ih =>
    simp only [List.mapM_cons, bind_eq_ok, pure_eq_ok, List.forall₂_cons_left_iff, ← ih]
    constructor
    · rintro ⟨b, hb, bs, hbs, rfl⟩
      exact ⟨b, bs, hb, hbs, rfl⟩
    · rintro ⟨b, bs, hb, hbs, rfl⟩
      exact ⟨b, hb, bs, hbs, rfl⟩

lemma mem_of_mapM_eq_ok {ε α β : Type} {f : α → Except ε β} {l : List α} {bs : List β}
    (h : l.mapM f = .ok bs) {a : α} (ha : a ∈ l) : ∃ b ∈ bs, f a = .ok b :=
  exists_mem_of_forall₂ (mapM_eq_ok_iff.1 h) ha

lemma isOk_iff_exists {ε α : Type} {x : Except ε α} : x.isOk = true ↔ ∃ a, x = .ok a := by
  cases x <;> simp [Except.isOk, Except.toBool]

lemma any_toOption_iff {ε α : Type} {x : Except ε α} {p : α → Bool} :
    x.toOption.any p = true ↔ ∃ a, x = .ok a ∧ p a = true := by
  cases x <;> simp [Except.toOption]

lemma toOption_eq_some_iff {ε α : Type} {x : Except ε α} {a : α} :
    x.toOption = some a ↔ x = .ok a := by
  cases x <;> simp [Except.toOption]

lemma toOption_eq_none_iff {ε α : Type} {x : Except ε α} : x.toOption = none ↔ ¬∃ a, x = .ok a := by
  cases x <;> simp [Except.toOption]

/-! ## Names -/

namespace View

lemma managedName_isOk_iff {v : View} :
    (∃ name, v.managedName = .ok name) ↔ namesOperator v.rawManagedName = false := by
  unfold managedName identifier
  cases namesOperator v.rawManagedName <;> simp

lemma callbackName_isOk_iff {v : View} :
    (∃ name, v.callbackName = .ok name) ↔ namesOperator v.rawCallbackName = false := by
  unfold callbackName identifier
  cases namesOperator v.rawCallbackName <;> simp

lemma linkageSymbol_isOk_iff {v : View} :
    (∃ symbol, v.linkageSymbol = .ok symbol) ↔ ∃ name, v.managedName = .ok name := by
  unfold linkageSymbol
  cases v.managedName <;> simp [Except.map]

lemma outputToken_congr {v v' : View} (hmethod : v.method = v'.method) :
    v.outputToken = v'.outputToken := by
  unfold outputToken
  rw [hmethod]

lemma rolePrefix_eq_empty {v : View} (hstructor : v.role.isStructor = false) :
    v.rolePrefix = "" := by
  unfold rolePrefix
  cases hrole : v.role with
  | constructor | destructor => simp [hrole, Role.isStructor] at hstructor
  | signal | slot | plain => rfl

/-- Names tell apart only views that make or destroy objects. -/
lemma rawManagedName_plain {v : View} (hstructor : v.role.isStructor = false) :
    v.plain.rawManagedName = v.rawManagedName := by
  have hempty : v.rolePrefix = "" := rolePrefix_eq_empty hstructor
  have hplain : v.plain.rolePrefix = "" := rfl
  unfold rawManagedName
  rw [hempty, hplain]
  rfl

end View

namespace Context

variable {ctx : Context} {c : Class} {v : View} {p : Parameter × Nat}

/-! ## Parameters -/

/-- A parameter carries a value in a view: its type resolves, and not to nothing at all. -/
def Carries (ctx : Context) (v : View) (p : Parameter × Nat) : Prop :=
  ∃ k, ctx.resolve? v p.1.type = some k ∧ k.isVoid = false

/-- What a type text means depends on the method and on its instantiation only. -/
lemma resolve?_congr {v' : View} (hmethod : v.method = v'.method)
    (hinstantiation : v.instantiation = v'.instantiation) : ctx.resolve? v = ctx.resolve? v' := by
  funext text
  unfold resolve? substituted
  rw [hmethod, hinstantiation]

lemma carries_congr {v' : View} (hmethod : v.method = v'.method)
    (hinstantiation : v.instantiation = v'.instantiation) :
    ctx.Carries v p ↔ ctx.Carries v' p := by
  unfold Carries
  rw [resolve?_congr hmethod hinstantiation]

lemma headerParameter_isOk_iff :
    (∃ d, ctx.headerParameter v p = .ok d) ↔ ctx.Carries v p := by
  unfold headerParameter Carries
  cases ctx.resolve? v p.1.type with
  | none => simp
  | some k => cases hk : k.isVoid <;> simp [hk]

lemma callbackArgument_isOk_iff :
    (∃ a, ctx.callbackArgument v p = .ok a) ↔ ctx.Carries v p := by
  unfold callbackArgument Carries
  cases ctx.resolve? v p.1.type with
  | none => simp
  | some k => cases hk : k.isVoid <;> simp [hk]

lemma managedParameter_isOk_iff {byInterface : Bool} :
    (∃ d, ctx.managedParameter byInterface v p = .ok d) ↔ ctx.Carries v p := by
  unfold managedParameter Carries
  cases ctx.resolve? v p.1.type with
  | none => simp
  | some k => cases hk : k.isVoid <;> simp [hk]

lemma callbackParameter_isOk_iff :
    (∃ d, ctx.callbackParameter v p = .ok d) ↔ ∃ k, ctx.resolve? v p.1.type = some k := by
  unfold callbackParameter
  cases ctx.resolve? v p.1.type <;> simp

lemma callArgument_isOk_iff :
    (∃ a, ctx.callArgument v p = .ok a) ↔ ∃ k, ctx.resolve? v p.1.type = some k := by
  unfold callArgument
  cases ctx.resolve? v p.1.type <;> simp

lemma callbackArguments_isOk_iff :
    (∃ args, ctx.callbackArguments v = .ok args) ↔ ∀ p ∈ ctx.hookParameters v, ctx.Carries v p := by
  simp only [callbackArguments, mapM_isOk_iff, callbackArgument_isOk_iff]

/-! ## Prototypes -/

lemma headerParameters_isOk_iff :
    (∃ ds, ctx.headerParameters v = .ok ds) ↔
      (v.role ≠ .signal → ∀ p ∈ v.parameters, ctx.Carries v p) := by
  unfold headerParameters
  by_cases hs : v.role = .signal
  · simp [hs, pure_eq_ok]
  · have hmap := @mapM_isOk_iff _ _ _ (ctx.headerParameter v) v.parameters
    simp only [headerParameter_isOk_iff] at hmap
    rw [← hmap]
    simp [hs, map_eq_ok]

lemma headerOutput_isOk_iff :
    (∃ o, ctx.headerOutput v = .ok o) ↔
      (v.direction.isHook = false → ∃ k, ctx.resolve? v v.outputToken = some k) := by
  unfold headerOutput spellOutput
  cases v.direction.isHook with
  | true => simp [pure_eq_ok]
  | false => cases ctx.resolve? v v.outputToken <;> simp

lemma prototype_eq_ok_iff {q : Prototype} :
    ctx.prototype v = .ok q ↔ v.linkageSymbol = .ok q.symbol ∧ ctx.headerOutput v = .ok q.output ∧
      ctx.headerParameters v = .ok q.parameters := by
  simp only [prototype, bind_eq_ok, pure_eq_ok]
  constructor
  · rintro ⟨symbol, hs, output, ho, parameters, hp, rfl⟩
    exact ⟨hs, ho, hp⟩
  · rintro ⟨hs, ho, hp⟩
    exact ⟨_, hs, _, ho, _, hp, rfl⟩

/-- A view has a C function exactly if its name is no operator's, its output resolves unless it
connects or disconnects, and its parameters carry values unless it is that of a signal. -/
theorem prototype_isOk_iff :
    (∃ q, ctx.prototype v = .ok q) ↔ namesOperator v.rawManagedName = false ∧
      (v.direction.isHook = false → ∃ k, ctx.resolve? v v.outputToken = some k) ∧
      (v.role ≠ .signal → ∀ p ∈ v.parameters, ctx.Carries v p) := by
  rw [← View.managedName_isOk_iff, ← View.linkageSymbol_isOk_iff, ← headerOutput_isOk_iff,
    ← headerParameters_isOk_iff]
  exact bind₃_isOk_iff

/-! ## Checks -/

lemma checkClass_eq_ok_iff : ctx.checkClass c = .ok () ↔ ctx.supports c = true :=
  isOk_iff_eq_ok.symm

lemma supports_eq_false_iff : ctx.supports c = false ↔ ∃ o, ctx.checkClass c = .error o := by
  unfold supports
  cases ctx.checkClass c <;> simp [Except.isOk, Except.toBool]

lemma supports_of_generatesSubclass (hgenerates : ctx.generatesSubclass c = true) :
    ctx.supports c = true := by
  simp only [generatesSubclass, Bool.and_eq_true] at hgenerates
  exact hgenerates.1.1

lemma checkHook_eq_ok_iff :
    ctx.checkHook c v = .ok () ↔ (v.direction.isHook = true →
      ctx.generatesSubclass c = true ∧ ∀ p ∈ ctx.hookParameters v, ctx.Carries v p) := by
  rw [← callbackArguments_isOk_iff]
  unfold checkHook
  cases v.direction.isHook <;> cases ctx.generatesSubclass c <;>
    simp [map_eq_ok, pure_eq_ok]

/-- The check of a hook does not look at the role. -/
lemma checkHook_plain (c : Class) (v : View) : ctx.checkHook c v.plain = ctx.checkHook c v := by
  have hresolve : ctx.resolve? v.plain = ctx.resolve? v := resolve?_congr rfl rfl
  unfold checkHook callbackArguments callbackArgument
  rw [hresolve]
  rfl

theorem checkMethod_eq_ok_iff :
    ctx.checkMethod c v = .ok () ↔ ctx.excludes c v.method = false ∧
      (v.method.role == .constructor && c.isAbstract) = false ∧
      ctx.checkHook c v = .ok () ∧ ∃ q, ctx.prototype v = .ok q := by
  unfold checkMethod
  cases ctx.excludes c v.method <;> cases v.method.role == .constructor && c.isAbstract <;>
    simp [bind_eq_ok, map_eq_ok, exists_unit_iff]

lemma checkMethod_nonVirtual (c : Class) (v : View) :
    ctx.checkMethod c v.nonVirtual = ctx.checkMethod c v := by
  have hresolve : ctx.resolve? v.nonVirtual = ctx.resolve? v := resolve?_congr rfl rfl
  have hname : v.nonVirtual.rawManagedName = v.rawManagedName := by
    unfold View.rawManagedName
    rfl
  have hsymbol : v.nonVirtual.linkageSymbol = v.linkageSymbol := by
    unfold View.linkageSymbol View.managedName
    rw [hname]
    rfl
  have htoken : v.nonVirtual.outputToken = v.outputToken := View.outputToken_congr rfl
  have houtput : ctx.headerOutput v.nonVirtual = ctx.headerOutput v := by
    have hsurface : ctx.outputSurface v.nonVirtual = ctx.outputSurface v := rfl
    have hdirection : v.nonVirtual.direction = v.direction := rfl
    unfold headerOutput spellOutput
    rw [hresolve, htoken, hsurface, hdirection]
  have hparameters : ctx.headerParameters v.nonVirtual = ctx.headerParameters v := by
    unfold headerParameters headerParameter
    rw [hresolve]
    rfl
  have harguments : ctx.callbackArguments v.nonVirtual = ctx.callbackArguments v := by
    unfold callbackArguments callbackArgument
    rw [hresolve]
    rfl
  unfold checkMethod checkHook prototype
  rw [hsymbol, houtput, hparameters, harguments]
  rfl

/-- A plain view has to pass the check of the view itself, and its parameters have to carry values,
which is not asked of signals. -/
theorem checkMethod_plain_iff (hstructor : v.role.isStructor = false) :
    ctx.checkMethod c v.plain = .ok () ↔
      ctx.checkMethod c v = .ok () ∧ ∀ p ∈ v.parameters, ctx.Carries v p := by
  have hresolve : ctx.resolve? v.plain = ctx.resolve? v := resolve?_congr rfl rfl
  rw [checkMethod_eq_ok_iff, checkMethod_eq_ok_iff, prototype_isOk_iff, prototype_isOk_iff,
    View.rawManagedName_plain hstructor, hresolve, checkHook_plain]
  constructor
  · rintro ⟨hexcluded, hconstructor, hhook, hname, houtput, hcarries⟩
    have hcarries : ∀ p ∈ v.parameters, ctx.Carries v p := fun p hp =>
      (carries_congr rfl rfl).1 (hcarries (by simp [View.plain]) p hp)
    exact ⟨⟨hexcluded, hconstructor, hhook, hname, houtput, fun _ => hcarries⟩, hcarries⟩
  · rintro ⟨⟨hexcluded, hconstructor, hhook, hname, houtput, -⟩, hcarries⟩
    exact ⟨hexcluded, hconstructor, hhook, hname, houtput,
      fun _ p hp => (carries_congr rfl rfl).2 (hcarries p hp)⟩

lemma checkMethod_of_plain (hstructor : v.role.isStructor = false)
    (h : ctx.checkMethod c v.plain = .ok ()) : ctx.checkMethod c v = .ok () :=
  ((checkMethod_plain_iff hstructor).1 h).1

lemma checkMethod_plain (hstructor : v.role.isStructor = false) (hrole : v.role ≠ .signal)
    (h : ctx.checkMethod c v = .ok ()) : ctx.checkMethod c v.plain = .ok () := by
  obtain ⟨-, -, -, hprototype⟩ := checkMethod_eq_ok_iff.1 h
  obtain ⟨-, -, hcarries⟩ := prototype_isOk_iff.1 hprototype
  exact (checkMethod_plain_iff hstructor).2 ⟨h, hcarries hrole⟩

end Context

end Bindery
