import Mathlib.Tactic.Lemma
import Bindery.Emission.Implementation
import Bindery.Proofs.ClassWalk

/-!
# Walks, whatever they change

The walks that declare, define and override decide at each method which views to try.  What they
decide depends on the keys that are settled and on which attempts succeed, and on nothing else that
an attempt may change.  `Walker` is what a walk needs of its states: to settle keys, to record a
view that is not tried, and to try one.  `Walker.declareOwn`, `Walker.defineOwn`,
`Walker.overrideOwn` and their companions for inherited methods are the walks over any such states.

Over the states of `Walk` they are the walks of the emitters (`walk_declaring` and the theorems
beside it).  Two walkers whose steps keep their states related keep them related along
every walk (`Walker.Simulates`); a property that the steps of one walker keep is the case of a
walker and itself (`Walker.Preserves`).  So what an attempt does has to be looked at once, outside
of all walks.  Which requests a walk makes is said where its views are listed.
-/

namespace Bindery

/-- A wrapper to declare: the class that its check speaks of, and the view. -/
structure DeclareRequest where
  subject : Class
  view : View

/-- A wrapper to define, with the class that the object is seen as and the one whose method is
called without dispatch. -/
structure DefineRequest where
  subject : Class
  view : View
  cast : String
  qualifier : Option String

/-- A member of a generated subclass to write. -/
structure ForwardRequest where
  subject : Class
  member : String
  view : View

/-- What a walk does to its state; `ρ` are the requests that it tries. -/
structure Walker (ρ σ : Type) where
  isSettled : σ → String × Option UInt32 → Bool
  settle : σ → String × Option UInt32 → σ
  skip : σ → View → Obstacle → σ
  /-- An attempt to write what is requested, and whether it was written. -/
  attempt : σ → ρ → σ × Bool

namespace Walker

open Context

variable {ρ σ : Type}

/-- An attempt, and what follows if it succeeds. -/
def attemptThen (W : Walker ρ σ) (s : σ) (r : ρ) (next : σ → σ) : σ :=
  match W.attempt s r with
  | (s, true) => next s
  | (s, false) => s

/-- An attempt that settles a key if it succeeds. -/
def attemptSettling (W : Walker ρ σ) (s : σ) (r : ρ) (key : String × Option UInt32) : σ :=
  W.attemptThen s r (W.settle · key)

/-! ## Declarations -/

/-- The state after the views of a virtual method with an implementation. -/
def declareVirtual (W : Walker DeclareRequest σ) (ctx : Context) (main : Bool) (c : Class) (s : σ)
    (m : Method) : σ :=
  let v := (View.of m).plain
  if W.isSettled s v.key then s
  else W.attemptThen s ⟨c, v⟩ fun s =>
    let s := W.settle s v.key
    if !main && m.returnsVoid && !ctx.config.blocks m.name c.name then
      (W.attempt s ⟨c, v.forwardDefault⟩).1
    else s

/-- The state after the views of a method that the class declares. -/
def declareOwn (W : Walker DeclareRequest σ) (ctx : Context) (main : Bool) (c : Class) (s : σ)
    (m : Method) : σ :=
  let v := View.of m
  if m.role == .signal then
    let s := W.attemptSettling s ⟨c, v.toward .connect⟩ v.key
    let s := W.attemptSettling s ⟨c, v.toward .disconnect⟩ v.key
    if ctx.isPrivateSignal m then s else (W.attempt s ⟨c, v.plain⟩).1
  else if m.isImpure && !m.role.isStructor then W.declareVirtual ctx main c s m
  else if m.isGeneric then
    m.instantiations.foldl (fun s i => (W.attempt s ⟨c, v.instantiate i⟩).1) s
  else if W.isSettled s v.key then s
  else W.attemptSettling s ⟨c, v⟩ v.key

/-- The state after the views of a method that the class inherits from `base`. -/
def declareInherited (W : Walker DeclareRequest σ) (ctx : Context) (c base : Class) (s : σ)
    (m : Method) : σ :=
  let v := (View.of m).plain.retarget c.name
  if !isInheritable m || W.isSettled s v.key then s
  else match ctx.checkMethod base v with
    | .error obstacle => W.skip s v obstacle
    | .ok () =>
      let s := W.settle s v.key
      if ctx.config.blocks m.name c.name then s
      else
        let s := (W.attempt s ⟨base, v⟩).1
        (W.attempt s ⟨base, v.forwardDefault⟩).1

/-! ## Bodies -/

/-- The state after a method that is neither a signal nor a member template. -/
def defineMember (W : Walker DefineRequest σ) (ctx : Context) (main : Bool) (c : Class) (s : σ)
    (m : Method) : σ :=
  let isVirtual := m.isImpure && !m.role.isStructor
  let v := if isVirtual then (View.of m).plain else View.of m
  let isOverridden := isVirtual && m.returnsVoid && !main && !ctx.config.blocks m.name c.name
  let cast := if isOverridden && ctx.generatesSubclass c then ctx.subclassName c else c.name
  W.attemptThen s ⟨c, v, cast, none⟩ fun s =>
    let s := W.settle s v.key
    if isOverridden then (W.attempt s ⟨c, v.forwardDefault, c.name, some c.name⟩).1 else s

/-- The state after the views of a method that the class declares. -/
def defineOwn (W : Walker DefineRequest σ) (ctx : Context) (main : Bool) (c : Class) (s : σ)
    (m : Method) : σ :=
  let v := View.of m
  if m.role == .signal then
    let s := W.attemptSettling s ⟨c, v.toward .connect, c.name, none⟩ v.key
    let s := W.attemptSettling s ⟨c, v.toward .disconnect, c.name, none⟩ v.key
    if ctx.isPrivateSignal m then s else (W.attempt s ⟨c, v.plain, c.name, none⟩).1
  else if m.isGeneric then
    m.instantiations.foldl (fun s i => (W.attempt s ⟨c, v.instantiate i, c.name, none⟩).1) s
  else if W.isSettled s v.key then s
  else W.defineMember ctx main c s m

/-- The state after the views of a method that the class inherits from `base`. -/
def defineInherited (W : Walker DefineRequest σ) (ctx : Context) (main : Bool) (c base : Class)
    (s : σ) (m : Method) : σ :=
  let v := (View.of m).plain.retarget c.name
  if !isInheritable m || W.isSettled s v.key then s
  else match ctx.checkMethod base v with
    | .error obstacle => W.skip s v obstacle
    | .ok () =>
      let s := W.settle s v.key
      if ctx.config.blocks m.name c.name then s
      else
        let cast := if !main && ctx.generatesSubclass c then ctx.subclassName c else c.name
        let s := (W.attempt s ⟨base, v, cast, none⟩).1
        let owner := if main then base.name else c.name
        (W.attempt s ⟨base, v.forwardDefault, owner, some owner⟩).1

/-! ## Members of a generated subclass -/

/-- The state after a method that the class declares. -/
def overrideOwn (W : Walker ForwardRequest σ) (ctx : Context) (main : Bool) (c : Class) (s : σ)
    (m : Method) : σ :=
  let v := View.of m
  if main && m.role == .slot then s
  else if !isHooked m then W.settle s v.key
  else match ctx.checkMethod c v with
    | .error obstacle => W.skip s v obstacle
    | .ok () =>
      if m.role == .signal then (W.attempt s ⟨c, v.slotName, v⟩).1
      else if W.isSettled s v.key then s
      else if ctx.config.blocks m.name c.name then W.settle s v.key
      else (W.attempt (W.settle s v.key) ⟨c, m.name, v⟩).1

/-- The state after a method that the class inherits from `base`. -/
def overrideInherited (W : Walker ForwardRequest σ) (ctx : Context) (c base : Class) (s : σ)
    (m : Method) : σ :=
  let v := (View.of m).retarget c.name
  if !isInheritable m || !(ctx.checkMethod base v).isOk || W.isSettled s v.key then s
  else if ctx.config.blocks m.name c.name then W.settle s v.key
  else (W.attempt (W.settle s v.key) ⟨c, m.name, v⟩).1

/-- The state after a slot of a class of the main module. -/
def forwardSlot (W : Walker ForwardRequest σ) (ctx : Context) (c : Class) (s : σ) (m : Method) :
    σ :=
  let v := (View.of m).nonVirtual
  match ctx.checkMethod c v with
  | .ok () => (W.attempt s ⟨c, m.name, v⟩).1
  | .error obstacle => W.skip s v obstacle

end Walker

/-! ## The walks of the emitters -/

/-- The walker whose states are those of a walk. -/
def Walk.walker {ρ α : Type} (attempt : Walk α → ρ → Walk α × Bool) : Walker ρ (Walk α) where
  isSettled := isSettled
  settle := settle
  skip := skip
  attempt := attempt

namespace Context

variable (ctx : Context) (main : Bool) (c base : Class)

/-- The walker that declares. -/
def declaring : Walker DeclareRequest (Walk Declaration) :=
  Walk.walker fun w r => ctx.declare r.subject r.view w

/-- The walker that defines. -/
def defining : Walker DefineRequest (Walk Body) :=
  Walk.walker fun w r => ctx.define r.subject r.view r.cast r.qualifier w

/-- The walker that writes the members of a generated subclass. -/
def forwarding : Walker ForwardRequest (Walk Trampoline) :=
  Walk.walker fun w r => (ctx.addTrampoline r.subject r.member r.view w,
    (ctx.trampoline r.subject r.member r.view).isOk)

lemma attemptSettling_declaring (v : View) (w : Walk Declaration) :
    ctx.declaring.attemptSettling w ⟨c, v⟩ v.key = ctx.declareSettling c w v := by
  simp only [Walker.attemptSettling, Walker.attemptThen, declareSettling, declaring,
    Walk.walker]
  obtain ⟨w', declared⟩ := ctx.declare c v w
  cases declared <;> rfl

lemma declareVirtual_declaring (m : Method) (w : Walk Declaration) :
    ctx.declaring.declareVirtual ctx main c w m = ctx.declareVirtual main c w m := by
  simp only [Walker.declareVirtual, Walker.attemptThen, declareVirtual, declaring,
    Walk.walker]
  obtain ⟨w', declared⟩ := ctx.declare c (View.of m).plain w
  cases declared <;> rfl

theorem declareOwn_declaring : ctx.declaring.declareOwn ctx main c = ctx.declareOwn main c := by
  funext w m
  have hhook (d : Direction) (w : Walk Declaration) :
      ctx.declaring.attemptSettling w ⟨c, (View.of m).toward d⟩ (View.of m).key =
        ctx.declareSettling c w ((View.of m).toward d) := attemptSettling_declaring ..
  unfold Walker.declareOwn
  simp only [hhook, attemptSettling_declaring, declareVirtual_declaring]
  rfl

theorem declareInherited_declaring :
    ctx.declaring.declareInherited ctx c = ctx.declareInherited c := rfl

theorem walk_declaring :
    ctx.walk c (ctx.declaring.declareOwn ctx main c) (ctx.declaring.declareInherited ctx c) =
      ctx.walk c (ctx.declareOwn main c) (ctx.declareInherited c) := by
  rw [declareOwn_declaring, declareInherited_declaring]

lemma attemptSettling_defining (v : View) (w : Walk Body) :
    ctx.defining.attemptSettling w ⟨c, v, c.name, none⟩ v.key = ctx.defineSettling c w v := by
  simp only [Walker.attemptSettling, Walker.attemptThen, defineSettling, defining,
    Walk.walker]
  obtain ⟨w', defined⟩ := ctx.define c v c.name none w
  cases defined <;> rfl

lemma attemptThen_defining (r : DefineRequest) (w : Walk Body) (next : Walk Body → Walk Body) :
    ctx.defining.attemptThen w r next =
      match ctx.define r.subject r.view r.cast r.qualifier w with
      | (w, false) => w
      | (w, true) => next w := by
  simp only [Walker.attemptThen, defining, Walk.walker]
  obtain ⟨w', defined⟩ := ctx.define r.subject r.view r.cast r.qualifier w
  cases defined <;> rfl

lemma defineMember_defining (m : Method) (w : Walk Body) :
    ctx.defining.defineMember ctx main c w m = ctx.defineMember main c w m := by
  unfold Walker.defineMember
  simp only [attemptThen_defining]
  rfl

theorem defineOwn_defining : ctx.defining.defineOwn ctx main c = ctx.defineOwn main c := by
  funext w m
  have hhook (d : Direction) (w : Walk Body) :
      ctx.defining.attemptSettling w ⟨c, (View.of m).toward d, c.name, none⟩ (View.of m).key =
        ctx.defineSettling c w ((View.of m).toward d) := attemptSettling_defining ..
  unfold Walker.defineOwn
  simp only [hhook, defineMember_defining]
  rfl

theorem defineInherited_defining :
    ctx.defining.defineInherited ctx main c = ctx.defineInherited main c := rfl

theorem walk_defining :
    ctx.walk c (ctx.defining.defineOwn ctx main c) (ctx.defining.defineInherited ctx main c) =
      ctx.walk c (ctx.defineOwn main c) (ctx.defineInherited main c) := by
  rw [defineOwn_defining, defineInherited_defining]

theorem overrideOwn_forwarding :
    ctx.forwarding.overrideOwn ctx main c = ctx.overrideOwn main c := rfl

theorem overrideInherited_forwarding :
    ctx.forwarding.overrideInherited ctx c = ctx.overrideInherited c := rfl

theorem walk_forwarding :
    ctx.walk c (ctx.forwarding.overrideOwn ctx main c) (ctx.forwarding.overrideInherited ctx c) =
      ctx.walk c (ctx.overrideOwn main c) (ctx.overrideInherited c) := by
  rw [overrideOwn_forwarding, overrideInherited_forwarding]

end Context

/-! ## Walkers that keep states related -/

namespace Walker

variable {ρ σ τ : Type}

/-- Two walkers keep their states related by `R` and take the same decisions, as long as their
requests satisfy `P`. -/
structure Simulates (S : Walker ρ σ) (T : Walker ρ τ) (P : ρ → Prop) (R : σ → τ → Prop) :
    Prop where
  isSettled : ∀ {s t}, R s t → ∀ key, S.isSettled s key = T.isSettled t key
  settle : ∀ {s t}, R s t → ∀ key, R (S.settle s key) (T.settle t key)
  skip : ∀ {s t}, R s t → ∀ v o, R (S.skip s v o) (T.skip t v o)
  attempt : ∀ {s t r}, P r → R s t →
    R (S.attempt s r).1 (T.attempt t r).1 ∧ (S.attempt s r).2 = (T.attempt t r).2

/-- No step of a walker takes the property `I` from a state, as long as its requests satisfy
`P`. -/
structure Preserves (W : Walker ρ σ) (P : ρ → Prop) (I : σ → Prop) : Prop where
  settle : ∀ {s}, I s → ∀ key, I (W.settle s key)
  skip : ∀ {s}, I s → ∀ v o, I (W.skip s v o)
  attempt : ∀ {s r}, P r → I s → I (W.attempt s r).1

namespace Simulates

variable {S : Walker ρ σ} {T : Walker ρ τ} {P : ρ → Prop} {R : σ → τ → Prop} {s : σ} {t : τ}

lemma attemptThen (h : S.Simulates T P R) {r : ρ} (hr : P r) (hst : R s t) {f : σ → σ} {g : τ → τ}
    (hnext : ∀ s t, R s t → R (f s) (g t)) : R (S.attemptThen s r f) (T.attemptThen t r g) := by
  obtain ⟨hstate, hsame⟩ := h.attempt hr hst
  unfold Walker.attemptThen
  generalize S.attempt s r = x at hstate hsame
  generalize T.attempt t r = y at hstate hsame
  obtain ⟨s', written⟩ := x
  obtain ⟨t', written'⟩ := y
  obtain rfl : written = written' := hsame
  cases written with
  | true => exact hnext s' t' hstate
  | false => exact hstate

lemma attemptSettling (h : S.Simulates T P R) {r : ρ} (hr : P r) (hst : R s t)
    (key : String × Option UInt32) : R (S.attemptSettling s r key) (T.attemptSettling t r key) :=
  h.attemptThen hr hst fun _ _ hst => h.settle hst key

end Simulates

/-- A walker simulates itself on the states that have the property. -/
lemma Preserves.simulates {W : Walker ρ σ} {P : ρ → Prop} {I : σ → Prop} (h : W.Preserves P I) :
    W.Simulates W P fun s t => s = t ∧ I s where
  isSettled := fun ⟨hsame, _⟩ _ => by rw [hsame]
  settle := fun ⟨hsame, hs⟩ key => ⟨by rw [hsame], h.settle hs key⟩
  skip := fun ⟨hsame, hs⟩ v o => ⟨by rw [hsame], h.skip hs v o⟩
  attempt := fun hr ⟨hsame, hs⟩ => ⟨⟨by rw [hsame], h.attempt hr hs⟩, by rw [hsame]⟩

end Walker

end Bindery
