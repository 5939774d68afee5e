import Mathlib.Tactic.Lemma
import Bindery.Proofs.Bases
import Bindery.Proofs.Candidates
import Bindery.Proofs.Order
import Bindery.Proofs.Sample

/-!
# Nothing is left out in silence

Every view that the header tries is declared or recorded (`tried_declare`), so a construct can only
disappear where the walk passes over a method without trying a view of it.  It does so at private
signals, at blocked overrides and wherever the key of the method is settled.  The invariants
`Context.OwnAccounted` and `Context.InheritedAccounted` say what can have settled a key by any point
of the walk: a method before that point, which was declared or, if it is inherited, passed its
check.
-/

namespace Bindery

namespace Walk

variable {w w' : Walk Declaration} {v : View} {m : Method}

/-- A view was tried in a walk: it is declared or skipped. -/
def Tried (w : Walk Declaration) (v : View) : Prop :=
  (∃ d ∈ writtenItems w.outcomes, d.view = v) ∨ ∃ o, .skipped v o ∈ w.outcomes

/-- A walk has declared a wrapper of a method under the class that the method belongs to. -/
def DeclaresMethod (w : Walk Declaration) (m : Method) : Prop :=
  ∃ d ∈ writtenItems w.outcomes, d.view.method = m ∧ d.view.owner = m.owner

lemma Tried.mono (hle : w.Le w') (h : w.Tried v) : w'.Tried v := by
  rcases h with ⟨d, hd, hview⟩ | ⟨o, ho⟩
  · exact .inl ⟨d, hle.written hd, hview⟩
  · exact .inr ⟨o, hle.outcomes _ ho⟩

lemma DeclaresMethod.mono (hle : w.Le w') (h : w.DeclaresMethod m) : w'.DeclaresMethod m := by
  obtain ⟨d, hd, hview⟩ := h
  exact ⟨d, hle.written hd, hview⟩

lemma le_foldl {α σ : Type} {f : Walk α → σ → Walk α} (hf : ∀ (w : Walk α) s, w.Le (f w s))
    (steps : List σ) (w : Walk α) : w.Le (steps.foldl f w) :=
  List.foldlRecOn steps f (Le.refl w) fun w' hw s _ => hw.trans (hf w' s)

end Walk

namespace Context

variable {ctx : Context} {main : Bool} {c subject base : Class} {v : View} {m : Method}
  {w w' w'' : Walk Declaration} {key : String × Option UInt32}

/-! ## One attempt -/

lemma le_declare (subject : Class) (v : View) (w : Walk Declaration) :
    w.Le (ctx.declare subject v w).1 := by
  unfold declare
  cases ctx.declaration w.symbols subject v with
  | ok d => exact Walk.le_claim w _ d
  | error o => exact Walk.le_skip w v o

lemma isSettled_declare (subject : Class) (v : View) (w : Walk Declaration) :
    (ctx.declare subject v w).1.isSettled key = w.isSettled key := by
  unfold declare
  cases ctx.declaration w.symbols subject v <;> rfl

/-- A view that is tried is declared, or skipped with an obstacle. -/
theorem tried_declare (subject : Class) (v : View) (w : Walk Declaration) :
    (ctx.declare subject v w).1.Tried v := by
  unfold declare
  cases hd : ctx.declaration w.symbols subject v with
  | ok d =>
    have hview : d.view = v := (declaration_eq_ok_iff.1 hd).1
    exact .inl ⟨d, mem_writtenItems.2 (List.mem_append_right _ (List.mem_singleton_self _)), hview⟩
  | error o => exact .inr ⟨o, List.mem_append_right _ (List.mem_singleton_self _)⟩

/-- What the walk may do at a method that the class declares: it takes nothing back, and it settles
no key but that of the method, and this one only after it has declared the method. -/
structure Contributes (m : Method) (w w' : Walk Declaration) : Prop where
  le : w.Le w'
  settled : ∀ key, w'.isSettled key = true →
    w.isSettled key = true ∨ key = (View.of m).key ∧ w'.DeclaresMethod m

namespace Contributes

lemma refl (m : Method) (w : Walk Declaration) : Contributes m w w :=
  ⟨.refl w, fun _ hkey => .inl hkey⟩

lemma trans (h : Contributes m w w') (h' : Contributes m w' w'') : Contributes m w w'' where
  le := h.le.trans h'.le
  settled key hkey := by
    rcases h'.settled key hkey with hkey | hkey
    · rcases h.settled key hkey with hkey | ⟨hsame, hdeclared⟩
      · exact .inl hkey
      · exact .inr ⟨hsame, hdeclared.mono h'.le⟩
    · exact .inr hkey

lemma declare (m : Method) (subject : Class) (v : View) (w : Walk Declaration) :
    Contributes m w (ctx.declare subject v w).1 :=
  ⟨le_declare subject v w, fun _ hkey => .inl (isSettled_declare subject v w ▸ hkey)⟩

lemma settle (hv : v.method = m) (howner : v.owner = m.owner)
    (hd : ctx.declare subject v w = (w', true)) : Contributes m w (w'.settle v.key) := by
  have hdeclared : w'.DeclaresMethod m := by
    unfold Context.declare at hd
    cases hok : ctx.declaration w.symbols subject v with
    | error o => simp [hok] at hd
    | ok d =>
      simp only [hok, Prod.mk.injEq, and_true] at hd
      obtain rfl := (declaration_eq_ok_iff.1 hok).1
      refine ⟨d, ?_, hv, howner⟩
      rw [← hd]
      exact mem_writtenItems.2 (List.mem_append_right _ (List.mem_singleton_self _))
  have hfirst : Contributes m w w' := by
    have h : Contributes m w (ctx.declare subject v w).1 := declare m subject v w
    rwa [hd] at h
  have hkey : v.key = (View.of m).key := by rw [View.key, hv]; rfl
  refine ⟨hfirst.le.trans (Walk.le_settle w' v.key), fun key hsettled => ?_⟩
  rcases (Walk.isSettled_settle ..).1 hsettled with hsame | hold
  · exact .inr ⟨hsame.trans hkey, hdeclared⟩
  · exact hfirst.settled key hold

lemma declareSettling (hv : v.method = m) (howner : v.owner = m.owner) :
    Contributes m w (ctx.declareSettling subject w v) := by
  unfold Context.declareSettling
  cases hd : ctx.declare subject v w with
  | mk w' declared =>
    cases declared with
    | true => exact settle hv howner hd
    | false =>
      have h : Contributes m w (ctx.declare subject v w).1 := declare m subject v w
      rwa [hd] at h

end Contributes

lemma tried_declareSettling (subject : Class) (v : View) (w : Walk Declaration) :
    (ctx.declareSettling subject w v).Tried v := by
  have htried : (ctx.declare subject v w).1.Tried v := tried_declare subject v w
  unfold declareSettling
  cases hd : ctx.declare subject v w with
  | mk w' declared =>
    rw [hd] at htried
    cases declared with
    | true => exact htried
    | false => exact htried

/-! ## The methods that the class declares -/

/-- The views in which a signal is emitted: it is connected, disconnected and, unless it is private,
called. -/
def signalViews (ctx : Context) (m : Method) : List View :=
  [(View.of m).toward .connect, (View.of m).toward .disconnect] ++
    if ctx.isPrivateSignal m then [] else [(View.of m).plain]

lemma tries_declareSignal (c : Class) (m : Method) (w : Walk Declaration) :
    Contributes m w (ctx.declareSignal c w m) ∧
      ∀ v ∈ ctx.signalViews m, (ctx.declareSignal c w m).Tried v := by
  set w₁ := ctx.declareSettling c w ((View.of m).toward .connect) with hw₁
  set w₂ := ctx.declareSettling c w₁ ((View.of m).toward .disconnect) with hw₂
  have h₁ : Contributes m w w₁ := .declareSettling rfl rfl
  have h₂ : Contributes m w₁ w₂ := .declareSettling rfl rfl
  have hconnect : w₂.Tried ((View.of m).toward .connect) :=
    (tried_declareSettling c _ w).mono h₂.le
  have hdisconnect : w₂.Tried ((View.of m).toward .disconnect) := tried_declareSettling c _ w₁
  have hsignal : ctx.declareSignal c w m =
      if ctx.isPrivateSignal m then w₂ else (ctx.declare c (View.of m).plain w₂).1 := rfl
  rw [hsignal, signalViews]
  cases ctx.isPrivateSignal m with
  | true =>
    refine ⟨h₁.trans h₂, fun v hv => ?_⟩
    simp only [if_true, List.append_nil, List.mem_cons, List.not_mem_nil, or_false] at hv
    rcases hv with rfl | rfl
    · exact hconnect
    · exact hdisconnect
  | false =>
    have h₃ : Contributes m w₂ (ctx.declare c (View.of m).plain w₂).1 := .declare m c _ w₂
    refine ⟨(h₁.trans h₂).trans h₃, fun v hv => ?_⟩
    simp only [Bool.false_eq_true, if_false, List.mem_append, List.mem_cons, List.not_mem_nil,
      or_false] at hv
    rcases hv with (rfl | rfl) | rfl
    · exact hconnect.mono h₃.le
    · exact hdisconnect.mono h₃.le
    · exact tried_declare c _ w₂

/-- A view of a method was tried under the class that the method belongs to. -/
def TriedMethod (w : Walk Declaration) (m : Method) : Prop :=
  ∃ v, v.method = m ∧ v.owner = m.owner ∧ v.direction = .plain ∧ w.Tried v

lemma TriedMethod.mono (hle : w.Le w') (h : TriedMethod w m) : TriedMethod w' m := by
  obtain ⟨v, hv, howner, hdirection, htried⟩ := h
  exact ⟨v, hv, howner, hdirection, htried.mono hle⟩

lemma tries_declareVirtual (main : Bool) (c : Class) (m : Method) (w : Walk Declaration) :
    Contributes m w (ctx.declareVirtual main c w m) ∧
      (w.isSettled (View.of m).key = true ∨ TriedMethod (ctx.declareVirtual main c w m) m) := by
  have hkey : (View.of m).plain.key = (View.of m).key := rfl
  unfold declareVirtual
  simp only [hkey]
  cases hsettled : w.isSettled (View.of m).key with
  | true => exact ⟨.refl m w, .inl rfl⟩
  | false =>
    have htried : (ctx.declare c (View.of m).plain w).1.Tried (View.of m).plain :=
      tried_declare c _ w
    have hplain : Contributes m w (ctx.declare c (View.of m).plain w).1 := .declare m c _ w
    cases hd : ctx.declare c (View.of m).plain w with
    | mk w' declared =>
      rw [hd] at htried hplain
      cases declared with
      | false => exact ⟨hplain, .inr ⟨_, rfl, rfl, rfl, htried⟩⟩
      | true =>
        have hsettle : Contributes m w (w'.settle (View.of m).plain.key) := .settle rfl rfl hd
        have htried' : (w'.settle (View.of m).plain.key).Tried (View.of m).plain :=
          htried.mono (Walk.le_settle w' _)
        simp only [Bool.false_eq_true, if_false]
        split
        · have hdefault : Contributes m (w'.settle (View.of m).plain.key)
              (ctx.declare c (View.of m).plain.forwardDefault
                (w'.settle (View.of m).plain.key)).1 := .declare m c _ _
          exact ⟨hsettle.trans hdefault, .inr ⟨_, rfl, rfl, rfl, htried'.mono hdefault.le⟩⟩
        · exact ⟨hsettle, .inr ⟨_, rfl, rfl, rfl, htried'⟩⟩

lemma tries_declareInstances (c : Class) (m : Method) (w : Walk Declaration) :
    Contributes m w (ctx.declareInstances c w m) ∧
      ∀ i ∈ m.instantiations, (ctx.declareInstances c w m).Tried ((View.of m).instantiate i) := by
  unfold declareInstances
  generalize m.instantiations = is
  induction is generalizing w with
  | nil => exact ⟨.refl m w, fun i hi => absurd hi List.not_mem_nil⟩
  | cons i is ih =>
    have hfirst : Contributes m w (ctx.declare c ((View.of m).instantiate i) w).1 :=
      .declare m c _ w
    obtain ⟨hrest, htried⟩ := ih (ctx.declare c ((View.of m).instantiate i) w).1
    refine ⟨hfirst.trans hrest, fun j hj => ?_⟩
    rcases List.mem_cons.1 hj with rfl | hj
    · exact (tried_declare c _ w).mono hrest.le
    · exact htried j hj

lemma contributes_declareOwn (main : Bool) (c : Class) (m : Method) (w : Walk Declaration) :
    Contributes m w (ctx.declareOwn main c w m) := by
  unfold declareOwn
  split
  · exact (tries_declareSignal c m w).1
  split
  · exact (tries_declareVirtual main c m w).1
  split
  · exact (tries_declareInstances c m w).1
  split
  · exact .refl m w
  · exact .declareSettling rfl rfl

lemma tried_signal (hrole : m.role = .signal) (main : Bool) (c : Class) (w : Walk Declaration) :
    ∀ v ∈ ctx.signalViews m, (ctx.declareOwn main c w m).Tried v := by
  have hsignal : ctx.declareOwn main c w m = ctx.declareSignal c w m := by
    simp [declareOwn, hrole]
  rw [hsignal]
  exact (tries_declareSignal c m w).2

lemma tried_declareOwn (hrole : m.role ≠ .signal) (main : Bool) (c : Class)
    (w : Walk Declaration) :
    w.isSettled (View.of m).key = true ∨ TriedMethod (ctx.declareOwn main c w m) m := by
  have hrole' : (m.role == .signal) = false := by simpa using hrole
  unfold declareOwn
  simp only [hrole', Bool.false_eq_true, if_false]
  split
  · exact (tries_declareVirtual main c m w).2
  split
  next hgeneric =>
    obtain ⟨i, hi⟩ : ∃ i, i ∈ m.instantiations := by
      refine List.exists_mem_of_ne_nil _ fun hnone => ?_
      simp [Method.isGeneric, hnone] at hgeneric
    exact .inr ⟨_, rfl, rfl, rfl, (tries_declareInstances c m w).2 i hi⟩
  split
  next hsettled => exact .inl hsettled
  · exact .inr ⟨_, rfl, rfl, rfl, tried_declareSettling c (View.of m) w⟩

/-- Every settled key is that of a method among those passed, which was declared. -/
def OwnAccounted (passed : List Method) (w : Walk Declaration) : Prop :=
  ∀ key, w.isSettled key = true → ∃ m ∈ passed, (View.of m).key = key ∧ w.DeclaresMethod m

lemma ownAccounted_foldl (main : Bool) (c : Class) (passed : List Method) :
    OwnAccounted passed (passed.foldl (ctx.declareOwn main c) Walk.start) := by
  -- from the back, so that the hypothesis speaks of the state before the last method
  induction passed using List.reverseRecOn with
  | nil => exact fun key hkey => by simp [Walk.start, Walk.isSettled] at hkey
  | append_singleton passed m ih =>
    intro key hkey
    rw [List.foldl_append, List.foldl_cons, List.foldl_nil] at hkey ⊢
    generalize passed.foldl (ctx.declareOwn main c) Walk.start = w at ih hkey ⊢
    have hstep : Contributes m w (ctx.declareOwn main c w m) := contributes_declareOwn main c m w
    rcases hstep.settled key hkey with hkey | ⟨rfl, hdeclared⟩
    · obtain ⟨m', hm', hsame, hdeclared⟩ := ih key hkey
      exact ⟨m', List.mem_append_left _ hm', hsame, hdeclared.mono hstep.le⟩
    · exact ⟨m, by simp, rfl, hdeclared⟩

/-! ## The methods that the class inherits -/

/-- The methods of the supported bases of a class, each with its base, in the order of the walk. -/
def inheritedMethods (ctx : Context) (c : Class) : List (Class × Method) :=
  (ctx.supportedBases c).flatMap fun base => base.methods.map fun m => (base, m)

/-- The view in which an inherited method is called under the name of the class. -/
def inheritedView (c : Class) (m : Method) : View :=
  (View.of m).plain.retarget c.name

/-- An inherited method is taken over by the class: it is repeated in derived classes and passes its
check under the name of the class. -/
def TakesOver (ctx : Context) (c base : Class) (m : Method) : Prop :=
  isInheritable m = true ∧ ctx.checkMethod base (inheritedView c m) = .ok ()

/-- The state in which the walk over the declarations of a class ends. -/
def declarationWalk (ctx : Context) (main : Bool) (c : Class) : Walk Declaration :=
  ctx.walk c (ctx.declareOwn main c) (ctx.declareInherited c) Walk.start

lemma declarationWalk_eq (main : Bool) (c : Class) :
    ctx.declarationWalk main c = (ctx.inheritedMethods c).foldl
      (fun w p => ctx.declareInherited c p.1 w p.2)
      (c.methods.foldl (ctx.declareOwn main c) Walk.start) := by
  simp only [inheritedMethods, List.foldl_flatMap, List.foldl_map]
  rfl

/-- What the walk may do at an inherited method: it takes nothing back, it settles the key of the
method only if the class takes it over, and it tries the method unless its key is settled or the
override is blocked. -/
structure Inherits (ctx : Context) (c base : Class) (m : Method) (w w' : Walk Declaration) :
    Prop where
  le : w.Le w'
  settled : ∀ key, w'.isSettled key = true →
    w.isSettled key = true ∨ key = (View.of m).key ∧ ctx.TakesOver c base m
  tried : isInheritable m = true → w.isSettled (View.of m).key = true ∨
    ctx.config.blocks m.name c.name = true ∨ w'.Tried (inheritedView c m)

lemma isSettled_settle_of_takesOver (htaken : ctx.TakesOver c base m)
    (hkey : (w.settle (View.of m).key).isSettled key = true) :
    w.isSettled key = true ∨ key = (View.of m).key ∧ ctx.TakesOver c base m := by
  rcases (Walk.isSettled_settle ..).1 hkey with hsame | hold
  · exact .inr ⟨hsame, htaken⟩
  · exact .inl hold

/-- A method that is taken over has its key settled and is tried in both of its views. -/
lemma inherits_declare (htaken : ctx.TakesOver c base m) :
    ctx.Inherits c base m w (ctx.declare base (inheritedView c m).forwardDefault
      (ctx.declare base (inheritedView c m) (w.settle (View.of m).key)).1).1 := by
  set settled := w.settle (View.of m).key with hsettled
  generalize hcalled : (ctx.declare base (inheritedView c m) settled).1 = called
  have hplain : w.Le called := by
    rw [← hcalled]
    exact (Walk.le_settle w _).trans (le_declare base _ settled)
  have htried : called.Tried (inheritedView c m) := hcalled ▸ tried_declare base _ settled
  have hdefault : called.Le (ctx.declare base (inheritedView c m).forwardDefault called).1 :=
    le_declare base _ called
  refine ⟨hplain.trans hdefault, fun key hkey => ?_, fun _ => ?_⟩
  · rw [isSettled_declare, ← hcalled, isSettled_declare] at hkey
    exact isSettled_settle_of_takesOver htaken hkey
  · exact .inr (.inr (htried.mono hdefault))

lemma inherits_declareInherited (ctx : Context) (c base : Class) (m : Method)
    (w : Walk Declaration) : ctx.Inherits c base m w (ctx.declareInherited c base w m) := by
  have hview : (View.of m).plain.retarget c.name = inheritedView c m := rfl
  have hkey : (inheritedView c m).key = (View.of m).key := rfl
  unfold declareInherited
  simp only [hview, hkey]
  cases hinherit : isInheritable m with
  | false => exact ⟨.refl w, fun _ hkey => .inl hkey, fun h => by simp [hinherit] at h⟩
  | true =>
    cases hsettled : w.isSettled (View.of m).key with
    | true => exact ⟨.refl w, fun _ hkey => .inl hkey, fun _ => .inl hsettled⟩
    | false =>
      simp only [Bool.not_true, Bool.or_self, Bool.false_eq_true, if_false]
      cases hcheck : ctx.checkMethod base (inheritedView c m) with
      | error o =>
        have hskipped : (w.skip (inheritedView c m) o).Tried (inheritedView c m) :=
          .inr ⟨o, List.mem_append_right _ (List.mem_singleton_self _)⟩
        exact ⟨Walk.le_skip w _ o, fun _ hkey => .inl hkey, fun _ => .inr (.inr hskipped)⟩
      | ok u =>
        have htaken : ctx.TakesOver c base m := ⟨hinherit, hcheck⟩
        cases hblocked : ctx.config.blocks m.name c.name with
        | true =>
          exact ⟨Walk.le_settle w _, fun _ hkey => isSettled_settle_of_takesOver htaken hkey,
            fun _ => .inr (.inl hblocked)⟩
        | false => exact inherits_declare htaken

/-- Every settled key is that of a declared method of the class, or of one among the inherited
methods passed, which the class takes over. -/
def InheritedAccounted (ctx : Context) (c : Class) (passed : List (Class × Method))
    (w : Walk Declaration) : Prop :=
  ∀ key, w.isSettled key = true →
    (∃ m ∈ c.methods, (View.of m).key = key ∧ w.DeclaresMethod m) ∨
      ∃ p ∈ passed, (View.of p.2).key = key ∧ ctx.TakesOver c p.1 p.2

lemma inheritedAccounted_foldl (main : Bool) (c : Class) (passed : List (Class × Method)) :
    ctx.InheritedAccounted c passed (passed.foldl (fun w p => ctx.declareInherited c p.1 w p.2)
      (c.methods.foldl (ctx.declareOwn main c) Walk.start)) := by
  induction passed using List.reverseRecOn with
  | nil =>
    intro key hkey
    exact .inl (ownAccounted_foldl main c c.methods key hkey)
  | append_singleton passed p ih =>
    intro key hkey
    rw [List.foldl_append, List.foldl_cons, List.foldl_nil] at hkey ⊢
    generalize passed.foldl (fun w p => ctx.declareInherited c p.1 w p.2)
      (c.methods.foldl (ctx.declareOwn main c) Walk.start) = w at ih hkey ⊢
    have hstep : ctx.Inherits c p.1 p.2 w (ctx.declareInherited c p.1 w p.2) :=
      inherits_declareInherited ctx c p.1 p.2 w
    rcases hstep.settled key hkey with hkey | ⟨rfl, htaken⟩
    · rcases ih key hkey with ⟨m, hm, hsame, hdeclared⟩ | ⟨q, hq, hrest⟩
      · exact .inl ⟨m, hm, hsame, hdeclared.mono hstep.le⟩
      · exact .inr ⟨q, List.mem_append_left _ hq, hrest⟩
    · exact .inr ⟨p, by simp, rfl, htaken⟩

/-! ## The whole walk -/

theorem tried_of_signal (main : Bool) (hm : m ∈ c.methods) (hrole : m.role = .signal) :
    ∀ v ∈ ctx.signalViews m, (ctx.declarationWalk main c).Tried v := by
  intro v hv
  refine walk_own (P := fun w : Walk Declaration => w.Tried v) hm
    (fun w => tried_signal hrole main c w v hv) (fun m _ w hw => ?_) (fun base _ m _ w hw => ?_) _
  · exact hw.mono (contributes_declareOwn main c m w).le
  · exact hw.mono (inherits_declareInherited ctx c base m w).le

theorem tried_of_own (main : Bool) {before after : List Method}
    (hsplit : c.methods = before ++ m :: after) (hrole : m.role ≠ .signal) :
    TriedMethod (ctx.declarationWalk main c) m ∨
      ∃ m' ∈ before, (View.of m').key = (View.of m).key ∧
        (ctx.declarationWalk main c).DeclaresMethod m' := by
  set w := before.foldl (ctx.declareOwn main c) Walk.start with hw
  have hle : (ctx.declareOwn main c w m).Le (ctx.declarationWalk main c) := by
    rw [declarationWalk_eq, hsplit, List.foldl_append, List.foldl_cons, ← hw]
    refine (Walk.le_foldl (fun w m => ?_) after _).trans (Walk.le_foldl (fun w p => ?_) _ _)
    · exact (contributes_declareOwn main c m w).le
    · exact (inherits_declareInherited ctx c p.1 p.2 w).le
  rcases tried_declareOwn hrole main c w with hsettled | htried
  · obtain ⟨m', hm', hsame, hdeclared⟩ := ownAccounted_foldl main c before _ hsettled
    have hstep : w.Le (ctx.declareOwn main c w m) := (contributes_declareOwn main c m w).le
    exact .inr ⟨m', hm', hsame, hdeclared.mono (hstep.trans hle)⟩
  · exact .inl (htried.mono hle)

/-- An inherited method is tried under the name of the class, unless the override is blocked, a
method of the class with its key was declared, or an earlier inherited one was taken over. -/
theorem tried_of_inherited (main : Bool) {before after : List (Class × Method)}
    (hsplit : ctx.inheritedMethods c = before ++ (base, m) :: after)
    (hinherit : isInheritable m = true) :
    (ctx.declarationWalk main c).Tried (inheritedView c m) ∨
      ctx.config.blocks m.name c.name = true ∨
      (∃ m' ∈ c.methods, (View.of m').key = (View.of m).key ∧
        (ctx.declarationWalk main c).DeclaresMethod m') ∨
      ∃ p ∈ before, (View.of p.2).key = (View.of m).key ∧ ctx.TakesOver c p.1 p.2 := by
  set w := before.foldl (fun w p => ctx.declareInherited c p.1 w p.2)
    (c.methods.foldl (ctx.declareOwn main c) Walk.start) with hw
  have hstep : ctx.Inherits c base m w (ctx.declareInherited c base w m) :=
    inherits_declareInherited ctx c base m w
  have hle : (ctx.declareInherited c base w m).Le (ctx.declarationWalk main c) := by
    rw [declarationWalk_eq, hsplit, List.foldl_append, List.foldl_cons, ← hw]
    exact Walk.le_foldl (fun w p => (inherits_declareInherited ctx c p.1 p.2 w).le) after _
  rcases hstep.tried hinherit with hsettled | hblocked | htried
  · rcases inheritedAccounted_foldl main c before _ hsettled with
      ⟨m', hm', hsame, hdeclared⟩ | htaken
    · exact .inr (.inr (.inl ⟨m', hm', hsame, hdeclared.mono (hstep.le.trans hle)⟩))
    · exact .inr (.inr (.inr htaken))
  · exact .inr (.inl hblocked)
  · exact .inl (htried.mono hle)

end Context

/-! ## Headers and ledgers -/

namespace Artifacts

variable {a : Artifacts} {c : Class}

/-- The wrappers that the header declares for a class. -/
def declaredFor (a : Artifacts) (c : Class) : List Declaration :=
  (a.header.classes.filter (·.name == c.name)).flatMap ClassHeader.declared

/-- The header declares a view for a class. -/
def Declares (a : Artifacts) (c : Class) (v : View) : Prop :=
  ∃ d ∈ a.declaredFor c, d.view = v

/-- The header declares a wrapper of a method for a class, under the class that the method belongs
to. -/
def DeclaresMethod (a : Artifacts) (c : Class) (m : Method) : Prop :=
  ∃ d ∈ a.declaredFor c, d.view.method = m ∧ d.view.owner = m.owner

/-- The ledger has an entry for a view. -/
def Records (a : Artifacts) (v : View) : Prop :=
  ∃ o, Skipped.ofView v o ∈ a.ledger.entries

end Artifacts

namespace Context

variable {ctx : Context} {module : String} {a : Artifacts} {c base : Class} {m : Method} {v : View}

lemma classHeader_of_generate (ha : ctx.generate module = .ok a)
    (hc : c ∈ ctx.registry.classesIn module) :
    (∀ d ∈ (ctx.classHeader (ctx.config.isMain module) c).declared, d ∈ a.declaredFor c) ∧
      ∀ s ∈ (ctx.classHeader (ctx.config.isMain module) c).skips, s ∈ a.ledger.entries := by
  obtain ⟨classes, hclasses, rfl⟩ := generate_eq_ok_iff.1 ha
  have hmem : c ∈ classes := (perm_of_emittedClasses hclasses).mem_iff.2 hc
  have hpart : ctx.classHeader (ctx.config.isMain module) c ∈
      (ctx.header module classes).classes := List.mem_map_of_mem hmem
  constructor
  · intro d hd
    refine List.mem_flatMap.2 ⟨_, List.mem_filter.2 ⟨hpart, ?_⟩, hd⟩
    simp [classHeader]
  · intro s hs
    simp only [Artifacts.ledger, Ledger.mem_merge, Ledger.mem_ofList]
    exact .inl (List.mem_flatMap.2 ⟨_, hpart, hs⟩)

lemma declared_of_supports (main : Bool) (hsupports : ctx.supports c = true) :
    (ctx.classHeader main c).declared = writtenItems (ctx.declarationWalk main c).outcomes ∧
      (ctx.classHeader main c).skips = skippedEntries (ctx.declarationWalk main c).outcomes := by
  have hcheck : ctx.checkClass c = .ok () := checkClass_eq_ok_iff.2 hsupports
  unfold ClassHeader.declared ClassHeader.skips classHeader
  rw [hcheck]
  exact ⟨rfl, rfl⟩

/-- A view that is tried is declared in the header or recorded in the ledger. -/
lemma declares_or_records (ha : ctx.generate module = .ok a)
    (hc : c ∈ ctx.registry.classesIn module) (hsupports : ctx.supports c = true)
    (htried : (ctx.declarationWalk (ctx.config.isMain module) c).Tried v) :
    a.Declares c v ∨ a.Records v := by
  obtain ⟨hdeclared, hskips⟩ := classHeader_of_generate ha hc
  obtain ⟨hwritten, hskipped⟩ := declared_of_supports (ctx.config.isMain module) hsupports
  rcases htried with ⟨d, hd, hview⟩ | ⟨o, ho⟩
  · exact .inl ⟨d, hdeclared d (hwritten ▸ hd), hview⟩
  · refine .inr ⟨o, hskips _ ?_⟩
    rw [hskipped]
    exact List.mem_filterMap.2 ⟨_, ho, rfl⟩

lemma declaresMethod_of_walk (ha : ctx.generate module = .ok a)
    (hc : c ∈ ctx.registry.classesIn module) (hsupports : ctx.supports c = true)
    (hdeclared : (ctx.declarationWalk (ctx.config.isMain module) c).DeclaresMethod m) :
    a.DeclaresMethod c m := by
  obtain ⟨d, hd, hview⟩ := hdeclared
  refine ⟨d, (classHeader_of_generate ha hc).1 d ?_, hview⟩
  rw [(declared_of_supports _ hsupports).1]
  exact hd

/-- Whatever is generated for a module, no class of it and no method that matters for one
disappears without a trace.  A class that fails its check is recorded as a whole.  In any other,
each view of a signal is declared or recorded; each other method is declared or recorded, unless a
method before it with the same key is declared; and each inheritable method of a supported base,
direct or not, is declared or recorded under the name of the class, unless it is blocked there, a
method of the class with the same key is declared, or an inherited one with the same key is taken
over first. -/
theorem declared_or_recorded (ha : ctx.generate module = .ok a)
    (hc : c ∈ ctx.registry.classesIn module) :
    (∀ o, ctx.checkClass c = .error o → Skipped.ofClass c.name o ∈ a.ledger.entries) ∧
    (ctx.supports c = true →
      (∀ m ∈ c.methods, m.role = .signal → ∀ v ∈ ctx.signalViews m,
        a.Declares c v ∨ a.Records v) ∧
      (∀ before m after, c.methods = before ++ m :: after → m.role ≠ .signal →
        a.DeclaresMethod c m ∨
        (∃ o, ⟨m.owner, m.name, m.overload, .plain, o⟩ ∈ a.ledger.entries) ∨
        ∃ m' ∈ before, (View.of m').key = (View.of m).key ∧ a.DeclaresMethod c m') ∧
      ∀ base ∈ ctx.registry.classes, Relation.TransGen ctx.registry.HasBase c.name base.name →
        base.name ≠ c.name → ctx.supports base = true → ∀ m ∈ base.methods,
        isInheritable m = true →
          a.Declares c (inheritedView c m) ∨ a.Records (inheritedView c m) ∨
          ctx.config.blocks m.name c.name = true ∨
          (∃ m' ∈ c.methods, (View.of m').key = (View.of m).key ∧ a.DeclaresMethod c m') ∨
          ∃ before after, ctx.inheritedMethods c = before ++ (base, m) :: after ∧
            ∃ p ∈ before, (View.of p.2).key = (View.of m).key ∧ ctx.TakesOver c p.1 p.2) := by
  refine ⟨fun o ho => ?_, fun hsupports => ⟨?_, ?_, ?_⟩⟩
  · refine (classHeader_of_generate ha hc).2 _ ?_
    simp [ClassHeader.skips, classHeader, ho, Except.map]
  · intro m hm hrole v hv
    exact declares_or_records ha hc hsupports (tried_of_signal _ hm hrole v hv)
  · intro before m after hsplit hrole
    rcases tried_of_own (ctx.config.isMain module) hsplit hrole with
      ⟨v, rfl, howner, hdirection, htried⟩ | ⟨m', hm', hsame, hd⟩
    · rcases declares_or_records ha hc hsupports htried with ⟨d, hd, rfl⟩ | ⟨o, ho⟩
      · exact .inl ⟨d, hd, rfl, howner⟩
      · refine .inr (.inl ⟨o, ?_⟩)
        rwa [Skipped.ofView, howner, hdirection] at ho
    · exact .inr (.inr ⟨m', hm', hsame, declaresMethod_of_walk ha hc hsupports hd⟩)
  · intro base hbase hchain hother hbaseSupports m hm hinherit
    have hmem : (base, m) ∈ ctx.inheritedMethods c := by
      have hsupported : base ∈ ctx.supportedBases c :=
        mem_supportedBases_iff.2 ⟨hbase, hbaseSupports, hother, hchain⟩
      exact List.mem_flatMap.2 ⟨base, hsupported, List.mem_map_of_mem hm⟩
    obtain ⟨before, after, hsplit⟩ := List.append_of_mem hmem
    rcases tried_of_inherited (ctx.config.isMain module) hsplit hinherit with
      htried | hblocked | ⟨m', hm', hsame, hdeclared⟩ | htaken
    · rcases declares_or_records ha hc hsupports htried with hdeclares | hrecords
      · exact .inl hdeclares
      · exact .inr (.inl hrecords)
    · exact .inr (.inr (.inl hblocked))
    · exact .inr (.inr (.inr (.inl
        ⟨m', hm', hsame, declaresMethod_of_walk ha hc hsupports hdeclared⟩)))
    · exact .inr (.inr (.inr (.inr ⟨before, after, hsplit, htaken⟩)))

end Context

/-- In the sample, each view of a signal of `QTimer` is declared or recorded: the private signal
`timeout` in its two directions. -/
theorem declared_or_recorded_sample :
    ∃ a, Sample.context.generate "QtCore" = .ok a ∧
      ∀ m ∈ Sample.timer.methods, m.role = .signal → ∀ v ∈ Sample.context.signalViews m,
        a.Declares Sample.timer v ∨ a.Records v := by
  have hok : (Sample.context.generate "QtCore").isOk = true := by decide +kernel
  obtain ⟨a, ha⟩ := isOk_iff_exists.1 hok
  have htimer : Sample.timer ∈ Sample.context.registry.classesIn "QtCore" := by decide +kernel
  have hsupports : Sample.context.supports Sample.timer = true := by decide +kernel
  exact ⟨a, ha, ((Context.declared_or_recorded ha htimer).2 hsupports).1⟩

end Bindery
