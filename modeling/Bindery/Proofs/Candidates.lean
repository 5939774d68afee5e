import Mathlib.Tactic.Lemma
import Bindery.Proofs.Checks
import Bindery.Proofs.Walkers

/-!
# The views that a class tries

Which views a walk tries depends on the shape of the methods alone, which of them it writes depends
on their checks and on the symbols that are taken.  `Context.Candidate` is the first half: one
constructor for each line of a walk that tries a view, with the tests that lead there.  All requests
of the walks that declare and define are for candidates, whatever states they go over
(`Walker.Simulates.declarations`, `Walker.Simulates.bodies`).  The second half is what a written
declaration or body has passed (`Context.Declares`, `Context.Defines`).

A claim about everything that a class declares or defines is then a claim about the eight kinds of
candidates, and needs no walk.
-/

namespace Bindery

/-- The views that the header and the implementation try for the class `c`, each with the class that
its check speaks of. -/
inductive Context.Candidate (ctx : Context) (main : Bool) (c : Class) : Class → View → Prop
  /-- A signal is connected and disconnected. -/
  | hook {m : Method} {d : Direction} (hm : m ∈ c.methods) (hrole : m.role = .signal)
      (hd : d.isHook = true) : ctx.Candidate main c c ((View.of m).toward d)
  /-- A signal that is not private is emitted. -/
  | emit {m : Method} (hm : m ∈ c.methods) (hrole : m.role = .signal)
      (hpublic : ctx.isPrivateSignal m = false) : ctx.Candidate main c c (View.of m).plain
  /-- A virtual method with an implementation is called. -/
  | virtual {m : Method} (hm : m ∈ c.methods) (hrole : m.role ≠ .signal)
      (himpure : m.isImpure = true) (hstructor : m.role.isStructor = false) :
      ctx.Candidate main c c (View.of m).plain
  /-- Its default is called, where a generated subclass may override it. -/
  | default {m : Method} (hm : m ∈ c.methods) (hrole : m.role ≠ .signal)
      (himpure : m.isImpure = true) (hstructor : m.role.isStructor = false)
      (hvoid : m.returnsVoid = true) (hmain : main = false)
      (hfree : ctx.config.blocks m.name c.name = false) :
      ctx.Candidate main c c (View.of m).plain.forwardDefault
  /-- An instantiation of a member template is called. -/
  | instance {m : Method} {i : Instantiation} (hm : m ∈ c.methods) (hrole : m.role ≠ .signal)
      (hi : i ∈ m.instantiations) : ctx.Candidate main c c ((View.of m).instantiate i)
  /-- Any other method is called. -/
  | member {m : Method} (hm : m ∈ c.methods) (hrole : m.role ≠ .signal) :
      ctx.Candidate main c c (View.of m)
  /-- A virtual method of a base is called under the name of the class. -/
  | inherited {base : Class} {m : Method} (hbase : base ∈ ctx.supportedBases c)
      (hm : m ∈ base.methods) (hinherit : isInheritable m = true)
      (hfree : ctx.config.blocks m.name c.name = false) :
      ctx.Candidate main c base ((View.of m).plain.retarget c.name)
  /-- So is its default. -/
  | inheritedDefault {base : Class} {m : Method} (hbase : base ∈ ctx.supportedBases c)
      (hm : m ∈ base.methods) (hinherit : isInheritable m = true)
      (hfree : ctx.config.blocks m.name c.name = false) :
      ctx.Candidate main c base ((View.of m).plain.retarget c.name).forwardDefault

namespace Context

variable {ctx : Context} {main : Bool} {c subject base : Class} {v : View} {m : Method}

namespace Candidate

theorem isHook_iff (h : ctx.Candidate main c subject v) :
    v.direction.isHook = true ↔ v.role = .signal := by
  cases h with
  | hook hm hrole hd => exact iff_of_true hd hrole
  | «instance» hm hrole hi => exact iff_of_false nofun hrole
  | member hm hrole => exact iff_of_false nofun hrole
  | emit | virtual | default | inherited | inheritedDefault => exact iff_of_false nofun nofun

theorem exists_signal (h : ctx.Candidate main c subject v) (hd : v.direction.isHook = true) :
    subject = c ∧ ∃ m ∈ c.methods, m.role = .signal ∧ v = (View.of m).toward v.direction := by
  have hrole : v.role = .signal := h.isHook_iff.1 hd
  cases h with
  | hook hm hs hd' => exact ⟨rfl, _, hm, hs, rfl⟩
  | «instance» hm hs hi => exact absurd hrole hs
  | member hm hs => exact absurd hrole hs
  | emit | virtual | default | inherited | inheritedDefault => cases hrole

theorem direction_eq_plain (h : ctx.Candidate main c subject v) (hrole : v.role ≠ .signal) :
    v.direction = .plain := by
  cases h with
  | hook hm hs hd => exact absurd hs hrole
  | emit | virtual | default | «instance» | member | inherited | inheritedDefault => rfl

end Candidate

end Context

/-! ## The requests of a walk -/

/-- A request for a candidate. -/
def DeclareRequest.IsCandidate (ctx : Context) (main : Bool) (c : Class) (r : DeclareRequest) :
    Prop :=
  ctx.Candidate main c r.subject r.view

/-- A request for the body of a candidate. -/
def DefineRequest.IsCandidate (ctx : Context) (main : Bool) (c : Class) (r : DefineRequest) :
    Prop :=
  ctx.Candidate main c r.subject r.view

namespace Walker

open Context

variable {σ τ : Type} {R : σ → τ → Prop} {s : σ} {t : τ} {ctx : Context} {main : Bool}
  {c base : Class} {m : Method}

namespace Simulates

section
variable {S : Walker DeclareRequest σ} {T : Walker DeclareRequest τ}

lemma declareVirtual (h : S.Simulates T (·.IsCandidate ctx main c) R) (hm : m ∈ c.methods)
    (hrole : m.role ≠ .signal) (himpure : m.isImpure = true) (hstructor : m.role.isStructor = false)
    (hst : R s t) : R (S.declareVirtual ctx main c s m) (T.declareVirtual ctx main c t m) := by
  unfold Walker.declareVirtual
  simp only [h.isSettled hst]
  split
  · exact hst
  have hvirtual : (⟨c, (View.of m).plain⟩ : DeclareRequest).IsCandidate ctx main c :=
    .virtual hm hrole himpure hstructor
  refine h.attemptThen hvirtual hst fun s t hst => ?_
  have hst := h.settle hst (View.of m).plain.key
  split
  next hguard =>
    simp only [Bool.and_eq_true, Bool.not_eq_true'] at hguard
    obtain ⟨⟨hmain, hvoid⟩, hfree⟩ := hguard
    exact (h.attempt (r := ⟨c, (View.of m).plain.forwardDefault⟩)
      (.default hm hrole himpure hstructor hvoid hmain hfree) hst).1
  next => exact hst

theorem declareOwn (h : S.Simulates T (·.IsCandidate ctx main c) R) (hm : m ∈ c.methods)
    (hst : R s t) : R (S.declareOwn ctx main c s m) (T.declareOwn ctx main c t m) := by
  unfold Walker.declareOwn
  simp only [h.isSettled hst]
  split
  next hs =>
    have hrole : m.role = .signal := by simpa using hs
    have hconnect := h.attemptSettling (r := ⟨c, (View.of m).toward .connect⟩)
      (.hook hm hrole rfl) hst (View.of m).key
    have hboth := h.attemptSettling (r := ⟨c, (View.of m).toward .disconnect⟩)
      (.hook hm hrole rfl) hconnect (View.of m).key
    split
    next => exact hboth
    next hpublic =>
      have hpublic : ctx.isPrivateSignal m = false := by simpa using hpublic
      exact (h.attempt (r := ⟨c, (View.of m).plain⟩) (.emit hm hrole hpublic) hboth).1
  next hs =>
  have hrole : m.role ≠ .signal := by simpa using hs
  split
  next hvirtual =>
    simp only [Bool.and_eq_true, Bool.not_eq_true'] at hvirtual
    exact h.declareVirtual hm hrole hvirtual.1 hvirtual.2 hst
  split
  · refine List.foldl_rel hst fun i hi s t hst => ?_
    exact (h.attempt (r := ⟨c, (View.of m).instantiate i⟩) (.instance hm hrole hi) hst).1
  split
  · exact hst
  · exact h.attemptSettling (r := ⟨c, View.of m⟩) (.member hm hrole) hst _

theorem declareInherited (h : S.Simulates T (·.IsCandidate ctx main c) R)
    (hbase : base ∈ ctx.supportedBases c) (hm : m ∈ base.methods) (hst : R s t) :
    R (S.declareInherited ctx c base s m) (T.declareInherited ctx c base t m) := by
  unfold Walker.declareInherited
  simp only [h.isSettled hst]
  split
  · exact hst
  next hinherit =>
  simp only [Bool.or_eq_true, Bool.not_eq_true', not_or, Bool.not_eq_false] at hinherit
  split
  · exact h.skip hst _ _
  have hst := h.settle hst ((View.of m).plain.retarget c.name).key
  split
  · exact hst
  next hfree =>
  have hfree : ctx.config.blocks m.name c.name = false := by simpa using hfree
  have hplain : ctx.Candidate main c base ((View.of m).plain.retarget c.name) :=
    .inherited hbase hm hinherit.1 hfree
  have hdefault : ctx.Candidate main c base ((View.of m).plain.retarget c.name).forwardDefault :=
    .inheritedDefault hbase hm hinherit.1 hfree
  exact (h.attempt (r := ⟨base, _⟩) hdefault (h.attempt (r := ⟨base, _⟩) hplain hst).1).1

/-- What the attempts at candidates keep related, the walk that declares keeps related. -/
theorem declarations (h : S.Simulates T (·.IsCandidate ctx main c) R) (hst : R s t) :
    R (ctx.walk c (S.declareOwn ctx main c) (S.declareInherited ctx c) s)
      (ctx.walk c (T.declareOwn ctx main c) (T.declareInherited ctx c) t) :=
  walk_rel hst (fun _ hm _ _ hst => h.declareOwn hm hst)
    fun _ hbase _ hm _ _ hst => h.declareInherited hbase hm hst

end

section
variable {S : Walker DefineRequest σ} {T : Walker DefineRequest τ}

lemma defineMember (h : S.Simulates T (·.IsCandidate ctx main c) R) (hm : m ∈ c.methods)
    (hrole : m.role ≠ .signal) (hst : R s t) :
    R (S.defineMember ctx main c s m) (T.defineMember ctx main c t m) := by
  unfold Walker.defineMember
  cases hvirtual : m.isImpure && !m.role.isStructor with
  | true =>
    simp only [Bool.and_eq_true, Bool.not_eq_true'] at hvirtual
    simp only [if_true, Bool.true_and]
    refine h.attemptThen (r := ⟨c, (View.of m).plain, _, none⟩)
      (.virtual hm hrole hvirtual.1 hvirtual.2) hst fun s t hst => ?_
    have hst := h.settle hst (View.of m).plain.key
    split
    next hguard =>
      simp only [Bool.and_eq_true, Bool.not_eq_true'] at hguard
      obtain ⟨⟨hvoid, hmain⟩, hfree⟩ := hguard
      exact (h.attempt (r := ⟨c, (View.of m).plain.forwardDefault, c.name, some c.name⟩)
        (.default hm hrole hvirtual.1 hvirtual.2 hvoid hmain hfree) hst).1
    next => exact hst
  | false =>
    simp only [Bool.false_and, Bool.false_eq_true, if_false]
    exact h.attemptSettling (r := ⟨c, View.of m, c.name, none⟩) (.member hm hrole) hst _

theorem defineOwn (h : S.Simulates T (·.IsCandidate ctx main c) R) (hm : m ∈ c.methods)
    (hst : R s t) : R (S.defineOwn ctx main c s m) (T.defineOwn ctx main c t m) := by
  unfold Walker.defineOwn
  simp only [h.isSettled hst]
  split
  next hs =>
    have hrole : m.role = .signal := by simpa using hs
    have hconnect := h.attemptSettling (r := ⟨c, (View.of m).toward .connect, c.name, none⟩)
      (.hook hm hrole rfl) hst (View.of m).key
    have hboth := h.attemptSettling (r := ⟨c, (View.of m).toward .disconnect, c.name, none⟩)
      (.hook hm hrole rfl) hconnect (View.of m).key
    split
    next => exact hboth
    next hpublic =>
      have hpublic : ctx.isPrivateSignal m = false := by simpa using hpublic
      exact (h.attempt (r := ⟨c, (View.of m).plain, c.name, none⟩) (.emit hm hrole hpublic) hboth).1
  next hs =>
  have hrole : m.role ≠ .signal := by simpa using hs
  split
  · refine List.foldl_rel hst fun i hi s t hst => ?_
    exact (h.attempt (r := ⟨c, (View.of m).instantiate i, c.name, none⟩)
      (.instance hm hrole hi) hst).1
  split
  · exact hst
  · exact h.defineMember hm hrole hst

theorem defineInherited (h : S.Simulates T (·.IsCandidate ctx main c) R)
    (hbase : base ∈ ctx.supportedBases c) (hm : m ∈ base.methods) (hst : R s t) :
    R (S.defineInherited ctx main c base s m) (T.defineInherited ctx main c base t m) := by
  unfold Walker.defineInherited
  simp only [h.isSettled hst]
  split
  · exact hst
  next hinherit =>
  simp only [Bool.or_eq_true, Bool.not_eq_true', not_or, Bool.not_eq_false] at hinherit
  split
  · exact h.skip hst _ _
  have hst := h.settle hst ((View.of m).plain.retarget c.name).key
  split
  · exact hst
  next hfree =>
  have hfree : ctx.config.blocks m.name c.name = false := by simpa using hfree
  have hplain : ctx.Candidate main c base ((View.of m).plain.retarget c.name) :=
    .inherited hbase hm hinherit.1 hfree
  have hdefault : ctx.Candidate main c base ((View.of m).plain.retarget c.name).forwardDefault :=
    .inheritedDefault hbase hm hinherit.1 hfree
  exact (h.attempt (r := ⟨base, _, _, _⟩) hdefault
    (h.attempt (r := ⟨base, _, _, _⟩) hplain hst).1).1

theorem bodies (h : S.Simulates T (·.IsCandidate ctx main c) R) (hst : R s t) :
    R (ctx.walk c (S.defineOwn ctx main c) (S.defineInherited ctx main c) s)
      (ctx.walk c (T.defineOwn ctx main c) (T.defineInherited ctx main c) t) :=
  walk_rel hst (fun _ hm _ _ hst => h.defineOwn hm hst)
    fun _ hbase _ hm _ _ hst => h.defineInherited hbase hm hst

end

end Simulates

namespace Preserves

variable {I : σ → Prop}

lemma declareOwn {W : Walker DeclareRequest σ} (h : W.Preserves (·.IsCandidate ctx main c) I)
    (hm : m ∈ c.methods) (hs : I s) : I (W.declareOwn ctx main c s m) :=
  (h.simulates.declareOwn hm ⟨rfl, hs⟩).2

lemma declareInherited {W : Walker DeclareRequest σ}
    (h : W.Preserves (·.IsCandidate ctx main c) I) (hbase : base ∈ ctx.supportedBases c)
    (hm : m ∈ base.methods) (hs : I s) : I (W.declareInherited ctx c base s m) :=
  (h.simulates.declareInherited hbase hm ⟨rfl, hs⟩).2

theorem declarations {W : Walker DeclareRequest σ} (h : W.Preserves (·.IsCandidate ctx main c) I)
    (hs : I s) : I (ctx.walk c (W.declareOwn ctx main c) (W.declareInherited ctx c) s) :=
  (h.simulates.declarations ⟨rfl, hs⟩).2

theorem bodies {W : Walker DefineRequest σ} (h : W.Preserves (·.IsCandidate ctx main c) I)
    (hs : I s) : I (ctx.walk c (W.defineOwn ctx main c) (W.defineInherited ctx main c) s) :=
  (h.simulates.bodies ⟨rfl, hs⟩).2

end Preserves

end Walker

namespace Context

variable {ctx : Context} {main : Bool} {c subject : Class} {v : View}

/-! ## Declarations -/

/-- A declaration of the class: that of a candidate which passed its check. -/
def Declares (ctx : Context) (main : Bool) (c : Class) (d : Declaration) : Prop :=
  ∃ subject, ctx.Candidate main c subject d.view ∧ ctx.checkMethod subject d.view = .ok () ∧
    ctx.prototype d.view = .ok d.prototype

lemma declaration_eq_ok_iff {taken : List String} {d : Declaration} :
    ctx.declaration taken c v = .ok d ↔ d.view = v ∧ ctx.checkMethod c v = .ok () ∧
      ctx.prototype v = .ok d.prototype ∧ d.prototype.symbol ∉ taken := by
  cases d with
  | mk view q =>
  simp only [declaration, bind_eq_ok, exists_unit_iff]
  constructor
  · rintro ⟨hcheck, symbol, hsymbol, h⟩
    by_cases ht : symbol ∈ taken
    · simp [ht] at h
    simp only [ht, List.contains_eq_mem, decide_false, Bool.false_eq_true, if_false, bind_eq_ok,
      pure_eq_ok] at h
    obtain ⟨q', hq, h⟩ := h
    obtain ⟨rfl, rfl⟩ := Declaration.mk.inj h
    have hsame : symbol = q'.symbol := by
      have hq' := (prototype_eq_ok_iff.1 hq).1
      rw [hsymbol] at hq'
      exact Except.ok.inj hq'
    exact ⟨rfl, hcheck, hq, hsame ▸ ht⟩
  · rintro ⟨rfl, hcheck, hq, ht⟩
    refine ⟨hcheck, q.symbol, (prototype_eq_ok_iff.1 hq).1, ?_⟩
    simp only [ht, List.contains_eq_mem, decide_false, Bool.false_eq_true, if_false, bind_eq_ok,
      pure_eq_ok]
    exact ⟨q, hq, rfl⟩

/-- An attempt at a candidate adds a declaration of the class or none. -/
lemma preserves_declares (ctx : Context) (main : Bool) (c : Class) :
    ctx.declaring.Preserves (·.IsCandidate ctx main c) (·.AllWritten (ctx.Declares main c)) where
  settle hw _ := hw
  skip hw _ _ := Walk.allWritten_skip.2 hw
  attempt {w r} hr hw := by
    show (ctx.declare r.subject r.view w).1.AllWritten (ctx.Declares main c)
    unfold declare
    cases hd : ctx.declaration w.symbols r.subject r.view with
    | error e => simpa using hw
    | ok d =>
      obtain ⟨hview, hcheck, hq, -⟩ := declaration_eq_ok_iff.1 hd
      rw [← hview] at hcheck hq
      exact Walk.allWritten_claim.2 ⟨hw, r.subject, hview ▸ hr, hcheck, hq⟩

/-- Everything that a class declares is the declaration of a candidate. -/
theorem declares_of_mem {d : Declaration} (hd : d ∈ writtenItems (ctx.declarations main c)) :
    ctx.Declares main c d := by
  have h := (preserves_declares ctx main c).declarations Walk.allWritten_start
  rw [walk_declaring] at h
  exact h d hd

/-! ## Bodies -/

/-- A body of the class: that of a candidate which passed its check, with one of its statements. -/
def Defines (ctx : Context) (main : Bool) (c : Class) (b : Body) : Prop :=
  ∃ subject, ctx.Candidate main c subject b.view ∧ ctx.checkMethod subject b.view = .ok () ∧
    ctx.prototype b.view = .ok b.prototype ∧
    ∃ cast qualifier, ctx.statement subject b.view cast qualifier = .ok b.statement

/-- A body is a declaration to which a statement was found. -/
lemma body_eq_bind (taken : List String) (c : Class) (v : View) (cast : String)
    (qualifier : Option String) :
    ctx.body taken c v cast qualifier = (ctx.declaration taken c v >>= fun d =>
      (ctx.statement c v cast qualifier).map fun s => ⟨d.view, d.prototype, s⟩) := by
  unfold body declaration
  cases ctx.checkMethod c v with
  | error e => rfl
  | ok u =>
    cases v.linkageSymbol with
    | error e => rfl
    | ok symbol =>
      by_cases ht : symbol ∈ taken
      · simp [bind, Except.bind, ht]
      · cases ctx.prototype v with
        | error e => simp [bind, Except.bind, ht]
        | ok q =>
          cases ctx.statement c v cast qualifier <;>
            simp [bind, Except.bind, Except.map, ht, pure, Except.pure]

lemma preserves_defines (ctx : Context) (main : Bool) (c : Class) :
    ctx.defining.Preserves (·.IsCandidate ctx main c) (·.AllWritten (ctx.Defines main c)) where
  settle hw _ := hw
  skip hw _ _ := Walk.allWritten_skip.2 hw
  attempt {w r} hr hw := by
    show (ctx.define r.subject r.view r.cast r.qualifier w).1.AllWritten (ctx.Defines main c)
    unfold define
    cases hb : ctx.body w.symbols r.subject r.view r.cast r.qualifier with
    | error e => simpa using hw
    | ok b =>
      rw [body_eq_bind, bind_eq_ok] at hb
      obtain ⟨d, hd, hb⟩ := hb
      obtain ⟨hview, hcheck, hq, -⟩ := declaration_eq_ok_iff.1 hd
      rw [← hview] at hcheck hq hb
      obtain ⟨s, hs, rfl⟩ := map_eq_ok.1 hb
      exact Walk.allWritten_claim.2
        ⟨hw, r.subject, hview ▸ hr, hcheck, hq, r.cast, r.qualifier, hs⟩

theorem defines_of_mem {b : Body} (hb : b ∈ writtenItems (ctx.bodies main c)) :
    ctx.Defines main c b := by
  have h := (preserves_defines ctx main c).bodies Walk.allWritten_start
  rw [walk_defining] at h
  exact h b hb

end Context

end Bindery
