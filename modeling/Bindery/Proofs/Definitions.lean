import Mathlib.Tactic.Lemma
import Bindery.Generator
import Bindery.Proofs.Candidates
import Bindery.Proofs.Order
import Bindery.Proofs.Sample

/-!
# Every declared function is defined

The header and the implementation of a module walk over the same classes, each with its own
symbols, its own keys and its own order of tests.  A body differs from a declaration only in the
statement that it adds, so the walk that defines, seen through `Body.declaration`, is the walk that
declares (`map_define`, `map_defineOwn`, `map_defineInherited`).  The statement is made after the
symbol was claimed and could still fail; `statement_isOk` says that it never does.

The one shape of method on which the two walks part is a member template that is virtual with an
implementation (`Method.isVirtualTemplate`): the header looks at the dispatch first, the
implementation at the template.
-/

namespace Bindery

/-- Whether a method is a member template and at the same time virtual with an implementation.
Signals, constructors and destructors are looked at as such before either. -/
def Method.isVirtualTemplate (m : Method) : Bool :=
  m.role != .signal && !m.role.isStructor && m.isImpure && m.isGeneric

/-- A view whose C function has a statement: where a signal is looked at as a signal, the view has
to connect or disconnect. -/
def View.HasStatement (v : View) : Prop :=
  v.role = .signal → v.direction.isHook = true

lemma View.hasStatement_of_ne {v : View} (h : v.role ≠ .signal) : v.HasStatement :=
  fun hs => absurd hs h

lemma View.hasStatement_toward {v : View} {d : Direction} (h : d.isHook = true) :
    (v.toward d).HasStatement :=
  fun _ => h

lemma Context.Candidate.hasStatement {ctx : Context} {main : Bool} {c subject : Class} {v : View}
    (h : ctx.Candidate main c subject v) : v.HasStatement :=
  h.isHook_iff.2

/-- The declaration that a body defines. -/
def Body.declaration (b : Body) : Declaration :=
  ⟨b.view, b.prototype⟩

namespace Context

variable {ctx : Context} {c : Class} {v : View} {main : Bool} {m : Method} {w : Walk Body}

/-! ## Statements never fail -/

lemma callStatement_isOk {q : Prototype} (hq : ctx.prototype v = .ok q)
    (hdir : v.direction.isHook = false) (hrole : v.role ≠ .signal)
    (cast : String) (qualifier : Option String) :
    ∃ s, ctx.callStatement c v cast qualifier = .ok s := by
  obtain ⟨-, hout, hparams⟩ := prototype_isOk_iff.1 ⟨q, hq⟩
  obtain ⟨k, hk⟩ := hout hdir
  obtain ⟨args, hargs⟩ : ∃ args, ctx.callArguments v = .ok args := by
    refine mapM_isOk_iff.2 fun p hp => callArgument_isOk_iff.2 ?_
    obtain ⟨k, hk, -⟩ := hparams hrole p hp
    exact ⟨k, hk⟩
  refine ⟨⟨ctx.callee c v cast qualifier, args, k⟩, ?_⟩
  rw [callStatement, hargs, hk]
  rfl

/-- A view that has a C function has a statement, unless it is a plain view of a signal that was
not made plain. -/
theorem statement_isOk {q : Prototype} (hq : ctx.prototype v = .ok q)
    (hv : v.HasStatement)
    (cast : String) (qualifier : Option String) :
    ∃ s, ctx.statement c v cast qualifier = .ok s := by
  unfold statement
  cases hdir : v.direction.isHook with
  | true => simp
  | false =>
    have hne : v.role ≠ .signal := fun h => by simp [hv h] at hdir
    obtain ⟨s, hs⟩ := callStatement_isOk (c := c) hq hdir hne cast qualifier
    exact ⟨.call s, by simp [hs, Except.map]⟩

/-! ## The two walks step by step -/

lemma map_body (hv : v.HasStatement) (taken : List String)
    (cast : String) (qualifier : Option String) :
    (ctx.body taken c v cast qualifier).map Body.declaration = ctx.declaration taken c v := by
  rw [body_eq_bind]
  cases hd : ctx.declaration taken c v with
  | error e => rfl
  | ok d =>
    obtain ⟨hview, -, hq, -⟩ := declaration_eq_ok_iff.1 hd
    obtain ⟨s, hs⟩ := statement_isOk (c := c) hq hv cast qualifier
    rw [ok_bind, hs]
    rfl

/-- An attempt to define a view, seen through its declaration, is the attempt to declare it. -/
theorem map_define (hv : v.HasStatement)
    (cast : String) (qualifier : Option String) (w : Walk Body) :
    ctx.declare c v (w.map Body.declaration) =
      ((ctx.define c v cast qualifier w).1.map Body.declaration,
        (ctx.define c v cast qualifier w).2) := by
  have h : (ctx.body w.symbols c v cast qualifier).map Body.declaration =
      ctx.declaration w.symbols c v := map_body hv w.symbols cast qualifier
  unfold declare define
  rw [Walk.symbols_map, ← h]
  cases ctx.body w.symbols c v cast qualifier with
  | error e => simp [Except.map]
  | ok b => simp [Except.map, Body.declaration]

lemma map_define_fst (hv : v.HasStatement)
    (cast : String) (qualifier : Option String) (w : Walk Body) :
    (ctx.define c v cast qualifier w).1.map Body.declaration =
      (ctx.declare c v (w.map Body.declaration)).1 := by
  rw [map_define hv cast qualifier]

lemma map_defineSettling (hv : v.HasStatement) (w : Walk Body) :
    (ctx.defineSettling c w v).map Body.declaration =
      ctx.declareSettling c (w.map Body.declaration) v := by
  unfold defineSettling declareSettling
  rw [map_define hv c.name none]
  obtain ⟨w', defined⟩ := ctx.define c v c.name none w
  cases defined <;> rfl

lemma map_defineSignal (w : Walk Body) :
    (ctx.defineSignal c w m).map Body.declaration =
      ctx.declareSignal c (w.map Body.declaration) m := by
  have hconnect : ((View.of m).toward .connect).HasStatement := View.hasStatement_toward rfl
  have hdisconnect : ((View.of m).toward .disconnect).HasStatement := View.hasStatement_toward rfl
  have hplain : (View.of m).plain.HasStatement := View.hasStatement_of_ne (by simp [View.plain])
  unfold defineSignal declareSignal
  simp only [List.foldl_cons, List.foldl_nil]
  cases ctx.isPrivateSignal m with
  | true =>
    simp only [if_true]
    rw [map_defineSettling hdisconnect, map_defineSettling hconnect]
  | false =>
    simp only [Bool.false_eq_true, if_false]
    rw [map_define_fst hplain, map_defineSettling hdisconnect, map_defineSettling hconnect]

lemma map_defineMember_virtual (hv : (m.isImpure && !m.role.isStructor) = true)
    (hs : w.isSettled (View.of m).key = false) :
    (ctx.defineMember main c w m).map Body.declaration =
      ctx.declareVirtual main c (w.map Body.declaration) m := by
  have hplain : (View.of m).plain.HasStatement := View.hasStatement_of_ne (by simp [View.plain])
  have hdefault : (View.of m).plain.forwardDefault.HasStatement :=
    View.hasStatement_of_ne (by simp [View.plain, View.forwardDefault])
  have hsettled : (w.map Body.declaration).isSettled (View.of m).plain.key = false := hs
  unfold defineMember declareVirtual
  simp only [hv, hsettled, if_true, Bool.true_and, Bool.false_eq_true, if_false]
  generalize (if (m.returnsVoid && !main && !ctx.config.blocks m.name c.name
    && ctx.generatesSubclass c) = true then ctx.subclassName c else c.name) = cast
  rw [map_define hplain cast none]
  obtain ⟨w', defined⟩ := ctx.define c (View.of m).plain cast none w
  cases defined with
  | false => rfl
  | true =>
    have hguard : (m.returnsVoid && !main && !ctx.config.blocks m.name c.name) =
        (!main && m.returnsVoid && !ctx.config.blocks m.name c.name) := by
      rw [Bool.and_comm m.returnsVoid]
    simp only [hguard]
    split
    · rw [map_define_fst hdefault, Walk.map_settle]
    · rfl

lemma map_defineMember_direct (hv : (m.isImpure && !m.role.isStructor) = false)
    (hrole : m.role ≠ .signal) :
    (ctx.defineMember main c w m).map Body.declaration =
      ctx.declareSettling c (w.map Body.declaration) (View.of m) := by
  have hof : (View.of m).HasStatement := View.hasStatement_of_ne hrole
  unfold defineMember declareSettling
  simp only [hv, Bool.false_and, Bool.false_eq_true, if_false]
  rw [map_define hof c.name none]
  obtain ⟨w', defined⟩ := ctx.define c (View.of m) c.name none w
  cases defined <;> rfl

lemma map_foldl_define (hrole : m.role ≠ .signal) (is : List Instantiation) (w : Walk Body) :
    (is.foldl (fun w i => (ctx.define c ((View.of m).instantiate i) c.name none w).1) w).map
        Body.declaration =
      is.foldl (fun w i => (ctx.declare c ((View.of m).instantiate i) w).1)
        (w.map Body.declaration) := by
  refine (List.foldl_hom (Walk.map Body.declaration) fun w i => ?_).symm
  have hof : ((View.of m).instantiate i).HasStatement := View.hasStatement_of_ne hrole
  rw [map_define_fst hof]

theorem map_defineOwn (hm : m.isVirtualTemplate = false) (w : Walk Body) :
    (ctx.defineOwn main c w m).map Body.declaration =
      ctx.declareOwn main c (w.map Body.declaration) m := by
  unfold defineOwn declareOwn
  by_cases hs : m.role = .signal
  · simp [hs, map_defineSignal]
  have hs' : (m.role == .signal) = false := by simpa using hs
  simp only [hs', Bool.false_eq_true, if_false, Walk.isSettled_map]
  cases hv : m.isImpure && !m.role.isStructor with
  | true =>
    -- the implementation would look for a template first, but the method is none
    have hg : m.isGeneric = false := by
      simp only [Bool.and_eq_true, Bool.not_eq_true'] at hv
      simpa [Method.isVirtualTemplate, hs, hv] using hm
    simp only [hg, Bool.false_eq_true, if_false, if_true]
    cases hsettled : w.isSettled (View.of m).key with
    | true =>
      have hkey : (w.map Body.declaration).isSettled (View.of m).plain.key = true := hsettled
      simp only [if_true, declareVirtual, hkey]
    | false =>
      simp only [Bool.false_eq_true, if_false]
      exact map_defineMember_virtual hv hsettled
  | false =>
    simp only [Bool.false_eq_true, if_false]
    by_cases hg : m.isGeneric = true
    · simp only [hg, if_true]
      exact map_foldl_define hs m.instantiations w
    · simp only [hg]
      by_cases hsettled : w.isSettled (View.of m).key = true
      · simp only [hsettled, if_true, Bool.false_eq_true, if_false]
      · simp only [hsettled, Bool.false_eq_true, if_false]
        exact map_defineMember_direct hv hs

theorem map_defineInherited (base : Class) (w : Walk Body) :
    (ctx.defineInherited main c base w m).map Body.declaration =
      ctx.declareInherited c base (w.map Body.declaration) m := by
  have hplain : ((View.of m).plain.retarget c.name).HasStatement :=
    View.hasStatement_of_ne (by simp [View.plain, View.retarget])
  have hdefault : ((View.of m).plain.retarget c.name).forwardDefault.HasStatement :=
    View.hasStatement_of_ne (by simp [View.plain, View.retarget, View.forwardDefault])
  unfold defineInherited declareInherited
  simp only [Walk.isSettled_map]
  split
  · rfl
  · cases ctx.checkMethod base ((View.of m).plain.retarget c.name) with
    | error e => simp
    | ok u =>
      simp only
      split
      · rfl
      · rw [map_define_fst hdefault, map_define_fst hplain, Walk.map_settle]

/-- The bodies of a class, seen through their declarations, are the declarations of the class: in
the same order, written and skipped alike. -/
theorem map_bodies (hc : ∀ m ∈ c.methods, m.isVirtualTemplate = false) :
    (ctx.bodies main c).map (Outcome.map Body.declaration) = ctx.declarations main c := by
  have h : (ctx.walk c (ctx.defineOwn main c) (ctx.defineInherited main c)
      Walk.start).map Body.declaration =
        ctx.walk c (ctx.declareOwn main c) (ctx.declareInherited c) Walk.start := by
    refine walk_rel (R := fun (w : Walk Body) w' => w.map Body.declaration = w') rfl ?_ ?_
    · rintro m hm w _ rfl
      exact map_defineOwn (hc m hm) w
    · rintro base - m - w _ rfl
      exact map_defineInherited base w
  exact congrArg Walk.outcomes h

end Context

/-! ## The functions of a module -/

/-- The C functions that a class declares, getters first, without the semicolons. -/
def ClassHeader.functions (h : ClassHeader) : List String :=
  h.getters.map ValueGetter.prototypeText ++ h.declared.map fun d => d.prototype.text

/-- The C functions that a class defines, getters first: what stands before the braces of each, and
the statement between them. -/
def ClassImplementation.functions (rootClass stringClass : String) (i : ClassImplementation) :
    List (String × String) :=
  i.getters.map (fun g => (g.prototypeText, "return " ++ g.owner ++ "::" ++ g.value)) ++
    i.defined.map fun b => (b.prototype.text, b.statement.text rootClass stringClass)

/-- The views of a class that were tried and skipped, each with the obstacle it met. -/
def ClassHeader.refusals (h : ClassHeader) : List (View × Obstacle) :=
  match h.wrappers with
  | .ok outcomes => Bindery.refusals outcomes
  | .error _ => []

/-- The C functions that a header declares, without the semicolons. -/
def Header.functions (h : Header) : List String :=
  h.classes.flatMap ClassHeader.functions

/-- The views that the classes of a header skip. -/
def Header.refusals (h : Header) : List (View × Obstacle) :=
  h.classes.flatMap ClassHeader.refusals

/-- The C functions that an implementation defines. -/
def Implementation.functions (i : Implementation) : List (String × String) :=
  i.classes.flatMap (ClassImplementation.functions i.rootClass i.stringClass)

/-- The views that the wrapper bodies of an implementation skip. -/
def Implementation.refusals (i : Implementation) : List (View × Obstacle) :=
  i.classes.flatMap fun k => Bindery.refusals k.bodies

lemma ClassHeader.lines_eq (h : ClassHeader) : h.lines = h.functions.map (· ++ ";") := by
  simp only [lines, functions, List.map_append, List.map_map]
  rfl

/-- Between its prologue and its epilogue, a header is its functions, one to a line. -/
theorem Header.text_eq (h : Header) :
    h.text = Text.lines (prologue h.guard ++ h.functions.map (· ++ ";") ++ epilogue) := by
  have hlines : h.classes.flatMap ClassHeader.lines = h.functions.map (· ++ ";") := by
    rw [functions, List.map_flatMap]
    exact List.flatMap_congr fun c _ => c.lines_eq
  rw [text, hlines]

/-- A class stands in the implementation as its subclass and its functions. -/
lemma ClassImplementation.lines_eq (rootClass stringClass : String) (i : ClassImplementation) :
    i.lines rootClass stringClass = i.subclass.elim [] (Subclass.lines stringClass) ++
      (i.functions rootClass stringClass).flatMap fun f => functionLines f.1 f.2 := by
  simp only [lines, functions, List.flatMap_append, List.flatMap_map, List.append_assoc]
  rfl

namespace Context

variable {ctx : Context} {c : Class} {main : Bool} {module : String}

/-- The bodies that a class defines are those of the wrappers that it declares, and the views that
its walks skip agree. -/
lemma classBodies_agree (main : Bool) (hc : ∀ m ∈ c.methods, m.isVirtualTemplate = false) :
    (ctx.classImplementation main c).defined.map Body.declaration =
        (ctx.classHeader main c).declared ∧
      refusals (ctx.classImplementation main c).bodies = (ctx.classHeader main c).refusals := by
  unfold ClassImplementation.defined ClassHeader.declared ClassHeader.refusals
    classImplementation classHeader
  cases hcheck : ctx.checkClass c with
  | error o =>
    have hsupports : ctx.supports c = false := supports_eq_false_iff.2 ⟨o, hcheck⟩
    simp [hsupports, Except.map, refusals]
  | ok u =>
    have hsupports : ctx.supports c = true := checkClass_eq_ok_iff.1 hcheck
    have hbodies : (ctx.bodies main c).map (Outcome.map Body.declaration) =
        ctx.declarations main c := map_bodies hc
    simp only [hsupports, if_true, Except.map, ← hbodies]
    exact ⟨(writtenItems_map _ _).symm, (refusals_map _ _).symm⟩

theorem classFunctions_agree (hc : ∀ m ∈ c.methods, m.isVirtualTemplate = false)
    (rootClass stringClass : String) :
    ((ctx.classImplementation main c).functions rootClass stringClass).map Prod.fst =
        (ctx.classHeader main c).functions ∧
      refusals (ctx.classImplementation main c).bodies = (ctx.classHeader main c).refusals := by
  have hgetters : (ctx.classImplementation main c).getters = (ctx.classHeader main c).getters := rfl
  obtain ⟨hbodies, hrefusals⟩ := ctx.classBodies_agree main hc
  refine ⟨?_, hrefusals⟩
  rw [ClassImplementation.functions, ClassHeader.functions, ← hbodies, hgetters]
  simp only [List.map_append, List.map_map]
  rfl

/-- Whatever a module is generated to, its implementation defines the functions that its header
declares, in the same order, and skips the views that its header skips, over the same obstacles. -/
theorem functions_agree {a : Artifacts} (h : ctx.generate module = .ok a)
    (hmodule : ∀ c ∈ ctx.registry.classesIn module, ∀ m ∈ c.methods,
      m.isVirtualTemplate = false) :
    a.implementation.functions.map Prod.fst = a.header.functions ∧
      a.implementation.refusals = a.header.refusals := by
  obtain ⟨classes, hclasses, rfl⟩ := generate_eq_ok_iff.1 h
  set main := ctx.config.isMain module with hmain
  have hagree : ∀ c ∈ classes,
      ((ctx.classImplementation main c).functions ctx.config.framework.rootClass
          ctx.stringClass).map Prod.fst = (ctx.classHeader main c).functions ∧
        refusals (ctx.classImplementation main c).bodies = (ctx.classHeader main c).refusals := by
    intro c hc
    have hmem : c ∈ ctx.registry.classesIn module := (perm_of_emittedClasses hclasses).mem_iff.1 hc
    exact classFunctions_agree (hmodule c hmem) _ _
  constructor
  · simp only [Implementation.functions, Header.functions, implementation, header,
      List.map_flatMap, List.flatMap_map]
    exact List.flatMap_congr fun c hc => (hagree c hc).1
  · simp only [Implementation.refusals, Header.refusals, implementation, header, List.flatMap_map]
    exact List.flatMap_congr fun c hc => (hagree c hc).2

/-- A module with methods of every kind is generated, and its two sides agree. -/
theorem functions_agree_sample :
    (∀ c ∈ Sample.context.registry.classesIn "QtCore", ∀ m ∈ c.methods,
      m.isVirtualTemplate = false) ∧
    ∃ a, Sample.context.generate "QtCore" = .ok a ∧
      a.implementation.functions.map Prod.fst = a.header.functions ∧
      a.implementation.refusals = a.header.refusals := by
  have hmodule : ∀ c ∈ Sample.context.registry.classesIn "QtCore", ∀ m ∈ c.methods,
      m.isVirtualTemplate = false := by decide +kernel
  have hok : (Sample.context.generate "QtCore").isOk = true := by decide +kernel
  obtain ⟨a, h⟩ := isOk_iff_exists.1 hok
  exact ⟨hmodule, a, h, functions_agree h hmodule⟩

end Context

end Bindery
