import Mathlib.Tactic.Lemma
import Bindery.Proofs.Definitions
import Bindery.Proofs.Trampolines

/-!
# Emitters that change as they go

An emitter writes one view after the other.  The text of a view is put together in several steps,
and some of them change the emitter before the last one is taken: a body claims its linkage symbol
before its statement is looked for, a call and a trampoline note the classes of their parameters
before the output is resolved.  What such a step has changed is not taken back if a later one fails.

`Context.declarationText`, `Context.bodyText` and `Context.trampolineText` are the three texts, in
this order of effects.  `Context.declaration`, `Context.body` and `Context.trampoline` are their
values without the effects.  The two agree, and a text that fails leaves the emitter as it found it
(`run_declarationText`, `run_bodyText`, `run_trampolineText`): whatever could fail after the first
change has been tried by the check of the view.  For that a body needs a view with a statement, and
a trampoline one that has passed a check.
-/

namespace Bindery

/-- What an emitter has done so far. -/
structure Emitter where
  /-- The output. -/
  lines : List String
  /-- Linkage symbols that are claimed for the class at hand. -/
  symbols : List String
  /-- Classes whose headers are to be included, in the order in which they were noted. -/
  noted : List String
  ledger : Ledger

namespace Emitter

/-- The emitter with more output. -/
def write (e : Emitter) (lines : List String) : Emitter :=
  { e with lines := e.lines ++ lines }

/-- The emitter with a symbol claimed. -/
def claim (e : Emitter) (symbol : String) : Emitter :=
  { e with symbols := symbol :: e.symbols }

/-- The emitter with classes noted. -/
def note (e : Emitter) (names : List String) : Emitter :=
  { e with noted := e.noted ++ names }

/-- The emitter with an entry in its ledger. -/
def record (e : Emitter) (entry : Skipped) : Emitter :=
  { e with ledger := e.ledger.record entry }

lemma note_note (e : Emitter) (first second : List String) :
    (e.note first).note second = e.note (first ++ second) := by
  simp [note]

end Emitter

/-- A computation of an emitter that may fail.  What it has changed before it fails stays. -/
abbrev Emit (α : Type) : Type :=
  ExceptT Obstacle (StateM Emitter) α

/-- The computation, from the state of an emitter. -/
def Emit.runFrom {α : Type} (x : Emit α) (e : Emitter) : Except Obstacle α × Emitter :=
  (x.run.run e).run

namespace Emit

variable {α β : Type}

lemma runFrom_pure (a : α) (e : Emitter) : (pure a : Emit α).runFrom e = (.ok a, e) := rfl

lemma runFrom_throw (obstacle : Obstacle) (e : Emitter) :
    (throw obstacle : Emit α).runFrom e = (.error obstacle, e) := rfl

lemma runFrom_lift (x : Except Obstacle α) (e : Emitter) :
    (liftM x : Emit α).runFrom e = (x, e) := rfl

lemma runFrom_get (e : Emitter) : (get : Emit Emitter).runFrom e = (.ok e, e) := rfl

lemma runFrom_modify (f : Emitter → Emitter) (e : Emitter) :
    (modify f : Emit PUnit).runFrom e = (.ok (), f e) := rfl

lemma runFrom_bind (x : Emit α) (f : α → Emit β) (e : Emitter) :
    (x >>= f).runFrom e =
      match x.runFrom e with
      | (.ok a, e') => (f a).runFrom e'
      | (.error obstacle, e') => (.error obstacle, e') := by
  simp only [runFrom, ExceptT.run_bind, StateT.run_bind, Id.run_bind]
  obtain ⟨result, e'⟩ := (x.run.run e).run
  cases result <;> rfl

end Emit

namespace Context

variable {ctx : Context} {c : Class} {v : View} {member : String} {e : Emitter}

/-! ## Texts -/

/-- The classes to note for parameters, as far as their types resolve. -/
def parameterNames (ctx : Context) (v : View) (parameters : List (Parameter × Nat)) :
    List String :=
  parameters.flatMap fun p =>
    (ctx.resolve? v p.1.type).elim [] (TypeKind.mentioned ctx.stringClass)

/-- The C function of a view that passes its check, with its symbol claimed. -/
def claimedPrototype (ctx : Context) (c : Class) (v : View) : Emit Prototype := do
  ctx.checkMethod c v
  let symbol ← v.linkageSymbol
  if (← get).symbols.contains symbol then throw .collision
  let prototype ← ctx.prototype v
  modify (·.claim symbol)
  return prototype

/-- The line that declares a view. -/
def declarationText (ctx : Context) (c : Class) (v : View) : Emit (List String) := do
  let prototype ← ctx.claimedPrototype c v
  return [prototype.text ++ ";"]

/-- The statement that connects or disconnects a signal. -/
def hookText (ctx : Context) (c : Class) (v : View) : Emit String := do
  modify (·.note [v.method.owner])
  return (ctx.hookStatement c v).text ctx.config.framework.rootClass

/-- The statement that calls the native method. -/
def callText (ctx : Context) (c : Class) (v : View) (cast : String) (qualifier : Option String) :
    Emit String := do
  let arguments ← ctx.callArguments v
  modify (·.note (ctx.parameterNames v v.parameters))
  let some output := ctx.resolve? v v.outputToken | throw .nativeOutput
  modify (·.note (output.mentioned ctx.stringClass))
  let callee := ctx.callee c v cast qualifier
  modify (·.note callee.mentioned)
  return CallStatement.text ctx.stringClass { callee, arguments, output }

/-- The statement of a view. -/
def statementText (ctx : Context) (c : Class) (v : View) (cast : String)
    (qualifier : Option String) : Emit String :=
  if v.direction.isHook then ctx.hookText c v else ctx.callText c v cast qualifier

/-- The lines that define a view.  Its symbol is claimed before there is a statement. -/
def bodyText (ctx : Context) (c : Class) (v : View) (cast : String) (qualifier : Option String) :
    Emit (List String) := do
  let prototype ← ctx.claimedPrototype c v
  let statement ← ctx.statementText c v cast qualifier
  return functionLines prototype.text statement

/-- The line of the trampoline of a view. -/
def trampolineText (ctx : Context) (c : Class) (member : String) (v : View) :
    Emit (List String) := do
  let callback ← (v.toward .callback).callbackName
  let arguments ← ctx.callbackArguments v
  modify (·.note (ctx.parameterNames v (ctx.hookParameters v)))
  let some output := ctx.resolve? v v.outputToken | throw .callbackOutput
  modify (·.note (output.mentioned ctx.stringClass))
  let trampoline : Trampoline := {
    view := v
    callback := callback
    subclass := ctx.subclassName c
    member := member
    parameters := nativeParameters (ctx.hookParameters v)
    arguments := arguments
    output := output
    outputType := Text.trim v.outputToken }
  return [trampoline.text ctx.stringClass]

/-! ## What is noted for parameters -/

lemma parameterNames_of_mapM {f : Parameter × Nat → Except Obstacle Argument}
    (hf : ∀ p a, f p = .ok a → ctx.resolve? v p.1.type = some a.kind)
    {parameters : List (Parameter × Nat)} {arguments : List Argument}
    (h : parameters.mapM f = .ok arguments) :
    ctx.parameterNames v parameters =
      arguments.flatMap fun a => a.kind.mentioned ctx.stringClass := by
  induction mapM_eq_ok_iff.1 h with
  | nil => rfl
  | cons hhead htail ih =>
    have hnames := ih (mapM_eq_ok_iff.2 htail)
    simp only [parameterNames, List.flatMap_cons, hf _ _ hhead, Option.elim_some] at hnames ⊢
    rw [hnames]

lemma parameterNames_of_callArguments {arguments : List Argument}
    (h : ctx.callArguments v = .ok arguments) : ctx.parameterNames v v.parameters =
      arguments.flatMap fun a => a.kind.mentioned ctx.stringClass := by
  refine parameterNames_of_mapM (fun p a hp => ?_) h
  unfold callArgument at hp
  cases hk : ctx.resolve? v p.1.type with
  | none => simp [hk] at hp
  | some k =>
    simp only [hk, Except.ok.injEq] at hp
    rw [← hp]

lemma parameterNames_of_callbackArguments {arguments : List Argument}
    (h : ctx.callbackArguments v = .ok arguments) :
    ctx.parameterNames v (ctx.hookParameters v) =
      arguments.flatMap fun a => a.kind.mentioned ctx.stringClass := by
  refine parameterNames_of_mapM (fun p a hp => ?_) h
  unfold callbackArgument at hp
  cases hk : ctx.resolve? v p.1.type with
  | none => simp [hk] at hp
  | some k =>
    cases hvoid : k.isVoid with
    | true => simp [hk, hvoid] at hp
    | false =>
      simp only [hk, hvoid, Bool.false_eq_true, if_false, Except.ok.injEq] at hp
      rw [← hp]

/-! ## A failing text changes nothing -/

lemma run_claimedPrototype : (ctx.claimedPrototype c v).runFrom e =
    match ctx.declaration e.symbols c v with
    | .ok d => (.ok d.prototype, e.claim d.prototype.symbol)
    | .error obstacle => (.error obstacle, e) := by
  unfold claimedPrototype declaration
  cases hcheck : ctx.checkMethod c v with
  | error o => rfl
  | ok u =>
    cases hsymbol : v.linkageSymbol with
    | error o => rfl
    | ok symbol =>
      simp only [Emit.runFrom_bind, Emit.runFrom_lift, Emit.runFrom_get, ok_bind]
      by_cases htaken : e.symbols.contains symbol = true
      · simp only [htaken, if_true, Emit.runFrom_bind, Emit.runFrom_throw, throw_eq_error,
          error_bind]
      · simp only [htaken, Bool.false_eq_true, if_false, Emit.runFrom_bind, Emit.runFrom_lift]
        cases hprototype : ctx.prototype v with
        | error o => rfl
        | ok q =>
          obtain rfl : symbol = q.symbol := by
            have hsame := (prototype_eq_ok_iff.1 hprototype).1
            rw [hsymbol] at hsame
            exact Except.ok.inj hsame
          rfl

/-- A declaration claims its symbol last. -/
theorem run_declarationText : (ctx.declarationText c v).runFrom e =
    match ctx.declaration e.symbols c v with
    | .ok d => (.ok [d.text], e.claim d.prototype.symbol)
    | .error obstacle => (.error obstacle, e) := by
  rw [declarationText, Emit.runFrom_bind, run_claimedPrototype]
  cases ctx.declaration e.symbols c v <;> rfl

lemma run_callText {cast : String} {qualifier : Option String} {call : CallStatement}
    (h : ctx.callStatement c v cast qualifier = .ok call) :
    (ctx.callText c v cast qualifier).runFrom e = (.ok (call.text ctx.stringClass),
      e.note (Statement.mentioned ctx.stringClass (.call call))) := by
  obtain ⟨arguments, harguments, h⟩ := bind_eq_ok.1 h
  cases houtput : ctx.resolve? v v.outputToken with
  | none => simp [houtput] at h
  | some output =>
    simp only [houtput, pure_eq_ok] at h
    subst h
    simp only [callText, Emit.runFrom_bind, Emit.runFrom_lift, Emit.runFrom_modify, harguments,
      houtput, Emit.runFrom_pure, Emitter.note_note, parameterNames_of_callArguments harguments]
    rfl

lemma run_statementText {cast : String} {qualifier : Option String} {s : Statement}
    (h : ctx.statement c v cast qualifier = .ok s) :
    (ctx.statementText c v cast qualifier).runFrom e =
      (.ok (s.text ctx.config.framework.rootClass ctx.stringClass),
        e.note (s.mentioned ctx.stringClass)) := by
  unfold statement at h
  unfold statementText
  cases hhook : v.direction.isHook with
  | true =>
    simp only [hhook, if_true, Except.ok.injEq] at h
    subst h
    rfl
  | false =>
    simp only [hhook, Bool.false_eq_true, if_false] at h
    obtain ⟨call, hcall, rfl⟩ := map_eq_ok.1 h
    exact run_callText hcall

/-- A body claims its symbol before its statement is looked for, but a statement is found. -/
theorem run_bodyText (hv : v.HasStatement) {cast : String} {qualifier : Option String} :
    (ctx.bodyText c v cast qualifier).runFrom e =
      match ctx.body e.symbols c v cast qualifier with
      | .ok b => (.ok (b.lines ctx.config.framework.rootClass ctx.stringClass),
          (e.claim b.prototype.symbol).note (b.statement.mentioned ctx.stringClass))
      | .error obstacle => (.error obstacle, e) := by
  rw [bodyText, Emit.runFrom_bind, run_claimedPrototype, body_eq_bind]
  cases hd : ctx.declaration e.symbols c v with
  | error o => rfl
  | ok d =>
    obtain ⟨-, -, hprototype, -⟩ := declaration_eq_ok_iff.1 hd
    obtain ⟨s, hs⟩ := statement_isOk (c := c) hprototype hv cast qualifier
    simp only [ok_bind, hs, Emit.runFrom_bind, run_statementText hs, Emit.runFrom_pure]
    rfl

/-- A plain view that has passed the check of some class. -/
def Checked (ctx : Context) (v : View) : Prop :=
  v.direction = .plain ∧ ∃ subject, ctx.checkMethod subject v = .ok ()

lemma Forwards.checked {main : Bool} (h : ctx.Forwards main c v) : ctx.Checked v := by
  cases h with
  | signal hm hrole hvoid hcheck => exact ⟨rfl, c, hcheck⟩
  | override h =>
    obtain ⟨⟨subject, hcheck⟩, hdirection⟩ := h.exists_check
    exact ⟨hdirection, subject, hcheck⟩
  | slot hmain hm hrole hcheck => exact ⟨rfl, c, hcheck⟩

/-- A trampoline notes its parameters before its output is resolved, but the check has resolved the
output. -/
theorem run_trampolineText (hv : ctx.Checked v) : (ctx.trampolineText c member v).runFrom e =
    match ctx.trampoline c member v with
    | .ok t => (.ok [t.text ctx.stringClass], e.note (t.mentioned ctx.stringClass))
    | .error obstacle => (.error obstacle, e) := by
  obtain ⟨hplain, subject, hcheck⟩ := hv
  obtain ⟨output, houtput⟩ := output_resolves_of_check hcheck hplain
  unfold trampolineText trampoline
  cases hcallback : (v.toward .callback).callbackName with
  | error o => rfl
  | ok callback =>
    cases harguments : ctx.callbackArguments v with
    | error o => rfl
    | ok arguments =>
      simp only [Emit.runFrom_bind, Emit.runFrom_lift, Emit.runFrom_modify, ok_bind, houtput,
        Emit.runFrom_pure, Emitter.note_note, parameterNames_of_callbackArguments harguments]
      rfl

end Context

end Bindery
