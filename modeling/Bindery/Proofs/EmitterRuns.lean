import Mathlib.Tactic.Lemma
import Bindery.Proofs.Emitter
import Bindery.Proofs.Independence

/-!
# Runs of emitters

The header and the implementation of a module are each written by one emitter, which goes through
the classes and calls, for one view after the other, for a declaration, a body or a trampoline.  A
call either writes its text or records why not.  `Context.headerRun` and
`Context.implementationRun` are these two runs, with the emitter as it was before and after every
call.

`EmitterRun.Adds` says what a stretch of a run adds to the output, to the noted classes and to the
ledger.  Stretches are put together by `EmitterRun.Adds.trans`, and those of the classes by
`EmitterRun.Adds.foldl`.
-/

namespace Bindery

/-! ## Calls -/

/-- A call for the text of a view. -/
structure Call where
  /-- The view that is recorded if there is no text. -/
  entry : View
  before : Emitter
  result : Except Obstacle (List String)
  after : Emitter

/-- A call of an emitter: the text is written, or the obstacle recorded. -/
def Emitter.call (e : Emitter) (entry : View) (text : Emit (List String)) : Call :=
  match text.runFrom e with
  | (.ok lines, e') => ⟨entry, e, .ok lines, e'.write lines⟩
  | (.error obstacle, e') => ⟨entry, e, .error obstacle, e'.record (.ofView entry obstacle)⟩

namespace Call

/-- Nothing has changed but the ledger, which has the entry of the view. -/
structure LeavesNoTrace (k : Call) (obstacle : Obstacle) : Prop where
  lines : k.after.lines = k.before.lines
  symbols : k.after.symbols = k.before.symbols
  noted : k.after.noted = k.before.noted
  ledger : k.after.ledger = k.before.ledger.record (.ofView k.entry obstacle)

/-- A call writes a text or leaves no trace. -/
def Sound (k : Call) : Prop :=
  match k.result with
  | .ok text => text ≠ [] ∧ k.after.lines = k.before.lines ++ text
  | .error obstacle => k.LeavesNoTrace obstacle

end Call

/-! ## Runs -/

/-- A run of an emitter. -/
structure EmitterRun where
  emitter : Emitter
  /-- Keys of methods of the class at hand that need no further attempt. -/
  keys : List (String × Option UInt32)
  /-- The calls so far. -/
  calls : List Call

namespace EmitterRun

/-- A run that has not begun. -/
def start : EmitterRun where
  emitter := ⟨[], [], [], .empty⟩
  keys := []
  calls := []

/-- The run with more output that is not asked for by a call. -/
def write (s : EmitterRun) (lines : List String) : EmitterRun :=
  { s with emitter := s.emitter.write lines }

/-- The run with more classes noted. -/
def note (s : EmitterRun) (names : List String) : EmitterRun :=
  { s with emitter := s.emitter.note names }

/-- The run with an entry in its ledger. -/
def record (s : EmitterRun) (entry : Skipped) : EmitterRun :=
  { s with emitter := s.emitter.record entry }

/-- The run with no keys settled. -/
def unsettle (s : EmitterRun) : EmitterRun :=
  { s with keys := [] }

/-- The run with no symbols claimed and no keys settled. -/
def renew (s : EmitterRun) : EmitterRun :=
  { s with emitter := { s.emitter with symbols := [] }, keys := [] }

/-- The run after a call, and whether the call wrote its text. -/
def call (s : EmitterRun) (entry : View) (text : Emit (List String)) : EmitterRun × Bool :=
  let k := s.emitter.call entry text
  ({ s with emitter := k.after, calls := s.calls ++ [k] }, k.result.isOk)

/-- The walker whose attempts are calls. -/
def walker {ρ : Type} (entry : ρ → View) (text : ρ → Emit (List String)) : Walker ρ EmitterRun where
  isSettled s key := s.keys.contains key
  settle s key := { s with keys := key :: s.keys }
  skip s v obstacle := s.record (.ofView v obstacle)
  attempt s r := s.call (entry r) (text r)

end EmitterRun

/-- The lines of a subclass before its forwarding members. -/
def Subclass.opening (stringClass : String) (s : Subclass) : List String :=
  ("class " ++ s.name ++ ": public " ++ s.base ++ " \x7b")
    :: (if s.sections.isSome then ["Q_OBJECT"] else [])
    ++ "public:" :: (if s.isNamed then nameLines stringClass else [])
    ++ s.constructors.map s.constructorLine

namespace Context

/-- Calls for declarations. -/
def declareCalls (ctx : Context) : Walker DeclareRequest EmitterRun :=
  EmitterRun.walker DeclareRequest.view fun r => ctx.declarationText r.subject r.view

/-- Calls for bodies. -/
def defineCalls (ctx : Context) : Walker DefineRequest EmitterRun :=
  EmitterRun.walker DefineRequest.view fun r => ctx.bodyText r.subject r.view r.cast r.qualifier

/-- Calls for trampolines; what is recorded is the callback. -/
def forwardCalls (ctx : Context) : Walker ForwardRequest EmitterRun :=
  EmitterRun.walker (·.view.toward .callback) fun r => ctx.trampolineText r.subject r.member r.view

/-- The run of a header after a class. -/
def headerClassRun (ctx : Context) (main : Bool) (s : EmitterRun) (c : Class) : EmitterRun :=
  let s := s.write ((ctx.valueGetters c).map (·.prototypeText ++ ";"))
  match ctx.checkClass c with
  | .error obstacle => s.record (.ofClass c.name obstacle)
  | .ok () =>
    ctx.walk c (ctx.declareCalls.declareOwn ctx main c) (ctx.declareCalls.declareInherited ctx c)
      s.renew

/-- The run that writes the header of a module. -/
def headerRun (ctx : Context) (module : String) (classes : List Class) : EmitterRun :=
  let s := EmitterRun.start.write (Header.prologue (ctx.config.includeGuard module))
  let s := classes.foldl (ctx.headerClassRun (ctx.config.isMain module)) s
  s.write Header.epilogue

/-- The run of an implementation after the sections that only classes of the main module have. -/
def sectionsRun (ctx : Context) (c : Class) (s : EmitterRun) : EmitterRun :=
  let s := s.write ("signals:" :: (signalDeclarations c).map Subclass.signalLine
    ++ ["public slots:"])
  (c.methods.filter (·.role == .slot)).foldl (ctx.forwardCalls.forwardSlot ctx c) s

/-- The run of an implementation after the generated subclass of a class. -/
def subclassRun (ctx : Context) (main : Bool) (c : Class) (s : EmitterRun) : EmitterRun :=
  let s := s.note [c.name]
  match ctx.subclass? main c with
  | none => s
  | some sub =>
    let s := s.note ((if main then [sub.base] else [])
      ++ if sub.isNamed then [ctx.stringClass] else [])
    let s := s.write (sub.opening ctx.stringClass)
    let s := ctx.walk c (ctx.forwardCalls.overrideOwn ctx main c)
      (ctx.forwardCalls.overrideInherited ctx c) s.unsettle
    let s := if main then ctx.sectionsRun c s else s
    s.write ["\x7d;", ""]

/-- The run of an implementation after a class. -/
def implementationClassRun (ctx : Context) (main : Bool) (s : EmitterRun) (c : Class) :
    EmitterRun :=
  let s := if ctx.generatesSubclass c then ctx.subclassRun main c s else s
  let getters := ctx.valueGetters c
  let s := (s.note (getters.map ValueGetter.owner)).write (getters.flatMap ValueGetter.lines)
  if ctx.supports c then
    ctx.walk c (ctx.defineCalls.defineOwn ctx main c)
      (ctx.defineCalls.defineInherited ctx main c) s.renew
  else s

/-- The run that writes the classes of an implementation. -/
def implementationRun (ctx : Context) (module : String) (classes : List Class) : EmitterRun :=
  classes.foldl (ctx.implementationClassRun (ctx.config.isMain module)) EmitterRun.start

end Context

/-- The artifacts are what the two runs have written: the prologue of an implementation is made
from the classes that its run has noted, and the ledger from those of both runs. -/
structure Artifacts.WrittenBy (a : Artifacts) (ctx : Context) (header implementation : EmitterRun) :
    Prop where
  header_text : a.header.text = Text.lines header.emitter.lines
  implementation_text : a.implementation.text =
    Text.lines (a.implementation.prologue ++ implementation.emitter.lines
      ++ a.implementation.epilogue)
  includes : a.implementation.includes = ctx.includes implementation.emitter.noted
  ledger : a.ledger = header.emitter.ledger.merge implementation.emitter.ledger

/-! ## What a stretch of a run adds -/

namespace EmitterRun

/-- From `s` to `s'`, a run has added these lines, noted these classes and recorded these entries,
and its calls were sound. -/
structure Adds (s s' : EmitterRun) (lines names : List String) (skips : List Skipped) : Prop where
  lines : s'.emitter.lines = s.emitter.lines ++ lines
  noted : ∀ name, name ∈ s'.emitter.noted ↔ name ∈ s.emitter.noted ∨ name ∈ names
  ledger : s'.emitter.ledger = s.emitter.ledger.recordAll skips
  calls : (∀ k ∈ s.calls, k.Sound) → ∀ k ∈ s'.calls, k.Sound

namespace Adds

variable {s s' s'' : EmitterRun} {lines lines' names names' : List String}
  {skips skips' : List Skipped}

lemma refl (s : EmitterRun) : s.Adds s [] [] [] :=
  ⟨by simp, by simp, rfl, id⟩

lemma trans (h : s.Adds s' lines names skips) (h' : s'.Adds s'' lines' names' skips') :
    s.Adds s'' (lines ++ lines') (names ++ names') (skips ++ skips') where
  lines := by rw [h'.lines, h.lines, List.append_assoc]
  noted name := by rw [h'.noted, h.noted, List.mem_append, or_assoc]
  ledger := by rw [h'.ledger, h.ledger, Ledger.recordAll_append]
  calls := h'.calls ∘ h.calls

/-- The order and the repetitions of noted names do not matter. -/
lemma congr (h : s.Adds s' lines names skips) (hlines : lines = lines')
    (hnames : ∀ name, name ∈ names ↔ name ∈ names') (hskips : skips = skips') :
    s.Adds s' lines' names' skips' :=
  ⟨hlines ▸ h.lines, fun name => by rw [h.noted, hnames], hskips ▸ h.ledger, h.calls⟩

lemma write (s : EmitterRun) (lines : List String) : s.Adds (s.write lines) lines [] [] :=
  ⟨rfl, by simp [EmitterRun.write, Emitter.write], rfl, id⟩

lemma note (s : EmitterRun) (names : List String) : s.Adds (s.note names) [] names [] :=
  ⟨by simp [EmitterRun.note, Emitter.note], by simp [EmitterRun.note, Emitter.note], rfl, id⟩

lemma record (s : EmitterRun) (entry : Skipped) : s.Adds (s.record entry) [] [] [entry] :=
  ⟨by simp [EmitterRun.record, Emitter.record], by simp [EmitterRun.record, Emitter.record], rfl,
    id⟩

lemma unsettle (s : EmitterRun) : s.Adds s.unsettle [] [] [] :=
  ⟨by simp [EmitterRun.unsettle], by simp [EmitterRun.unsettle], rfl, id⟩

lemma renew (s : EmitterRun) : s.Adds s.renew [] [] [] :=
  ⟨by simp [EmitterRun.renew], by simp [EmitterRun.renew], rfl, id⟩

/-- A run through classes adds what it adds for each of them. -/
lemma foldl {step : EmitterRun → Class → EmitterRun} {lines names : Class → List String}
    {skips : Class → List Skipped}
    (h : ∀ (s : EmitterRun) c, s.Adds (step s c) (lines c) (names c) (skips c))
    (classes : List Class) (s : EmitterRun) :
    s.Adds (classes.foldl step s) (classes.flatMap lines) (classes.flatMap names)
      (classes.flatMap skips) := by
  induction classes generalizing s with
  | nil => exact refl s
  | cons c classes ih => exact (h s c).trans (ih (step s c))

end Adds

end EmitterRun

end Bindery
