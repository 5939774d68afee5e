import Mathlib.Tactic.Lemma
import Bindery.Proofs.EmitterRuns
import Bindery.Proofs.Sample

/-!
# Skipped views leave no trace

A call that does not write its text leaves the emitter as it was, but for the entry of its view in
the ledger.  That is so because nothing can fail after the first change that a text makes
(`run_bodyText`, `run_trampolineText`), for all views that the runs of a module call for.

Over a class, a run therefore follows the walk from which the artifacts are made, step by step
(`Represents`): what it has written is what the walk has written, and the symbols and keys on which
its next steps depend are those of the walk.  The two runs of a module write its artifacts
(`writtenBy_runs`), although their calls change the emitter as they go and the artifacts are put
together from what was written alone.
-/

namespace Bindery

/-! ## Runs that follow a walk -/

/-- What a written item leaves behind: its text, the symbols that it claims and the classes that it
notes. -/
structure Imprint (α : Type) where
  text : α → List String
  symbols : α → List String
  names : α → List String
  text_ne_nil : ∀ a, text a ≠ []

/-- The run `s`, which was `s₀` where the walk `w` began, has written what the walk has written and
recorded what the walk has skipped. -/
structure Represents {α : Type} (i : Imprint α) (s₀ s : EmitterRun) (w : Walk α) : Prop where
  keys : s.keys = w.keys
  symbols : s.emitter.symbols = w.symbols ++ s₀.emitter.symbols
  adds : s₀.Adds s ((writtenItems w.outcomes).flatMap i.text)
    ((writtenItems w.outcomes).flatMap i.names) (skippedEntries w.outcomes)

namespace Represents

variable {α : Type} {i : Imprint α} {s₀ s : EmitterRun} {w : Walk α} {entry : View}
  {text : Emit (List String)} {obstacle : Obstacle} {a : α}

lemma start (i : Imprint α) (s₀ : EmitterRun) : Represents i s₀ s₀ ⟨[], s₀.keys, []⟩ :=
  ⟨rfl, rfl, .refl s₀⟩

lemma settle (h : Represents i s₀ s w) (key : String × Option UInt32) :
    Represents i s₀ { s with keys := key :: s.keys } (w.settle key) :=
  ⟨congrArg (key :: ·) h.keys, h.symbols, ⟨h.adds.lines, h.adds.noted, h.adds.ledger, h.adds.calls⟩⟩

lemma skip (h : Represents i s₀ s w) (v : View) (obstacle : Obstacle) :
    Represents i s₀ (s.record (.ofView v obstacle)) (w.skip v obstacle) := by
  refine ⟨h.keys, h.symbols, (h.adds.trans (.record s _)).congr ?_ ?_ ?_⟩
  · simp
  · simp
  · rw [Walk.outcomes_skip, skippedEntries_append]
    rfl

/-- A call whose text fails and leaves the emitter as it is. -/
lemma call_error (h : Represents i s₀ s w) (entry : View)
    (hrun : text.runFrom s.emitter = (.error obstacle, s.emitter)) :
    Represents i s₀ (s.call entry text).1 (w.skip entry obstacle) ∧
      (s.call entry text).2 = false := by
  have hcall : s.emitter.call entry text = ⟨entry, s.emitter, .error obstacle,
      s.emitter.record (.ofView entry obstacle)⟩ := by
    simp only [Emitter.call, hrun]
  have hsound : (s.emitter.call entry text).Sound := by
    rw [hcall]
    exact ⟨rfl, rfl, rfl, rfl⟩
  have hrecord := h.skip entry obstacle
  unfold EmitterRun.call
  rw [hcall] at hsound ⊢
  refine ⟨⟨hrecord.keys, hrecord.symbols, ⟨hrecord.adds.lines, hrecord.adds.noted,
    hrecord.adds.ledger, fun hcalls k hk => ?_⟩⟩, rfl⟩
  obtain hk | hk := List.mem_append.1 hk
  · exact h.adds.calls hcalls k hk
  · rw [List.mem_singleton.1 hk]
    exact hsound

/-- A call whose text claims the symbols of an item and notes its classes. -/
lemma call_ok (h : Represents i s₀ s w) (entry : View)
    (hrun : text.runFrom s.emitter = (.ok (i.text a), { s.emitter with
      symbols := i.symbols a ++ s.emitter.symbols
      noted := s.emitter.noted ++ i.names a })) :
    Represents i s₀ (s.call entry text).1
        { w.write a with symbols := i.symbols a ++ w.symbols } ∧
      (s.call entry text).2 = true := by
  have hcall : s.emitter.call entry text = ⟨entry, s.emitter, .ok (i.text a),
      { s.emitter with
        lines := s.emitter.lines ++ i.text a
        symbols := i.symbols a ++ s.emitter.symbols
        noted := s.emitter.noted ++ i.names a }⟩ := by
    simp only [Emitter.call, hrun]
    rfl
  have hsound : (s.emitter.call entry text).Sound := by
    rw [hcall]
    exact ⟨i.text_ne_nil a, rfl⟩
  unfold EmitterRun.call
  rw [hcall] at hsound ⊢
  have hwritten : writtenItems (w.write a).outcomes = writtenItems w.outcomes ++ [a] :=
    writtenItems_append ..
  have hskipped : skippedEntries (w.write a).outcomes = skippedEntries w.outcomes := by
    simp [Walk.write, skippedEntries, Outcome.skip?]
  refine ⟨⟨h.keys, by simp [h.symbols], ⟨?_, ?_, ?_, fun hcalls k hk => ?_⟩⟩, rfl⟩
  · simp [hwritten, h.adds.lines]
  · intro name
    simp [hwritten, h.adds.noted, or_assoc]
  · simp only [hskipped, h.adds.ledger]
  · obtain hk | hk := List.mem_append.1 hk
    · exact h.adds.calls hcalls k hk
    · rw [List.mem_singleton.1 hk]
      exact hsound

/-- Keys and skipped views are kept alike; what remains is to compare the attempts. -/
lemma simulates {ρ : Type} {entry : ρ → View} {text : ρ → Emit (List String)}
    {attempt : Walk α → ρ → Walk α × Bool} {P : ρ → Prop}
    (hattempt : ∀ {s w r}, P r → Represents i s₀ s w →
      Represents i s₀ (s.call (entry r) (text r)).1 (attempt w r).1 ∧
        (s.call (entry r) (text r)).2 = (attempt w r).2) :
    (EmitterRun.walker entry text).Simulates (Walk.walker attempt) P (Represents i s₀) where
  isSettled h key := congrArg (List.contains · key) h.keys
  settle h key := h.settle key
  skip h v obstacle := h.skip v obstacle
  attempt hr h := hattempt hr h

end Represents

/-! ## The three calls -/

/-- What a declaration leaves behind. -/
def Declaration.imprint : Imprint Declaration where
  text d := [d.text]
  symbols d := [d.prototype.symbol]
  names _ := []
  text_ne_nil _ := List.cons_ne_nil _ _

namespace Context

variable {ctx : Context} {main : Bool} {c : Class} {s₀ : EmitterRun}

/-- What a body leaves behind. -/
def bodyImprint (ctx : Context) : Imprint Body where
  text := Body.lines ctx.config.framework.rootClass ctx.stringClass
  symbols b := [b.prototype.symbol]
  names b := b.statement.mentioned ctx.stringClass
  text_ne_nil _ := List.cons_ne_nil _ _

/-- What a trampoline leaves behind. -/
def trampolineImprint (ctx : Context) : Imprint Trampoline where
  text t := [t.text ctx.stringClass]
  symbols _ := []
  names := Trampoline.mentioned ctx.stringClass
  text_ne_nil _ := List.cons_ne_nil _ _

lemma declareCalls_simulates (hsymbols : s₀.emitter.symbols = []) :
    ctx.declareCalls.Simulates ctx.declaring (·.IsCandidate ctx main c)
      (Represents Declaration.imprint s₀) := by
  refine Represents.simulates fun {s w r} _ h => ?_
  have hsame : s.emitter.symbols = w.symbols := by rw [h.symbols, hsymbols, List.append_nil]
  have hrun := @run_declarationText ctx r.subject r.view s.emitter
  rw [hsame] at hrun
  unfold declare
  cases hd : ctx.declaration w.symbols r.subject r.view with
  | error o =>
    rw [hd] at hrun
    exact h.call_error r.view hrun
  | ok d =>
    rw [hd] at hrun
    refine h.call_ok r.view (hrun.trans ?_)
    simp [Declaration.imprint, Emitter.claim]

lemma defineCalls_simulates (hsymbols : s₀.emitter.symbols = []) :
    ctx.defineCalls.Simulates ctx.defining (·.IsCandidate ctx main c)
      (Represents ctx.bodyImprint s₀) := by
  refine Represents.simulates fun {s w r} hr h => ?_
  have hsame : s.emitter.symbols = w.symbols := by rw [h.symbols, hsymbols, List.append_nil]
  have hstatement : r.view.HasStatement := Candidate.hasStatement hr
  have hrun := @run_bodyText ctx r.subject r.view s.emitter hstatement r.cast r.qualifier
  rw [hsame] at hrun
  unfold define
  cases hb : ctx.body w.symbols r.subject r.view r.cast r.qualifier with
  | error o =>
    rw [hb] at hrun
    exact h.call_error r.view hrun
  | ok b =>
    rw [hb] at hrun
    exact h.call_ok r.view hrun

lemma forwardCalls_simulates :
    ctx.forwardCalls.Simulates ctx.forwarding (·.IsForwarded ctx main c)
      (Represents ctx.trampolineImprint s₀) := by
  refine Represents.simulates fun {s w r} hr h => ?_
  have hrun := @run_trampolineText ctx r.subject r.view r.member s.emitter hr.2.checked
  unfold addTrampoline trampolineOutcome
  cases ht : ctx.trampoline r.subject r.member r.view with
  | error o =>
    rw [ht] at hrun
    exact h.call_error (r.view.toward .callback) hrun
  | ok t =>
    rw [ht] at hrun
    exact h.call_ok (r.view.toward .callback) hrun

/-! ## Classes -/

lemma adds_declarations (ctx : Context) (main : Bool) (s : EmitterRun) (c : Class) :
    s.Adds (ctx.walk c (ctx.declareCalls.declareOwn ctx main c)
        (ctx.declareCalls.declareInherited ctx c) s.renew)
      ((writtenItems (ctx.declarations main c)).map Declaration.text) []
      (skippedEntries (ctx.declarations main c)) := by
  have hcalls : ctx.declareCalls.Simulates ctx.declaring (·.IsCandidate ctx main c)
      (Represents Declaration.imprint s.renew) := declareCalls_simulates rfl
  have hwalk : Represents Declaration.imprint s.renew
      (ctx.walk c (ctx.declareCalls.declareOwn ctx main c)
        (ctx.declareCalls.declareInherited ctx c) s.renew)
      (ctx.walk c (ctx.declareOwn main c) (ctx.declareInherited c) Walk.start) := by
    rw [← walk_declaring]
    exact hcalls.declarations (.start _ _)
  refine ((EmitterRun.Adds.renew s).trans hwalk.adds).congr ?_ ?_ rfl
  · exact (List.map_eq_flatMap ..).symm
  · simp [Declaration.imprint]

lemma adds_bodies (ctx : Context) (main : Bool) (s : EmitterRun) (c : Class) :
    s.Adds (ctx.walk c (ctx.defineCalls.defineOwn ctx main c)
        (ctx.defineCalls.defineInherited ctx main c) s.renew)
      ((writtenItems (ctx.bodies main c)).flatMap
        (Body.lines ctx.config.framework.rootClass ctx.stringClass))
      ((writtenItems (ctx.bodies main c)).flatMap fun b => b.statement.mentioned ctx.stringClass)
      (skippedEntries (ctx.bodies main c)) := by
  have hcalls : ctx.defineCalls.Simulates ctx.defining (·.IsCandidate ctx main c)
      (Represents ctx.bodyImprint s.renew) := defineCalls_simulates rfl
  have hwalk : Represents ctx.bodyImprint s.renew
      (ctx.walk c (ctx.defineCalls.defineOwn ctx main c)
        (ctx.defineCalls.defineInherited ctx main c) s.renew)
      (ctx.walk c (ctx.defineOwn main c) (ctx.defineInherited main c) Walk.start) := by
    rw [← walk_defining]
    exact hcalls.bodies (.start _ _)
  exact (EmitterRun.Adds.renew s).trans hwalk.adds

lemma adds_overridingMembers (ctx : Context) (main : Bool) (s : EmitterRun) (c : Class) :
    s.Adds (ctx.walk c (ctx.forwardCalls.overrideOwn ctx main c)
        (ctx.forwardCalls.overrideInherited ctx c) s.unsettle)
      ((writtenItems (ctx.overridingMembers main c)).map (Trampoline.text ctx.stringClass))
      ((writtenItems (ctx.overridingMembers main c)).flatMap
        (Trampoline.mentioned ctx.stringClass))
      (skippedEntries (ctx.overridingMembers main c)) := by
  have hcalls : ctx.forwardCalls.Simulates ctx.forwarding (·.IsForwarded ctx main c)
      (Represents ctx.trampolineImprint s.unsettle) := forwardCalls_simulates
  have hwalk : Represents ctx.trampolineImprint s.unsettle
      (ctx.walk c (ctx.forwardCalls.overrideOwn ctx main c)
        (ctx.forwardCalls.overrideInherited ctx c) s.unsettle)
      (ctx.walk c (ctx.overrideOwn main c) (ctx.overrideInherited c) Walk.start) := by
    rw [← walk_forwarding]
    exact hcalls.overridingMembers (.start _ _)
  refine ((EmitterRun.Adds.unsettle s).trans hwalk.adds).congr ?_ (fun _ => Iff.rfl) rfl
  exact (List.map_eq_flatMap ..).symm

/-- The slots are written one after the other, whatever keys are settled. -/
lemma outcomes_forwardSlot (keys : List (String × Option UInt32)) :
    ((c.methods.filter (·.role == .slot)).foldl (ctx.forwarding.forwardSlot ctx c)
      ⟨[], keys, []⟩).outcomes = ctx.slotMembers c := by
  rw [Walk.outcomes_foldl (fun w m => ?_), slotMembers, List.map_eq_flatMap]
  · rfl
  · unfold Walker.forwardSlot
    simp only
    cases ctx.checkMethod c (View.of m).nonVirtual <;> rfl

lemma adds_slotMembers (ctx : Context) (s : EmitterRun) (c : Class) :
    s.Adds ((c.methods.filter (·.role == .slot)).foldl (ctx.forwardCalls.forwardSlot ctx c) s)
      ((writtenItems (ctx.slotMembers c)).map (Trampoline.text ctx.stringClass))
      ((writtenItems (ctx.slotMembers c)).flatMap (Trampoline.mentioned ctx.stringClass))
      (skippedEntries (ctx.slotMembers c)) := by
  have hcalls : ctx.forwardCalls.Simulates ctx.forwarding (·.IsForwarded ctx true c)
      (Represents ctx.trampolineImprint s) := forwardCalls_simulates
  have hslots : Represents ctx.trampolineImprint s
      ((c.methods.filter (·.role == .slot)).foldl (ctx.forwardCalls.forwardSlot ctx c) s)
      ((c.methods.filter (·.role == .slot)).foldl (ctx.forwarding.forwardSlot ctx c)
        ⟨[], s.keys, []⟩) :=
    hcalls.forwardSlots (.start _ _)
  have hadds := hslots.adds
  rw [outcomes_forwardSlot] at hadds
  exact hadds.congr (List.map_eq_flatMap ..).symm (fun _ => Iff.rfl) rfl

lemma adds_headerClass (ctx : Context) (main : Bool) (s : EmitterRun) (c : Class) :
    s.Adds (ctx.headerClassRun main s c) (ctx.classHeader main c).lines []
      (ctx.classHeader main c).skips := by
  have hgetters := EmitterRun.Adds.write s ((ctx.valueGetters c).map (·.prototypeText ++ ";"))
  unfold headerClassRun classHeader ClassHeader.lines ClassHeader.skips ClassHeader.declared
  cases ctx.checkClass c with
  | error o => exact hgetters.trans (.record _ _)
  | ok u => exact hgetters.trans (adds_declarations ctx main _ c)

lemma adds_sections (ctx : Context) (s : EmitterRun) (c : Class) :
    s.Adds (ctx.sectionsRun c s)
      (Subclass.sectionLines ctx.stringClass ⟨signalDeclarations c, ctx.slotMembers c⟩)
      ((writtenItems (ctx.slotMembers c)).flatMap (Trampoline.mentioned ctx.stringClass))
      (skippedEntries (ctx.slotMembers c)) := by
  have hsignals := EmitterRun.Adds.write s
    ("signals:" :: (signalDeclarations c).map Subclass.signalLine ++ ["public slots:"])
  refine (hsignals.trans (adds_slotMembers ctx _ c)).congr ?_ (fun _ => Iff.rfl) rfl
  simp [Subclass.sectionLines]

lemma adds_subclass (ctx : Context) (main : Bool) (s : EmitterRun) (c : Class) :
    s.Adds (ctx.subclassRun main c s)
      ((ctx.subclass? main c).elim [] (Subclass.lines ctx.stringClass))
      (c.name :: (ctx.subclass? main c).elim [] (Subclass.mentioned ctx.stringClass))
      ((ctx.subclass? main c).elim [] Subclass.skips) := by
  have hname := EmitterRun.Adds.note s [c.name]
  unfold subclassRun
  cases hsub : ctx.subclass? main c with
  | none => exact hname
  | some sub =>
    obtain ⟨base, -, rfl⟩ := Option.map_eq_some_iff.1 hsub
    have hopened (names lines : List String) := ((hname.trans (.note _ names)).trans
      (.write _ lines)).trans (adds_overridingMembers ctx main _ c)
    cases main with
    | false =>
      refine ((hopened _ _).trans (.write _ _)).congr ?_ ?_ ?_
      · simp [Subclass.lines, Subclass.opening]
      · simp [Subclass.mentioned, Subclass.trampolines]
      · simp [Subclass.skips]
    | true =>
      refine (((hopened _ _).trans (adds_sections ctx _ c)).trans (.write _ _)).congr ?_ ?_ ?_
      · simp [Subclass.lines, Subclass.opening]
      · intro name
        simp [Subclass.mentioned, Subclass.trampolines]
      · simp [Subclass.skips]

lemma adds_implementationClass (ctx : Context) (main : Bool) (s : EmitterRun) (c : Class) :
    s.Adds (ctx.implementationClassRun main s c)
      ((ctx.classImplementation main c).lines ctx.config.framework.rootClass ctx.stringClass)
      ((ctx.classImplementation main c).mentioned ctx.stringClass)
      (ctx.classImplementation main c).skips := by
  have hsubclass : s.Adds (if ctx.generatesSubclass c then ctx.subclassRun main c s else s)
      ((if ctx.generatesSubclass c then ctx.subclass? main c else none).elim []
        (Subclass.lines ctx.stringClass))
      ((if ctx.generatesSubclass c then [c.name] else []) ++
        (if ctx.generatesSubclass c then ctx.subclass? main c else none).elim []
          (Subclass.mentioned ctx.stringClass))
      ((if ctx.generatesSubclass c then ctx.subclass? main c else none).elim []
        Subclass.skips) := by
    split
    · exact adds_subclass ctx main s c
    · exact .refl s
  have hbodies (s : EmitterRun) : s.Adds
      (if ctx.supports c then
        ctx.walk c (ctx.defineCalls.defineOwn ctx main c)
          (ctx.defineCalls.defineInherited ctx main c) s.renew
      else s)
      ((writtenItems (if ctx.supports c then ctx.bodies main c else [])).flatMap
        (Body.lines ctx.config.framework.rootClass ctx.stringClass))
      ((writtenItems (if ctx.supports c then ctx.bodies main c else [])).flatMap fun b =>
        b.statement.mentioned ctx.stringClass)
      (skippedEntries (if ctx.supports c then ctx.bodies main c else [])) := by
    split
    · exact adds_bodies ctx main s c
    · exact .refl s
  refine (((hsubclass.trans (.note _ _)).trans (.write _ _)).trans (hbodies _)).congr ?_ ?_ ?_
  · simp [ClassImplementation.lines, classImplementation, ClassImplementation.defined]
  · intro name
    simp only [ClassImplementation.mentioned, List.append_nil, List.append_assoc]
    rfl
  · simp [ClassImplementation.skips, classImplementation]

/-! ## Modules -/

lemma adds_headerRun (ctx : Context) (module : String) (classes : List Class) :
    EmitterRun.start.Adds (ctx.headerRun module classes)
      (Header.prologue (ctx.header module classes).guard
        ++ (ctx.header module classes).classes.flatMap ClassHeader.lines ++ Header.epilogue) []
      (ctx.header module classes).skips := by
  have hprologue := EmitterRun.Adds.write EmitterRun.start
    (Header.prologue (ctx.config.includeGuard module))
  have hclasses := EmitterRun.Adds.foldl (adds_headerClass ctx (ctx.config.isMain module)) classes
  refine ((hprologue.trans (hclasses _)).trans (.write _ _)).congr ?_ ?_ ?_
  · simp [header, List.flatMap_map]
  · simp
  · simp [Header.skips, header, List.flatMap_map]

lemma adds_implementationRun (ctx : Context) (module stem : String) (classes : List Class) :
    EmitterRun.start.Adds (ctx.implementationRun module classes)
      (ctx.implementation module stem classes).classLines
      ((ctx.implementation module stem classes).classes.flatMap
        (ClassImplementation.mentioned ctx.stringClass))
      (ctx.implementation module stem classes).skips := by
  have hclasses := EmitterRun.Adds.foldl
    (adds_implementationClass ctx (ctx.config.isMain module)) classes
  refine (hclasses EmitterRun.start).congr ?_ (fun name => ?_) ?_
  · simp [Implementation.classLines, implementation, List.flatMap_map]
  · simp [implementation, List.flatMap_map]
  · simp [Implementation.skips, implementation, List.flatMap_map]

/-- The two runs of a module write its artifacts. -/
theorem writtenBy_runs (ctx : Context) (module stem : String) (classes : List Class) :
    Artifacts.WrittenBy
      { module, stem, header := ctx.header module classes,
        implementation := ctx.implementation module stem classes }
      ctx (ctx.headerRun module classes) (ctx.implementationRun module classes) where
  header_text := congrArg Text.lines (adds_headerRun ctx module classes).lines.symm
  implementation_text := by
    rw [(adds_implementationRun ctx module stem classes).lines]
    rfl
  includes := by
    refine includes_congr fun name => ?_
    rw [(adds_implementationRun ctx module stem classes).noted]
    simp [EmitterRun.start, implementation]
  ledger := by
    rw [(adds_headerRun ctx module classes).ledger,
      (adds_implementationRun ctx module stem classes).ledger]
    rfl

/-- A call that does not write its text leaves no trace but the entry of its view: the output, the
claimed symbols and the noted classes are as they were. -/
theorem skipped_leaves_no_trace {module : String} {a : Artifacts}
    (h : ctx.generate module = .ok a) :
    ∃ classes, ctx.emittedClasses module = .ok classes ∧
      a.WrittenBy ctx (ctx.headerRun module classes) (ctx.implementationRun module classes) ∧
      ∀ k ∈ (ctx.headerRun module classes).calls ++ (ctx.implementationRun module classes).calls,
        k.Sound := by
  obtain ⟨classes, hclasses, rfl⟩ := generate_eq_ok_iff.1 h
  have hnone : ∀ k ∈ EmitterRun.start.calls, k.Sound := by simp [EmitterRun.start]
  refine ⟨classes, hclasses, writtenBy_runs ctx module _ classes, fun k hk => ?_⟩
  have himplementation := adds_implementationRun ctx module (ctx.config.moduleStem module) classes
  obtain hk | hk := List.mem_append.1 hk
  · exact (adds_headerRun ctx module classes).calls hnone k hk
  · exact himplementation.calls hnone k hk

/-- A method is excluded, and the bodies of the sample leave no trace of it. -/
theorem skipped_leaves_no_trace_sample :
    let ctx : Context := { Sample.context with
      config := { exclusions := { methods := ["Counter::label"] } } }
    ∃ a, ctx.generate "main" = .ok a ∧ ∃ classes, ctx.emittedClasses "main" = .ok classes ∧
      a.WrittenBy ctx (ctx.headerRun "main" classes) (ctx.implementationRun "main" classes) ∧
      ∃ k ∈ (ctx.implementationRun "main" classes).calls,
        k.entry.name = "label" ∧ k.LeavesNoTrace .excluded := by
  intro ctx
  have hok : (ctx.generate "main").isOk = true := by decide +kernel
  obtain ⟨a, h⟩ := isOk_iff_exists.1 hok
  obtain ⟨classes, hclasses, hwritten, hsound⟩ := skipped_leaves_no_trace h
  have hsample : ctx.emittedClasses "main" = .ok [Sample.counter] := by decide +kernel
  obtain rfl : [Sample.counter] = classes := by simpa [hsample] using hclasses
  have hskipped : ∃ k ∈ (ctx.implementationRun "main" [Sample.counter]).calls,
      k.entry.name = "label" ∧ k.result = .error .excluded := by decide +kernel
  obtain ⟨k, hk, hname, hresult⟩ := hskipped
  have htrace : k.Sound := hsound k (List.mem_append_right _ hk)
  rw [Call.Sound, hresult] at htrace
  exact ⟨a, h, _, hclasses, hwritten, k, hk, hname, htrace⟩

end Context

end Bindery
