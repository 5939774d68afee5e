import Bindery.CommandLine.Run
import Bindery.Proofs.Deliveries
import Bindery.Proofs.Includes
import Bindery.Proofs.Precedence

/-!
# Runs that generate

A run generates all its modules before it delivers the first.  So whatever keeps it from generating
one of them, `Context.Refuses` says what that can be, leaves the file store as it was, and nothing
is printed.  Otherwise the deliveries are all that can still fail, and if the file store admits
them the run delivers what was generated and reports the files of each module once, in the order of
the modules (`CommandLine.generation_all_or_nothing`).

The modules that are named on the command line are a set: how often and in which order they are
named changes nothing.
-/

namespace Bindery

/-! ## Modules that can be generated -/

namespace Context

variable {ctx : Context} {module directory : String} {named : List String}

lemma exists_orderedClasses_iff (hmain : ctx.config.isMain module = true) :
    (∃ ordered, ctx.orderedClasses module = .ok ordered) ↔
      ∀ c, ¬Relation.TransGen (ctx.registry.Extends module) c c := by
  have hrun : ctx.registry.OrderRun module [] (ctx.registry.classesIn module)
      (ctx.registry.orderPasses module (ctx.registry.classesIn module).length []
        (ctx.registry.classesIn module)) := Registry.orderRun_orderPasses le_rfl
  rw [orderedClasses_eq hmain]
  cases hresult : ctx.registry.orderPasses module (ctx.registry.classesIn module).length []
      (ctx.registry.classesIn module) with
  | ok ordered =>
    refine iff_of_true ⟨ordered, rfl⟩ fun c hcycle => ?_
    obtain ⟨b, hbase, -⟩ := Relation.TransGen.head'_iff.1 hcycle
    exact (hresult ▸ hrun).acyclic .start rfl c hbase.1 ⟨c, .refl, hcycle⟩
  | error left =>
    refine iff_of_false nofun fun hacyclic => ?_
    obtain ⟨hne, hsublist, hiff⟩ := (hresult ▸ hrun).leadsToCycle .start rfl
    obtain ⟨c, hc⟩ := List.exists_mem_of_ne_nil left hne
    obtain ⟨b, -, hcycle⟩ := (hiff c (hsublist.subset hc)).1 hc
    exact hacyclic b hcycle

/-- A module can be generated if it has a class and, should it be the main one, no class of it is a
direct or indirect base of itself. -/
lemma exists_generate_iff :
    (∃ a, ctx.generate module = .ok a) ↔
      (∃ c ∈ ctx.registry.classes, c.module = module) ∧
        (ctx.config.isMain module = true →
          ∀ c, ¬Relation.TransGen (ctx.registry.Extends module) c c) := by
  have hclasses : (ctx.registry.classesIn module).isEmpty = false ↔
      ∃ c ∈ ctx.registry.classes, c.module = module := by
    rw [List.isEmpty_eq_false_iff_exists_mem]
    exact exists_congr fun c => Registry.mem_classesIn
  have hgenerate : (∃ a, ctx.generate module = .ok a) ↔
      ∃ classes, ctx.emittedClasses module = .ok classes := by
    constructor
    · rintro ⟨a, h⟩
      obtain ⟨classes, hclasses, -⟩ := generate_eq_ok_iff.1 h
      exact ⟨classes, hclasses⟩
    · rintro ⟨classes, hclasses⟩
      exact ⟨_, generate_eq_ok_iff.2 ⟨classes, hclasses, rfl⟩⟩
  rw [hgenerate, ← hclasses, emittedClasses]
  cases hempty : (ctx.registry.classesIn module).isEmpty with
  | true => simp
  | false =>
    cases hmain : ctx.config.isMain module with
    | true => simpa using exists_orderedClasses_iff hmain
    | false => simp [orderedClasses, hmain]

lemma module_of_generate {a : Artifacts} (h : ctx.generate module = .ok a) :
    a.module = module ∧ a.stem = ctx.config.moduleStem module := by
  obtain ⟨classes, -, rfl⟩ := generate_eq_ok_iff.1 h
  exact ⟨rfl, rfl⟩

/-! ## Selected modules -/

/-- Whether a run that names these modules is about a module: it is named, or none is and the module
owns a class. -/
def Selects (ctx : Context) (named : List String) (module : String) : Prop :=
  module ∈ named ∨ named = [] ∧ ∃ c ∈ ctx.registry.classes, c.module = module

lemma mem_selectedModules_iff :
    module ∈ ctx.selectedModules named ↔ ctx.Selects named module := by
  cases named with
  | nil => simp [selectedModules, Selects, Registry.modules, Text.mem_sorted]
  | cons first rest => simp [selectedModules, Selects, Text.mem_sorted]

lemma pairwise_selectedModules (ctx : Context) (named : List String) :
    (ctx.selectedModules named).Pairwise (· < ·) := by
  unfold selectedModules Registry.modules
  split
  · exact Text.pairwise_lt_sorted (nodup_eraseDups _)
  · exact Text.pairwise_lt_sorted (nodup_eraseDups _)

lemma selectedModules_eq {modules : List String} (hsorted : modules.Pairwise (· < ·))
    (hmem : ∀ m, m ∈ modules ↔ ctx.Selects named m) : ctx.selectedModules named = modules := by
  refine (ctx.pairwise_selectedModules named).eq_of_mem_iff hsorted fun m => ?_
  rw [mem_selectedModules_iff, hmem]

lemma selectedModules_congr {named' : List String} (hsame : ∀ m, m ∈ named' ↔ m ∈ named) :
    ctx.selectedModules named' = ctx.selectedModules named := by
  have hnil : named' = [] ↔ named = [] := by
    simp only [List.eq_nil_iff_forall_not_mem, hsame]
  refine selectedModules_eq (ctx.pairwise_selectedModules named) fun m => ?_
  rw [mem_selectedModules_iff, Selects, Selects, hsame, hnil]

/-- Why a run that names these modules generates nothing: it is about a module without classes, or
about the main module, and there a class is a direct or indirect base of itself. -/
def Refuses (ctx : Context) (named : List String) : Prop :=
  (∃ m, ctx.Selects named m ∧ ∀ c ∈ ctx.registry.classes, c.module ≠ m) ∨
  ctx.Selects named ctx.config.framework.mainModule ∧
    ∃ c, Relation.TransGen (ctx.registry.Extends ctx.config.framework.mainModule) c c

/-- All selected modules are generated, or none. -/
lemma exists_artifacts_iff :
    (∃ artifacts, ctx.artifacts named = .ok artifacts) ↔ ¬ctx.Refuses named := by
  have hselected : (∃ artifacts, ctx.artifacts named = .ok artifacts) ↔
      ∀ m, ctx.Selects named m → ∃ a, ctx.generate m = .ok a := by
    simp only [← mem_selectedModules_iff]
    rw [← mapM_isOk_iff, artifacts, generateSelected]
    cases (ctx.selectedModules named).mapM ctx.generate <;> simp [Except.mapError]
  rw [hselected]
  simp only [exists_generate_iff, Refuses, Config.isMain, beq_iff_eq]
  constructor
  · rintro hall (⟨m, hm, hempty⟩ | ⟨hmain, c, hcycle⟩)
    · obtain ⟨c, hc, hmodule⟩ := (hall m hm).1
      exact hempty c hc hmodule
    · exact (hall _ hmain).2 rfl c hcycle
  · intro hnot m hm
    constructor
    · by_contra hempty
      push Not at hempty
      exact hnot (.inl ⟨m, hm, hempty⟩)
    · rintro rfl c hcycle
      exact hnot (.inr ⟨hm, c, hcycle⟩)

/-! ## Files of a module -/

/-- The paths of a module's files: the header's and the implementation's. -/
def modulePaths (ctx : Context) (directory module : String) : List String :=
  [ctx.headerPath directory (ctx.config.moduleStem module),
    ctx.sourcePath directory (ctx.config.moduleStem module)]

lemma paths_of_generate {a : Artifacts} (h : ctx.generate module = .ok a) :
    (ctx.delivery directory a).paths = ctx.modulePaths directory module := by
  simp [delivery, Delivery.paths, modulePaths, (module_of_generate h).2]

lemma artifacts_of_selected {modules : List String} (hmodules : ctx.selectedModules named = modules)
    {artifacts : List Artifacts} (h : modules.mapM ctx.generate = .ok artifacts) :
    ctx.artifacts named = .ok artifacts := by
  rw [Context.artifacts, generateSelected, hmodules, h]
  rfl

lemma forall₂_of_artifacts {artifacts : List Artifacts} (h : ctx.artifacts named = .ok artifacts) :
    List.Forall₂ (fun m a => ctx.generate m = .ok a) (ctx.selectedModules named) artifacts := by
  rw [← mapM_eq_ok_iff]
  unfold Context.artifacts generateSelected at h
  cases hmodules : (ctx.selectedModules named).mapM ctx.generate with
  | error e => simp [hmodules, Except.mapError] at h
  | ok as => simpa [hmodules, Except.mapError] using h

lemma mem_artifacts_iff {artifacts : List Artifacts} (h : ctx.artifacts named = .ok artifacts)
    {a : Artifacts} :
    a ∈ artifacts ↔ ∃ m, ctx.Selects named m ∧ ctx.generate m = .ok a := by
  have hgenerated := forall₂_of_artifacts h
  simp only [← mem_selectedModules_iff]
  generalize ctx.selectedModules named = modules at hgenerated
  clear h
  induction hgenerated with
  | nil => simp
  | @cons m b modules artifacts hb _ ih =>
    have hhead : ctx.generate m = .ok a ↔ a = b := by
      rw [hb, Except.ok.injEq, eq_comm]
    simp only [List.mem_cons, ih, or_and_right, exists_or, exists_eq_left, hhead]

/-- What a run delivers. -/
def deliveries (ctx : Context) (output : Option String) (artifacts : List Artifacts) :
    List Delivery :=
  artifacts.map (ctx.delivery (ctx.outputDirectory output))

lemma directory_of_deliveries {output : Option String} {artifacts : List Artifacts} :
    ∀ d ∈ ctx.deliveries output artifacts, d.directory = ctx.outputDirectory output := by
  unfold deliveries
  rw [List.forall_mem_map]
  exact fun _ _ => rfl

lemma flatMap_paths {output : Option String} {artifacts : List Artifacts}
    (h : ctx.artifacts named = .ok artifacts) :
    (ctx.deliveries output artifacts).flatMap Delivery.paths =
      (ctx.selectedModules named).flatMap (ctx.modulePaths (ctx.outputDirectory output)) := by
  let directory := ctx.outputDirectory output
  have hpaths : (ctx.selectedModules named).map (ctx.modulePaths directory) =
      artifacts.map fun a => (ctx.delivery directory a).paths := by
    rw [← List.forall₂_eq_eq_eq, List.forall₂_map_left_iff, List.forall₂_map_right_iff]
    exact (forall₂_of_artifacts h).imp fun m a ha => (paths_of_generate ha).symm
  rw [deliveries, List.flatMap_map, List.flatMap_def, List.flatMap_def, hpaths]

end Context

namespace CommandLine

variable {args : List String} {store : FileStore} {model : String} {config output : Option String}
  {named : List String} {ctx : Context}

/-! ## Plans -/

lemma plan_generate (read : Reader) :
    (Command.generate model config output named).plan read =
      (read.context config model).bind fun ctx => (ctx.artifacts named).bind fun artifacts =>
        .ok { lines := [], deliveries := ctx.deliveries output artifacts } :=
  rfl

/-- What a run does that generates these artifacts. -/
lemma run_of_artifacts
    (hargs : Command.ofArguments? args = some (.generate model config output named))
    (hctx : Reader.context store.read? config model = .ok ctx) {artifacts : List Artifacts}
    (hartifacts : ctx.artifacts named = .ok artifacts) :
    run args store = {
      exitCode :=
        if (store.deliverAll (ctx.deliveries output artifacts)).failure.isSome then 1 else 0
      output := Text.lines
        ((store.deliverAll (ctx.deliveries output artifacts)).paths.map writtenLine)
      store := (store.deliverAll (ctx.deliveries output artifacts)).store } := by
  have hplan : (Command.generate model config output named).plan store.read? =
      .ok { lines := [], deliveries := ctx.deliveries output artifacts } := by
    rw [plan_generate, hctx, Except.bind, hartifacts, Except.bind]
  simp only [run, hargs, Command.run, hplan, List.nil_append]

/-- A run that is refused, or that finds nothing to work on, comes to nothing. -/
lemma run_of_refuses
    (hargs : Command.ofArguments? args = some (.generate model config output named))
    (hrefuses : ∀ ctx, Reader.context store.read? config model = .ok ctx → ctx.Refuses named) :
    run args store = { exitCode := 1, output := "", store := store } := by
  cases hplan : (Command.generate model config output named).plan store.read? with
  | error e => simp only [run, hargs, Command.run, hplan]
  | ok plan =>
    rw [plan_generate] at hplan
    obtain ⟨ctx, hctx, hplan⟩ := bind_eq_ok.1 hplan
    obtain ⟨artifacts, hartifacts, -⟩ := bind_eq_ok.1 hplan
    exact absurd (hrefuses ctx hctx) (Context.exists_artifacts_iff.1 ⟨artifacts, hartifacts⟩)

/-! ## All or nothing -/

/-- A run that asks for generation does all of it or none.  Without configuration or model, or where
the configuration and model refuse to generate the modules, it fails, prints nothing and changes no
file, whatever could be said of other modules.  Otherwise, if the file store admits the files of
each module, it succeeds, delivers what the selected modules generate, each once and in the order of
the modules, and reports the paths, under all of which a file stands afterwards.  It does not matter
how often and in which order the modules are named. -/
theorem generation_all_or_nothing
    (hargs : Command.ofArguments? args = some (.generate model config output named)) :
    ((∀ ctx, Reader.context store.read? config model = .ok ctx → ctx.Refuses named) →
      run args store = { exitCode := 1, output := "", store := store }) ∧
    (∀ ctx, Reader.context store.read? config model = .ok ctx → ¬ctx.Refuses named →
      (∀ m, ctx.Selects named m → store.Admits (ctx.outputDirectory output)
        (ctx.modulePaths (ctx.outputDirectory output) m)) →
      ∃ (selected : List String) (artifacts : List Artifacts), selected.Pairwise (· < ·) ∧
        (∀ m, m ∈ selected ↔ ctx.Selects named m) ∧
        List.Forall₂ (fun m a => ctx.generate m = .ok a) selected artifacts ∧
        (run args store).exitCode = 0 ∧
        (run args store).output = Text.lines (selected.flatMap fun m =>
          (ctx.modulePaths (ctx.outputDirectory output) m).map writtenLine) ∧
        (run args store).store = (store.deliverAll (ctx.deliveries output artifacts)).store ∧
        ∀ m ∈ selected, ∀ path ∈ ctx.modulePaths (ctx.outputDirectory output) m,
          ((run args store).store.read? path).isSome = true) ∧
    ∀ args' named', Command.ofArguments? args' = some (.generate model config output named') →
      (∀ m, m ∈ named' ↔ m ∈ named) → run args' store = run args store := by
  refine ⟨run_of_refuses hargs, fun ctx hctx hnot hadmits => ?_,
    fun args' named' hargs' hsame => ?_⟩
  · obtain ⟨artifacts, hartifacts⟩ := Context.exists_artifacts_iff.2 hnot
    have hfailure : (store.deliverAll (ctx.deliveries output artifacts)).failure = none := by
      -- the store admits the paths of every module, so no delivery can fail
      rw [FileStore.deliverAll_failure_eq_none_iff Context.directory_of_deliveries,
        Context.deliveries, List.forall_mem_map]
      intro a ha
      obtain ⟨m, hm, hgenerate⟩ := (Context.mem_artifacts_iff hartifacts).1 ha
      rw [Context.paths_of_generate hgenerate]
      exact hadmits m hm
    rw [run_of_artifacts hargs hctx hartifacts]
    refine ⟨ctx.selectedModules named, artifacts, ctx.pairwise_selectedModules named,
      fun m => Context.mem_selectedModules_iff, Context.forall₂_of_artifacts hartifacts, ?_, ?_,
      rfl, fun m hm path hpath => ?_⟩
    · rw [hfailure]
      rfl
    · rw [FileStore.paths_deliverAll hfailure, Context.flatMap_paths hartifacts, List.map_flatMap]
    · refine FileStore.isSome_read?_deliverAll Context.directory_of_deliveries hfailure ?_
      rw [Context.flatMap_paths hartifacts]
      exact List.mem_flatMap.2 ⟨m, hm, hpath⟩
  · have hplan : (Command.generate model config output named').plan store.read? =
        (Command.generate model config output named).plan store.read? := by
      have hartifacts (ctx : Context) : ctx.artifacts named' = ctx.artifacts named := by
        rw [Context.artifacts, Context.artifacts, Context.generateSelected,
          Context.generateSelected, Context.selectedModules_congr hsame]
      simp only [plan_generate, hartifacts]
    simp only [run, hargs, hargs', Command.run, hplan]

end CommandLine

/-- Two modules, one class each. -/
def Sample.pair : Context where
  registry := {
    classes := [{ name := "QObject", module := "QtCore" }, { name := "QWindow", module := "QtGui" }]
    distinct := by decide }
  config := {}

/-- A directory with that model. -/
def Sample.pairStore : FileStore :=
  .ofFiles [("model.json", "[[[\"QObject\", \"QtCore\"], [\"QWindow\", \"QtGui\"]]]")]

lemma Context.eq_ok_of_classes {x : Except RunError Context} {ctx : Context}
    (h : x.toOption.any (fun c => c.registry.classes == ctx.registry.classes &&
      c.config == ctx.config) = true) : x = .ok ctx := by
  obtain ⟨⟨⟨classes, distinct⟩, config⟩, hx, hsame⟩ := any_toOption_iff.1 h
  simp only [Bool.and_eq_true, beq_iff_eq] at hsame
  obtain ⟨rfl, rfl⟩ := hsame
  exact hx

lemma Sample.context_of_pairStore :
    Reader.context Sample.pairStore.read? none "model.json" = .ok Sample.pair :=
  Context.eq_ok_of_classes (by decide +kernel)

namespace CommandLine

/-- Both modules, one of them named twice, and a module that is not there. -/
theorem generation_all_or_nothing_sample :
    let wanted := run ["generate", "--model", "model.json", "-oout", "--module=QtGui",
      "--module", "QtCore", "--module", "QtGui"] Sample.pairStore
    wanted.exitCode = 0 ∧
    wanted.output = "Wrote out/core.h\nWrote out/core.cpp\nWrote out/gui.h\nWrote out/gui.cpp\n" ∧
    (∀ path ∈ ["out/core.h", "out/core.cpp", "out/gui.h", "out/gui.cpp"],
      (wanted.store.read? path).isSome = true) ∧
    run ["generate", "--model", "model.json", "--module", "QtCore", "--module", "QtNetwork"]
      Sample.pairStore = { exitCode := 1, output := "", store := Sample.pairStore } := by
  have hwanted : Command.ofArguments? ["generate", "--model", "model.json", "-oout",
      "--module=QtGui", "--module", "QtCore", "--module", "QtGui"] =
        some (.generate "model.json" none (some "out") ["QtGui", "QtCore", "QtGui"]) := by
    decide +kernel
  have hmissing : Command.ofArguments? ["generate", "--model", "model.json", "--module", "QtCore",
      "--module", "QtNetwork"] =
        some (.generate "model.json" none none ["QtCore", "QtNetwork"]) := by
    decide +kernel
  have hselects : ∀ m, Sample.pair.Selects ["QtGui", "QtCore", "QtGui"] m ↔
      m ∈ ["QtCore", "QtGui"] := by
    intro m
    simp [Context.Selects]
    tauto
  have hnot : ¬Sample.pair.Refuses ["QtGui", "QtCore", "QtGui"] := by
    rintro (⟨m, hm, hempty⟩ | ⟨hmain, -⟩)
    · have howned : ∀ m ∈ ["QtCore", "QtGui"],
          ∃ c ∈ Sample.pair.registry.classes, c.module = m := by
        decide
      obtain ⟨c, hc, hmodule⟩ := howned m ((hselects m).1 hm)
      exact hempty c hc hmodule
    · rw [hselects] at hmain
      exact absurd hmain (by decide)
  have hadmits : ∀ m ∈ ["QtCore", "QtGui"],
      Sample.pairStore.Admits "out" (Sample.pair.modulePaths "out" m) := by
    decide +kernel
  obtain ⟨selected, -, hsorted, hmem, -, hexit, houtput, -, hfiles⟩ :=
    (generation_all_or_nothing hwanted).2.1 _ Sample.context_of_pairStore hnot fun m hm =>
      hadmits m ((hselects m).1 hm)
  have hselected : selected = ["QtCore", "QtGui"] := by
    refine hsorted.eq_of_mem_iff (by decide) fun m => ?_
    rw [hmem, hselects]
  have hpaths : ["QtCore", "QtGui"].flatMap (Sample.pair.modulePaths "out") =
      ["out/core.h", "out/core.cpp", "out/gui.h", "out/gui.cpp"] := by
    decide +kernel
  refine ⟨hexit, houtput.trans ?_, fun path hpath => ?_,
    (generation_all_or_nothing hmissing).1 fun ctx hctx => ?_⟩
  · rw [hselected]
    decide +kernel
  · rw [← hpaths, List.mem_flatMap] at hpath
    obtain ⟨m, hm, hpath⟩ := hpath
    exact hfiles m (hselected ▸ hm) path hpath
  · obtain rfl := Except.ok.inj (Sample.context_of_pairStore.symm.trans hctx)
    exact .inl ⟨"QtNetwork", .inl (by simp), by decide⟩

end CommandLine

end Bindery
