import Mathlib.Data.List.Pairwise
import Bindery.Proofs.Paths
import Bindery.Proofs.Runs

/-!
# Files that overwrite each other

The files of a module are named after its stem, and the stem is all that tells them from those of
another module.  Nothing is asked about it: two modules may share a stem, as `QtCore` and `core` do,
a stem may run over its dot into an extension, and the two extensions may be the same.  Then the
later file takes the place of the earlier one, and the run succeeds (`artifacts_overwritten`).

`artifacts_kept_iff` says exactly when the paths of a run are distinct and when its files hold what
was written to them.  Distinct paths are not enough for that, because different paths may lead to
one place; without slashes in the names of the files, they are.
-/

namespace Bindery

namespace Context

variable {ctx : Context} {directory m m' : String} {named : List String}

/-! ## Names of files -/

/-- The names of a module's files: the header's and the implementation's. -/
def fileNames (ctx : Context) (module : String) : List String :=
  [ctx.config.moduleStem module ++ "." ++ ctx.config.layout.headerExtension,
    ctx.config.moduleStem module ++ "." ++ ctx.config.layout.sourceExtension]

lemma modulePaths_eq (ctx : Context) (directory module : String) :
    ctx.modulePaths directory module = (ctx.fileNames module).map (Path.join directory) :=
  rfl

/-- The stem of one module goes on over the dot after the stem of another: with its extension after
it, the rest is spelled like the other extension. -/
def StemRunsOver (ctx : Context) (m m' : String) : Prop :=
  ∃ piece, ctx.config.moduleStem m = ctx.config.moduleStem m' ++ "." ++ piece ∧
    (ctx.config.layout.sourceExtension = piece ++ "." ++ ctx.config.layout.headerExtension ∨
      ctx.config.layout.headerExtension = piece ++ "." ++ ctx.config.layout.sourceExtension)

/-- A file of one module has an absolute name that is spelled like the path of a file of another. -/
def NameShadows (ctx : Context) (directory m m' : String) : Prop :=
  ∃ file ∈ ctx.fileNames m, ∃ file' ∈ ctx.fileNames m', Path.Shadows directory file file'

/-- Two modules have a file of one path. -/
def FilesClash (ctx : Context) (directory m m' : String) : Prop :=
  ctx.config.moduleStem m = ctx.config.moduleStem m' ∨
    ctx.StemRunsOver m m' ∨ ctx.StemRunsOver m' m ∨
    ctx.NameShadows directory m m' ∨ ctx.NameShadows directory m' m

lemma ne_append_dot (piece extension : String) : extension ≠ piece ++ "." ++ extension := by
  intro h
  have hlength := congrArg String.length h
  simp only [String.length_append] at hlength
  have hdot : ".".length = 1 := rfl
  omega

/-- Two modules share the name of a file if they share their stems or one stem runs over the dot of
the other. -/
lemma exists_fileName_iff :
    (∃ file ∈ ctx.fileNames m, file ∈ ctx.fileNames m') ↔
      ctx.config.moduleStem m = ctx.config.moduleStem m' ∨
        ctx.StemRunsOver m m' ∨ ctx.StemRunsOver m' m := by
  have hdot : ".".toList = ['.'] := by decide
  simp only [fileNames, List.mem_cons, List.not_mem_nil, or_false, exists_eq_or_imp,
    exists_eq_left, Text.append_mark_append_eq_iff hdot, ne_append_dot, and_false, exists_false,
    and_true]
  unfold StemRunsOver
  simp only [and_or_left, exists_or]
  constructor
  · rintro ((h | ⟨h, -⟩ | h | h) | (⟨h, -⟩ | h | h) | h)
    · exact .inl h
    · exact .inl h
    · exact .inr (.inr (.inr h))
    · exact .inr (.inl (.inl h))
    · exact .inl h
    · exact .inr (.inr (.inl h))
    · exact .inr (.inl (.inr h))
    · exact .inl h
  · rintro (h | (h | h) | (h | h))
    · exact .inl (.inl h)
    · exact .inl (.inr (.inr (.inr h)))
    · exact .inr (.inl (.inr (.inr h)))
    · exact .inr (.inl (.inr (.inl h)))
    · exact .inl (.inr (.inr (.inl h)))

/-- Two modules have a path in common exactly if their files clash. -/
lemma exists_modulePath_iff :
    (∃ path ∈ ctx.modulePaths directory m, path ∈ ctx.modulePaths directory m') ↔
      ctx.FilesClash directory m m' := by
  have hpaths : (∃ path ∈ ctx.modulePaths directory m, path ∈ ctx.modulePaths directory m') ↔
      ∃ file ∈ ctx.fileNames m, ∃ file' ∈ ctx.fileNames m',
        Path.join directory file = Path.join directory file' := by
    simp only [modulePaths_eq, List.mem_map]
    constructor
    · rintro ⟨-, ⟨file, hfile, rfl⟩, file', hfile', hsame⟩
      exact ⟨file, hfile, file', hfile', hsame.symm⟩
    · rintro ⟨file, hfile, file', hfile', hsame⟩
      exact ⟨_, ⟨file, hfile, rfl⟩, file', hfile', hsame.symm⟩
  have hclash : ctx.FilesClash directory m m' ↔
      (∃ file ∈ ctx.fileNames m, file ∈ ctx.fileNames m') ∨
        ctx.NameShadows directory m m' ∨ ctx.NameShadows directory m' m := by
    rw [FilesClash, exists_fileName_iff, or_assoc, or_assoc]
  rw [hpaths, hclash]
  simp only [Path.join_eq_join_iff, NameShadows]
  constructor
  · rintro ⟨file, hfile, file', hfile', rfl | hshadows | hshadows⟩
    · exact .inl ⟨file, hfile, hfile'⟩
    · exact .inr (.inl ⟨file, hfile, file', hfile', hshadows⟩)
    · exact .inr (.inr ⟨file', hfile', file, hfile, hshadows⟩)
  · rintro (⟨file, hfile, hfile'⟩ | ⟨file, hfile, file', hfile', hshadows⟩ |
      ⟨file', hfile', file, hfile, hshadows⟩)
    · exact ⟨file, hfile, file, hfile', .inl rfl⟩
    · exact ⟨file, hfile, file', hfile', .inr (.inl hshadows)⟩
    · exact ⟨file, hfile, file', hfile', .inr (.inr hshadows)⟩

lemma isAbsolute_of_mem_fileNames {file : String} (h : file ∈ ctx.fileNames m) :
    Path.isAbsolute file = Path.isAbsolute (ctx.config.moduleStem m) := by
  have hstem (stem extension : String) :
      Path.isAbsolute (stem ++ "." ++ extension) = Path.isAbsolute stem := by
    unfold Path.isAbsolute Text.startsWith
    rw [String.toList_append, String.toList_append]
    cases stem.toList with
    | nil => rfl
    | cons c cs => simp [List.isPrefixOf]
  simp only [fileNames, List.mem_cons, List.not_mem_nil, or_false] at h
  rcases h with rfl | rfl
  · exact hstem _ _
  · exact hstem _ _

lemma nodup_modulePaths_iff :
    (ctx.modulePaths directory m).Nodup ↔
      ctx.config.layout.headerExtension ≠ ctx.config.layout.sourceExtension := by
  have hshadows {file file' : String} (h : file ∈ ctx.fileNames m) (h' : file' ∈ ctx.fileNames m) :
      ¬Path.Shadows directory file file' := by
    rintro ⟨habsolute, hrelative, -⟩
    rw [isAbsolute_of_mem_fileNames h] at habsolute
    rw [isAbsolute_of_mem_fileNames h', habsolute] at hrelative
    cases hrelative
  have hjoin : ∀ file ∈ ctx.fileNames m, ∀ file' ∈ ctx.fileNames m,
      Path.join directory file = Path.join directory file' ↔ file = file' := by
    intro file h file' h'
    rw [Path.join_eq_join_iff]
    exact or_iff_left (not_or_intro (hshadows h h') (hshadows h' h))
  have hheader : _ ∈ ctx.fileNames m := List.mem_cons_self
  have hsource : _ ∈ ctx.fileNames m := List.mem_cons_of_mem _ List.mem_cons_self
  have hsame := hjoin _ hheader _ hsource
  simp only [modulePaths, headerPath, sourcePath, List.nodup_cons, List.mem_singleton,
    List.not_mem_nil, not_false_eq_true, List.nodup_nil, and_true]
  rw [hsame, String.append_right_inj]

/-- The paths of a run are distinct if the extensions are and no two of its modules clash. -/
theorem nodup_paths_iff :
    ((ctx.selectedModules named).flatMap (ctx.modulePaths directory)).Nodup ↔
      ((∃ m, ctx.Selects named m) →
        ctx.config.layout.headerExtension ≠ ctx.config.layout.sourceExtension) ∧
      ∀ m m', ctx.Selects named m → ctx.Selects named m' → m ≠ m' →
        ¬ctx.FilesClash directory m m' := by
  have hdisjoint (m m' : String) : List.Disjoint (ctx.modulePaths directory m)
      (ctx.modulePaths directory m') ↔ ¬ctx.FilesClash directory m m' := by
    rw [← exists_modulePath_iff, List.Disjoint]
    push Not
    rfl
  have hsymm : Std.Symm (Function.onFun List.Disjoint (ctx.modulePaths directory)) :=
    ⟨fun _ _ h => List.Disjoint.symm h⟩
  have hmodules : (ctx.selectedModules named).Nodup := by
    refine (ctx.pairwise_selectedModules named).imp fun {m m'} hlt heq => ?_
    subst heq
    exact String.lt_irrefl m hlt
  rw [List.nodup_flatMap]
  simp only [nodup_modulePaths_iff, mem_selectedModules_iff, forall_exists_index]
  refine and_congr Iff.rfl ?_
  constructor
  · intro hpairwise m m' hm hm' hne
    rw [← hdisjoint]
    exact hpairwise.forall (mem_selectedModules_iff.2 hm) (mem_selectedModules_iff.2 hm') hne
  · intro hapart
    refine hmodules.pairwise_of_forall_ne fun m hm m' hm' hne => ?_
    exact (hdisjoint m m').2 (hapart m m' (mem_selectedModules_iff.1 hm)
      (mem_selectedModules_iff.1 hm') hne)

/-! ## Contents of files -/

/-- The artifacts of a module that a run is about. -/
def Generates (ctx : Context) (named : List String) (a : Artifacts) : Prop :=
  ∃ m, ctx.Selects named m ∧ ctx.generate m = .ok a

/-- Header and implementation of a module stand under their paths. -/
def Keeps (ctx : Context) (directory : String) (s : FileStore) (a : Artifacts) : Prop :=
  s.read? (ctx.headerPath directory a.stem) = some a.header.text ∧
    s.read? (ctx.sourcePath directory a.stem) = some a.implementation.text

instance (ctx : Context) (directory : String) (s : FileStore) (a : Artifacts) :
    Decidable (ctx.Keeps directory s a) :=
  inferInstanceAs (Decidable (_ ∧ _))

lemma keeps_iff {s : FileStore} {a : Artifacts} :
    ctx.Keeps directory s a ↔ ∀ f ∈ (ctx.delivery directory a).files, s.read? f.1 = some f.2 := by
  simp [Keeps, delivery]

lemma exists_name_of_mem_files {a : Artifacts} (h : ctx.Generates named a) {f : String × String}
    (hf : f ∈ (ctx.delivery directory a).files) :
    ∃ m, ctx.Selects named m ∧ ∃ name ∈ ctx.fileNames m, f.1 = Path.join directory name := by
  obtain ⟨m, hm, hgenerate⟩ := h
  have hpath : f.1 ∈ ctx.modulePaths directory m := by
    rw [← paths_of_generate hgenerate]
    exact List.mem_map_of_mem hf
  rw [modulePaths_eq] at hpath
  obtain ⟨name, hname, hjoin⟩ := List.mem_map.1 hpath
  exact ⟨m, hm, name, hname, hjoin.symm⟩

end Context

namespace CommandLine

variable {args : List String} {store : FileStore} {model : String} {config output : Option String}
  {named : List String} {ctx : Context}

lemma exists_writeFiles_of_run
    (hargs : Command.ofArguments? args = some (.generate model config output named))
    (hctx : Reader.context store.read? config model = .ok ctx)
    (hexit : (run args store).exitCode = 0) :
    ∃ (artifacts : List Artifacts) (t : FileStore), ctx.artifacts named = .ok artifacts ∧
      (run args store).store =
        (t.writeFiles ((ctx.deliveries output artifacts).flatMap Delivery.files)).1 ∧
      (t.writeFiles ((ctx.deliveries output artifacts).flatMap Delivery.files)).2 = none := by
  by_cases hrefuses : ctx.Refuses named
  · have hfails : run args store = { exitCode := 1, output := "", store := store } := by
      refine run_of_refuses hargs fun ctx' hctx' => ?_
      obtain rfl := Except.ok.inj (hctx.symm.trans hctx')
      exact hrefuses
    rw [hfails] at hexit
    cases hexit
  · obtain ⟨artifacts, hartifacts⟩ := Context.exists_artifacts_iff.2 hrefuses
    have hrun := run_of_artifacts hargs hctx hartifacts
    have hfailure : (store.deliverAll (ctx.deliveries output artifacts)).failure = none := by
      rw [hrun] at hexit
      by_contra hsome
      simp [Option.isSome_iff_ne_none.2 hsome] at hexit
    obtain ⟨t, hstore, hnone⟩ :=
      FileStore.exists_writeFiles_of_deliverAll Context.directory_of_deliveries hfailure
    exact ⟨artifacts, t, hartifacts, by rw [hrun, hstore], hnone⟩

/-- The files of a run, as they are written. -/
lemma mem_files_iff {artifacts : List Artifacts} (hartifacts : ctx.artifacts named = .ok artifacts)
    {f : String × String} :
    f ∈ (ctx.deliveries output artifacts).flatMap Delivery.files ↔
      ∃ a, ctx.Generates named a ∧ f ∈ (ctx.delivery (ctx.outputDirectory output) a).files := by
  simp only [Context.deliveries, List.mem_flatMap, List.mem_map, Context.mem_artifacts_iff
    hartifacts, Context.Generates]
  constructor
  · rintro ⟨-, ⟨a, ha, rfl⟩, hf⟩
    exact ⟨a, ha, hf⟩
  · rintro ⟨a, ha, hf⟩
    exact ⟨_, ⟨a, ha, rfl⟩, hf⟩

/-- If no file has a slash in its name and the paths of a run are distinct, no two of its files lead
to one place. -/
lemma eq_of_fileAt? {artifacts : List Artifacts} {t : FileStore} {place : Place}
    {f g : String × String} (hartifacts : ctx.artifacts named = .ok artifacts)
    (hplain : ∀ m, ctx.Selects named m → ∀ name ∈ ctx.fileNames m, '/' ∉ name.toList)
    (hnodup : ((ctx.selectedModules named).flatMap
      (ctx.modulePaths (ctx.outputDirectory output))).Nodup)
    (hf : f ∈ (ctx.deliveries output artifacts).flatMap Delivery.files)
    (hg : g ∈ (ctx.deliveries output artifacts).flatMap Delivery.files)
    (hat : t.fileAt? f.1 = some place) (hat' : t.fileAt? g.1 = some place) : f = g := by
  obtain ⟨a, ha, hfile⟩ := (mem_files_iff hartifacts).1 hf
  obtain ⟨a', ha', hfile'⟩ := (mem_files_iff hartifacts).1 hg
  obtain ⟨m, hm, name, hname, hjoin⟩ := Context.exists_name_of_mem_files ha hfile
  obtain ⟨m', hm', name', hname', hjoin'⟩ := Context.exists_name_of_mem_files ha' hfile'
  have hnames : name = name' :=
    FileStore.eq_of_fileAt?_join (hplain m hm name hname) (hplain m' hm' name' hname')
      (hjoin ▸ hat) (hjoin' ▸ hat')
  have hpaths :
      (((ctx.deliveries output artifacts).flatMap Delivery.files).map Prod.fst).Nodup := by
    rw [List.map_flatMap]
    exact (Context.flatMap_paths hartifacts).symm ▸ hnodup
  refine List.inj_on_of_nodup_map hpaths hf hg ?_
  rw [hjoin, hjoin', hnames]

/-- Of a run that succeeds: its paths are distinct if and only if the extensions of the files are
and no two modules clash; its files hold what was generated if and only if no two files of different
contents lead to one place; and if no file has a slash in its name, distinct paths are enough for
that. -/
theorem artifacts_kept_iff
    (hargs : Command.ofArguments? args = some (.generate model config output named))
    (hctx : Reader.context store.read? config model = .ok ctx)
    (hexit : (run args store).exitCode = 0) :
    let directory := ctx.outputDirectory output
    let paths := (ctx.selectedModules named).flatMap (ctx.modulePaths directory)
    let store' := (run args store).store
    (paths.Nodup ↔
      ((∃ m, ctx.Selects named m) →
        ctx.config.layout.headerExtension ≠ ctx.config.layout.sourceExtension) ∧
      ∀ m m', ctx.Selects named m → ctx.Selects named m' → m ≠ m' →
        ¬ctx.FilesClash directory m m') ∧
    ((∀ a, ctx.Generates named a → ctx.Keeps directory store' a) ↔
      ∀ a a', ctx.Generates named a → ctx.Generates named a' →
        ∀ f ∈ (ctx.delivery directory a).files, ∀ g ∈ (ctx.delivery directory a').files,
          store'.fileAt? f.1 = store'.fileAt? g.1 → f.2 = g.2) ∧
    ((∀ m, ctx.Selects named m → ∀ name ∈ ctx.fileNames m, '/' ∉ name.toList) → paths.Nodup →
      ∀ a, ctx.Generates named a → ctx.Keeps directory store' a) := by
  intro directory paths store'
  obtain ⟨artifacts, t, hartifacts, hstore, hnone⟩ := exists_writeFiles_of_run hargs hctx hexit
  have hplace : store'.fileAt? = t.fileAt? :=
    FileStore.fileAt?_congr
      ((congrArg FileStore.directories hstore).trans (FileStore.directories_writeFiles t _))
  have hkept : (∀ a, ctx.Generates named a → ctx.Keeps directory store' a) ↔
      ∀ a a', ctx.Generates named a → ctx.Generates named a' →
        ∀ f ∈ (ctx.delivery directory a).files, ∀ g ∈ (ctx.delivery directory a').files,
          store'.fileAt? f.1 = store'.fileAt? g.1 → f.2 = g.2 := by
    have hread := FileStore.read?_writeFiles_iff hnone
    rw [← hstore, ← hplace] at hread
    simp only [mem_files_iff hartifacts] at hread
    simp only [Context.keeps_iff]
    constructor
    · -- two files at one place hold what was written there last
      intro hall a a' ha ha' f hf g hg
      exact hread.1 (fun f ⟨a, ha, hf⟩ => hall a ha f hf) f ⟨a, ha, hf⟩ g ⟨a', ha', hg⟩
    · intro hagree a ha f hf
      exact hread.2 (fun f ⟨a, ha, hf⟩ g ⟨a', ha', hg⟩ => hagree a a' ha ha' f hf g hg) f
        ⟨a, ha, hf⟩
  refine ⟨Context.nodup_paths_iff, hkept, fun hplain hnodup => hkept.2 ?_⟩
  intro a a' ha ha' f hf g hg hsame
  have hmem : f ∈ (ctx.deliveries output artifacts).flatMap Delivery.files :=
    (mem_files_iff hartifacts).2 ⟨a, ha, hf⟩
  have hmem' : g ∈ (ctx.deliveries output artifacts).flatMap Delivery.files :=
    (mem_files_iff hartifacts).2 ⟨a', ha', hg⟩
  obtain ⟨place, hat⟩ :=
    Option.isSome_iff_exists.1 (FileStore.writeFiles_eq_none_iff.1 hnone f hmem)
  rw [hplace] at hsame
  rw [eq_of_fileAt? hartifacts hplain hnodup hmem hmem' hat (hsame ▸ hat)]

/-- Two modules with files of their own. -/
theorem artifacts_kept_sample :
    (run ["generate", "--model", "model.json", "--output", "out", "--module", "QtCore",
      "--module", "QtGui"] Sample.pairStore).exitCode = 0 ∧
    ∀ a, Sample.pair.Generates ["QtCore", "QtGui"] a → Sample.pair.Keeps "out"
      (run ["generate", "--model", "model.json", "--output", "out", "--module", "QtCore",
        "--module", "QtGui"] Sample.pairStore).store a := by
  have hargs : Command.ofArguments? ["generate", "--model", "model.json", "--output", "out",
      "--module", "QtCore", "--module", "QtGui"] =
        some (.generate "model.json" none (some "out") ["QtCore", "QtGui"]) := by
    decide +kernel
  have hmodules : Sample.pair.selectedModules ["QtCore", "QtGui"] = ["QtCore", "QtGui"] := by
    apply Context.selectedModules_eq (by decide)
    simp [Context.Selects]
  have hgenerated : (["QtCore", "QtGui"].mapM Sample.pair.generate).toOption.any (fun artifacts =>
      decide ((Sample.pairStore.deliverAll
        (Sample.pair.deliveries (some "out") artifacts)).failure = none)) = true := by
    decide +kernel
  obtain ⟨artifacts, hartifacts, hfailure⟩ := any_toOption_iff.1 hgenerated
  have hrun := run_of_artifacts hargs Sample.context_of_pairStore
    (Context.artifacts_of_selected hmodules hartifacts)
  have hexit : (run ["generate", "--model", "model.json", "--output", "out", "--module", "QtCore",
      "--module", "QtGui"] Sample.pairStore).exitCode = 0 := by
    rw [hrun, of_decide_eq_true hfailure]
    rfl
  obtain ⟨-, -, hkept⟩ := artifacts_kept_iff hargs Sample.context_of_pairStore hexit
  refine ⟨hexit, hkept (fun m hm => ?_) ?_⟩
  · have hplain : ∀ m ∈ ["QtCore", "QtGui"], ∀ name ∈ Sample.pair.fileNames m,
        '/' ∉ name.toList := by
      decide +kernel
    exact hplain m (by simpa [Context.Selects] using hm)
  · rw [hmodules]
    decide +kernel

end CommandLine

/-- Two modules that share a stem, one class each. -/
def Sample.sharedStem : Context where
  registry := {
    classes := [{ name := "QObject", module := "QtCore" }, { name := "Kernel", module := "core" }]
    distinct := by decide }
  config := {}

/-- A directory with that model. -/
def Sample.sharedStemStore : FileStore :=
  .ofFiles [("model.json", "[[[\"QObject\", \"QtCore\"], [\"Kernel\", \"core\"]]]")]

/-- The run succeeds, and the files of `QtCore` are lost: those of `core` have the same paths. -/
theorem artifacts_overwritten :
    ∃ a, Reader.context Sample.sharedStemStore.read? none "model.json" = .ok Sample.sharedStem ∧
      Sample.sharedStem.generate "QtCore" = .ok a ∧
      (CommandLine.run ["generate", "--model", "model.json"] Sample.sharedStemStore).exitCode = 0 ∧
      ¬((Sample.sharedStem.selectedModules []).flatMap (Sample.sharedStem.modulePaths ".")).Nodup ∧
      ¬Sample.sharedStem.Keeps "."
        (CommandLine.run ["generate", "--model", "model.json"] Sample.sharedStemStore).store a := by
  have hctx : Reader.context Sample.sharedStemStore.read? none "model.json" =
      .ok Sample.sharedStem :=
    Context.eq_ok_of_classes (by decide +kernel)
  have hmodules : Sample.sharedStem.selectedModules [] = ["QtCore", "core"] := by
    apply Context.selectedModules_eq (by decide)
    simp [Context.Selects, Sample.sharedStem, eq_comm]
  have hgenerated : (["QtCore", "core"].mapM Sample.sharedStem.generate).toOption.any
      (fun artifacts => (Sample.sharedStem.generate "QtCore").toOption.any fun a =>
        let report := Sample.sharedStemStore.deliverAll
          (Sample.sharedStem.deliveries none artifacts)
        decide (report.failure = none ∧ ¬Sample.sharedStem.Keeps "." report.store a)) = true := by
    decide +kernel
  obtain ⟨artifacts, hartifacts, hlost⟩ := any_toOption_iff.1 hgenerated
  obtain ⟨a, ha, hlost⟩ := any_toOption_iff.1 hlost
  obtain ⟨hfailure, hlost⟩ := of_decide_eq_true hlost
  have hargs : CommandLine.Command.ofArguments? ["generate", "--model", "model.json"] =
      some (.generate "model.json" none none []) := by
    decide +kernel
  have hrun := CommandLine.run_of_artifacts hargs hctx
    (Context.artifacts_of_selected hmodules hartifacts)
  rw [hrun, hfailure, hmodules]
  exact ⟨a, hctx, ha, rfl, by decide +kernel, hlost⟩

end Bindery
