import Mathlib.Tactic.Lemma
import Mathlib.Data.List.Basic
import Bindery.Run.Report

/-!
# What deliveries leave behind

A delivery makes its directory and writes its files.  A directory that was made once is made again
without any change, whatever else is there by then (`makeDirectory?_again`), and a file that is
written leads no path elsewhere.  So the deliveries of a run, which share their directory, come to
the same as making the directory once and writing all files one after the other
(`deliverAll_eq_writeFiles`).  Whether that succeeds can be told beforehand
(`deliverAll_failure_eq_none_iff`).

Files that lead to one place overwrite each other there.  Afterwards every file reads as it was
written exactly if no two of them lead to one place with different contents
(`read?_writeFiles_iff`).
-/

namespace Bindery

namespace FileStore

variable {s t u : FileStore} {here place : Place} {component path directory content : String}
  {files : List (String × String)} {deliveries : List Delivery}

/-! ## Directories -/

lemma hasDirectory_mono (hsubset : s.directories ⊆ t.directories)
    (h : s.hasDirectory place = true) : t.hasDirectory place = true := by
  simp only [hasDirectory, Bool.or_eq_true, List.contains_iff_mem] at h ⊢
  exact h.imp_right fun hmem => hsubset hmem

lemma enter?_mono (hsubset : s.directories ⊆ t.directories)
    (h : s.enter? here component = some place) : t.enter? here component = some place := by
  unfold enter? at h ⊢
  split_ifs at h with hstay hup hthere
  · rw [if_pos hstay, h]
  · rw [if_neg hstay, if_pos hup, h]
  · rw [Bool.and_eq_true] at hthere
    rw [if_neg hstay, if_neg hup, hthere.1, hasDirectory_mono hsubset hthere.2, ← h]
    rfl

lemma makeStep?_of_enter (h : s.enter? here component = some place) :
    makeStep? (s, here) component = some (s, place) := by
  simp [makeStep?, h]

lemma enter_of_makeStep? (h : makeStep? (s, here) component = some (t, place)) :
    t.files = s.files ∧ s.directories ⊆ t.directories ∧
      t.enter? here component = some place := by
  cases henter : s.enter? here component with
  | some p =>
    rw [makeStep?_of_enter henter] at h
    obtain ⟨rfl, rfl⟩ := Prod.mk.inj (Option.some.inj h)
    exact ⟨rfl, List.Subset.refl _, henter⟩
  | none =>
    simp only [makeStep?, henter] at h
    split_ifs at h with hprevented
    obtain ⟨rfl, rfl⟩ := Prod.mk.inj (Option.some.inj h)
    refine ⟨rfl, List.subset_append_left _ _, ?_⟩
    simp only [Bool.or_eq_true, Bool.not_eq_true', not_or, Bool.not_eq_false] at hprevented
    unfold enter? at henter ⊢
    split_ifs at henter with hstay hup
    simp [hstay, hup, hprevented.1, hasDirectory]

lemma foldlM_makeStep?_again {steps : List String}
    (h : steps.foldlM makeStep? (s, here) = some (t, place)) :
    t.files = s.files ∧ s.directories ⊆ t.directories ∧
      ∀ u : FileStore, t.directories ⊆ u.directories →
        steps.foldlM makeStep? (u, here) = some (u, place) := by
  induction steps generalizing s here with
  | nil =>
    obtain ⟨rfl, rfl⟩ := Prod.mk.inj (Option.some.inj h)
    exact ⟨rfl, List.Subset.refl _, fun u _ => rfl⟩
  | cons component rest ih =>
    rw [List.foldlM_cons, Option.bind_eq_bind, Option.bind_eq_some_iff] at h
    obtain ⟨⟨middle, there⟩, hstep, hrest⟩ := h
    obtain ⟨hfiles, hsubset, henter⟩ := enter_of_makeStep? hstep
    obtain ⟨hfiles', hsubset', hagain⟩ := ih hrest
    refine ⟨hfiles'.trans hfiles, List.Subset.trans hsubset hsubset', fun u hu => ?_⟩
    have hthere : u.enter? here component = some there :=
      enter?_mono (List.Subset.trans hsubset' hu) henter
    rw [List.foldlM_cons, makeStep?_of_enter hthere]
    exact hagain u hu

/-- Nothing is left to be made for a directory. -/
def Settled (s : FileStore) (directory : String) : Prop :=
  ∀ u : FileStore, s.directories ⊆ u.directories → u.makeDirectory? directory = some u

/-- A directory that was made changes no file, and nothing is left to be made for it. -/
theorem makeDirectory?_again (h : s.makeDirectory? directory = some t) :
    t.files = s.files ∧ t.Settled directory := by
  unfold Settled
  unfold makeDirectory? at h ⊢
  simp only [Option.bind_eq_bind, Option.pure_def] at h ⊢
  split_ifs at h ⊢ with hreachable hdot
  · obtain ⟨⟨made, there⟩, hsteps, h⟩ := Option.bind_eq_some_iff.1 h
    obtain ⟨last, hlast, h⟩ := Option.bind_eq_some_iff.1 h
    obtain rfl : made = t := Option.some.inj h
    obtain ⟨hfiles, -, hagain⟩ := foldlM_makeStep?_again hsteps
    refine ⟨hfiles, fun u hu => ?_⟩
    rw [hagain u hu, Option.bind_some, enter?_mono hu hlast, Option.bind_some]
  · obtain ⟨⟨made, there⟩, hsteps, h⟩ := Option.bind_eq_some_iff.1 h
    obtain rfl : made = t := Option.some.inj h
    obtain ⟨hfiles, -, hagain⟩ := foldlM_makeStep?_again hsteps
    exact ⟨hfiles, fun u hu => by rw [hagain u hu, Option.bind_some]⟩

/-! ## Files -/

/-- The place that a file of this path is written to, if it can be written. -/
def fileAt? (s : FileStore) (path : String) : Option Place :=
  (s.locate? path).filter fun target => !s.hasDirectory target

lemma write?_eq : s.write? path content =
    (s.fileAt? path).map fun target => { s with files := replace target content s.files } := by
  unfold write? fileAt?
  cases s.locate? path with
  | none => rfl
  | some target => cases hthere : s.hasDirectory target <;> simp [Option.filter_some, hthere]

/-- Where a path leads is a matter of the directories alone. -/
lemma fileAt?_congr (h : s.directories = t.directories) : s.fileAt? = t.fileAt? := by
  have hdirectory : s.hasDirectory = t.hasDirectory := by
    funext p
    unfold hasDirectory
    rw [h]
  have henter : s.enter? = t.enter? := by
    funext p name
    unfold enter?
    rw [hdirectory]
  funext path
  unfold fileAt? locate?
  rw [hdirectory, henter]

lemma read?_of_fileAt? (h : s.fileAt? path = some place) : s.read? path = s.files.lookup place := by
  unfold fileAt? at h
  rw [Option.filter_eq_some_iff] at h
  unfold read?
  rw [h.1]
  rfl

lemma writeFiles_cons_of_fileAt? (h : s.fileAt? path = some place) :
    s.writeFiles ((path, content) :: files) =
      writeFiles { s with files := replace place content s.files } files := by
  rw [writeFiles, write?_eq, h]
  rfl

lemma writeFiles_cons_of_not (h : s.fileAt? path = none) :
    s.writeFiles ((path, content) :: files) = (s, some (.fileNotWritten path)) := by
  rw [writeFiles, write?_eq, h]
  rfl

lemma directories_writeFiles (s : FileStore) (files : List (String × String)) :
    (s.writeFiles files).1.directories = s.directories := by
  induction files generalizing s with
  | nil => rfl
  | cons file rest ih =>
    obtain ⟨path, content⟩ := file
    cases hplace : s.fileAt? path with
    | none => rw [writeFiles_cons_of_not hplace]
    | some place =>
      rw [writeFiles_cons_of_fileAt? hplace]
      exact ih _

lemma writeFiles_append {more : List (String × String)} :
    s.writeFiles (files ++ more) =
      match s.writeFiles files with
      | (t, none) => t.writeFiles more
      | (t, some error) => (t, some error) := by
  induction files generalizing s with
  | nil => rfl
  | cons file rest ih =>
    obtain ⟨path, content⟩ := file
    cases hplace : s.fileAt? path with
    | none => rw [List.cons_append, writeFiles_cons_of_not hplace, writeFiles_cons_of_not hplace]
    | some place =>
      rw [List.cons_append, writeFiles_cons_of_fileAt? hplace, writeFiles_cons_of_fileAt? hplace]
      exact ih

/-- Files are written exactly if each of them can be: none is in the way of another. -/
lemma writeFiles_eq_none_iff :
    (s.writeFiles files).2 = none ↔ ∀ f ∈ files, (s.fileAt? f.1).isSome = true := by
  induction files generalizing s with
  | nil => simp [writeFiles]
  | cons file rest ih =>
    obtain ⟨path, content⟩ := file
    rw [List.forall_mem_cons]
    cases hplace : s.fileAt? path with
    | none => simp [writeFiles_cons_of_not hplace]
    | some place =>
      let t : FileStore := { s with files := replace place content s.files }
      have hsame : s.fileAt? = t.fileAt? := fileAt?_congr rfl
      rw [writeFiles_cons_of_fileAt? hplace, ih, hsame]
      simp [t]

/-- At a place stands what was written there last, or what stood there before if nothing was. -/
lemma lookup_writeFiles (h : (s.writeFiles files).2 = none) (place : Place) :
    (∃ f ∈ files, s.fileAt? f.1 = some place ∧
      (s.writeFiles files).1.files.lookup place = some f.2) ∨
    (∀ f ∈ files, s.fileAt? f.1 ≠ some place) ∧
      (s.writeFiles files).1.files.lookup place = s.files.lookup place := by
  induction files generalizing s with
  | nil => exact .inr ⟨nofun, rfl⟩
  | cons file rest ih =>
    obtain ⟨path, content⟩ := file
    cases hplace : s.fileAt? path with
    | none =>
      rw [writeFiles_cons_of_not hplace] at h
      cases h
    | some target =>
      let t : FileStore := { s with files := replace target content s.files }
      have hsame : s.fileAt? = t.fileAt? := fileAt?_congr rfl
      rw [writeFiles_cons_of_fileAt? hplace] at h ⊢
      rcases ih h with ⟨f, hf, hlater, hcontent⟩ | ⟨hnone, hlookup⟩
      · exact .inl ⟨f, List.mem_cons_of_mem _ hf, hsame ▸ hlater, hcontent⟩
      · rw [hlookup]
        by_cases hhere : place = target
        · subst hhere
          exact .inl ⟨_, List.mem_cons_self, hplace, lookup_replace_self place content s.files⟩
        · refine .inr ⟨?_, lookup_replace_of_ne hhere content s.files⟩
          rw [List.forall_mem_cons, hplace]
          exact ⟨fun heq => hhere (Option.some.inj heq).symm, hsame ▸ hnone⟩

lemma read?_writeFiles_of_mem (h : (s.writeFiles files).2 = none) {f : String × String}
    (hf : f ∈ files) : ∃ place, s.fileAt? f.1 = some place ∧
      (s.writeFiles files).1.read? f.1 = (s.writeFiles files).1.files.lookup place := by
  obtain ⟨place, hplace⟩ := Option.isSome_iff_exists.1 (writeFiles_eq_none_iff.1 h f hf)
  refine ⟨place, hplace, read?_of_fileAt? ?_⟩
  rw [fileAt?_congr (directories_writeFiles s files), hplace]

lemma exists_read?_writeFiles (h : (s.writeFiles files).2 = none) {f : String × String}
    (hf : f ∈ files) : ∃ g ∈ files, s.fileAt? f.1 = s.fileAt? g.1 ∧
      (s.writeFiles files).1.read? f.1 = some g.2 := by
  obtain ⟨place, hplace, hread⟩ := read?_writeFiles_of_mem h hf
  rcases lookup_writeFiles h place with ⟨g, hg, hplace', hcontent⟩ | ⟨hnone, -⟩
  · exact ⟨g, hg, hplace.trans hplace'.symm, hread.trans hcontent⟩
  · exact absurd hplace (hnone f hf)

/-- Files that could all be written read as they were written if and only if those that lead to one
place have one content. -/
theorem read?_writeFiles_iff (h : (s.writeFiles files).2 = none) :
    (∀ f ∈ files, (s.writeFiles files).1.read? f.1 = some f.2) ↔
      ∀ f ∈ files, ∀ g ∈ files, s.fileAt? f.1 = s.fileAt? g.1 → f.2 = g.2 := by
  constructor
  · intro hall f hf g hg hsame
    obtain ⟨place, hplace, hf'⟩ := read?_writeFiles_of_mem h hf
    obtain ⟨place', hplace', hg'⟩ := read?_writeFiles_of_mem h hg
    obtain rfl : place = place' := Option.some.inj (hplace.symm.trans (hsame.trans hplace'))
    exact Option.some.inj (((hall f hf).symm.trans hf').trans (hg'.symm.trans (hall g hg)))
  · intro hagree f hf
    obtain ⟨g, hg, hsame, hread⟩ := exists_read?_writeFiles h hf
    rw [hread, hagree f hf g hg hsame]

/-! ## Deliveries -/

lemma paths_deliverAll (h : (s.deliverAll deliveries).failure = none) :
    (s.deliverAll deliveries).paths = deliveries.flatMap Delivery.paths := by
  induction deliveries generalizing s with
  | nil => rfl
  | cons d rest ih =>
    rw [deliverAll] at h ⊢
    cases hdeliver : s.deliver d with
    | mk t failure =>
      rw [hdeliver] at h
      cases failure with
      | some error => cases h
      | none => exact congrArg (d.paths ++ ·) (ih h)

lemma deliverAll_of_settled (hsettled : s.Settled directory)
    (hdirectory : ∀ d ∈ deliveries, d.directory = directory) :
    (s.deliverAll deliveries).store = (s.writeFiles (deliveries.flatMap Delivery.files)).1 ∧
    (s.deliverAll deliveries).failure = (s.writeFiles (deliveries.flatMap Delivery.files)).2 := by
  induction deliveries generalizing s with
  | nil => exact ⟨rfl, rfl⟩
  | cons d rest ih =>
    rw [List.forall_mem_cons] at hdirectory
    have hdeliver : s.deliver d = s.writeFiles d.files := by
      rw [deliver, hdirectory.1, hsettled s (List.Subset.refl _)]
    simp only [deliverAll, hdeliver, List.flatMap_cons, writeFiles_append]
    have hkept := directories_writeFiles s d.files
    cases hwrite : s.writeFiles d.files with
    | mk t failure =>
      rw [hwrite] at hkept
      cases failure with
      | some error => exact ⟨rfl, rfl⟩
      | none =>
        have hsettled' : t.Settled directory := fun u hu => hsettled u (hkept ▸ hu)
        exact ih hsettled' hdirectory.2

/-- Deliveries into one directory make it, if there are any, and write their files. -/
theorem deliverAll_eq_writeFiles (hmade : s.makeDirectory? directory = some t)
    (hdirectory : ∀ d ∈ deliveries, d.directory = directory) (hne : deliveries ≠ []) :
    (s.deliverAll deliveries).store = (t.writeFiles (deliveries.flatMap Delivery.files)).1 ∧
    (s.deliverAll deliveries).failure =
      (t.writeFiles (deliveries.flatMap Delivery.files)).2 := by
  obtain ⟨-, hsettled⟩ := makeDirectory?_again hmade
  -- the first delivery comes to the same with the directory made
  have hsame : s.deliverAll deliveries = t.deliverAll deliveries := by
    cases deliveries with
    | nil => exact absurd rfl hne
    | cons d rest =>
      have hdeliver : s.deliver d = t.deliver d := by
        rw [deliver, deliver, hdirectory d List.mem_cons_self, hmade,
          hsettled t (List.Subset.refl _)]
      rw [deliverAll, deliverAll, hdeliver]
  rw [hsame]
  exact deliverAll_of_settled hsettled hdirectory

/-- The directory can be made, and then files of these paths can be written. -/
def Admits (s : FileStore) (directory : String) (paths : List String) : Prop :=
  ∃ t, s.makeDirectory? directory = some t ∧ ∀ path ∈ paths, (t.fileAt? path).isSome = true

instance (s : FileStore) (directory : String) (paths : List String) :
    Decidable (s.Admits directory paths) :=
  decidable_of_iff ((s.makeDirectory? directory).any fun t =>
      paths.all fun path => (t.fileAt? path).isSome) <| by
    simp [Admits, Option.any_eq_true]

theorem deliverAll_failure_eq_none_iff (hdirectory : ∀ d ∈ deliveries, d.directory = directory) :
    (s.deliverAll deliveries).failure = none ↔
      ∀ d ∈ deliveries, s.Admits directory d.paths := by
  cases hmade : s.makeDirectory? directory with
  | none =>
    cases deliveries with
    | nil => simp [deliverAll]
    | cons d rest =>
      have hfails : s.deliver d = (s, some (.directoryNotMade directory)) := by
        rw [deliver, hdirectory d List.mem_cons_self, hmade]
      refine iff_of_false (by simp [deliverAll, hfails]) fun hall => ?_
      obtain ⟨t, hmade', -⟩ := hall d List.mem_cons_self
      rw [hmade] at hmade'
      cases hmade'
  | some t =>
    by_cases hne : deliveries = []
    · simp [hne, deliverAll]
    · rw [(deliverAll_eq_writeFiles hmade hdirectory hne).2, writeFiles_eq_none_iff]
      simp only [Admits, hmade, Option.some.injEq, exists_eq_left', Delivery.paths,
        List.forall_mem_flatMap, List.forall_mem_map]

lemma exists_writeFiles_of_deliverAll (hdirectory : ∀ d ∈ deliveries, d.directory = directory)
    (h : (s.deliverAll deliveries).failure = none) :
    ∃ t : FileStore,
      (s.deliverAll deliveries).store = (t.writeFiles (deliveries.flatMap Delivery.files)).1 ∧
      (t.writeFiles (deliveries.flatMap Delivery.files)).2 = none := by
  cases deliveries with
  | nil => exact ⟨s, rfl, rfl⟩
  | cons d rest =>
    have hadmits := (deliverAll_failure_eq_none_iff hdirectory).1 h d List.mem_cons_self
    obtain ⟨t, hmade, -⟩ := hadmits
    obtain ⟨hstore, hfailure⟩ :=
      deliverAll_eq_writeFiles hmade hdirectory (List.cons_ne_nil d rest)
    exact ⟨t, hstore, hfailure ▸ h⟩

theorem isSome_read?_deliverAll (hdirectory : ∀ d ∈ deliveries, d.directory = directory)
    (h : (s.deliverAll deliveries).failure = none)
    (hpath : path ∈ deliveries.flatMap Delivery.paths) :
    ((s.deliverAll deliveries).store.read? path).isSome = true := by
  obtain ⟨t, hstore, hnone⟩ := exists_writeFiles_of_deliverAll hdirectory h
  obtain ⟨d, hd, hpath⟩ := List.mem_flatMap.1 hpath
  obtain ⟨f, hf, rfl⟩ := List.mem_map.1 hpath
  obtain ⟨g, -, -, hread⟩ := exists_read?_writeFiles hnone (List.mem_flatMap.2 ⟨d, hd, hf⟩)
  rw [hstore, hread]
  rfl

end FileStore

end Bindery
