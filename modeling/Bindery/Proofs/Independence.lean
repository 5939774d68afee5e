import Mathlib.Tactic.Lemma
import Mathlib.Data.List.Sort
import Bindery.Generator
import Bindery.Proofs.Candidates
import Bindery.Proofs.Includes
import Bindery.Proofs.Trampolines

/-!
# Classes are emitted independently

A header or an implementation is written class by class.  An emitter that goes from class to class
takes with it what it has written so far, and the linkage symbols and keys of the last class that it
walked over: it forgets them where the next walk begins, and a class that fails its check is not
walked over at all.  `Context.declareClass`, `Context.defineClass` and `Context.overrideClass` are
such emitters.

That nothing leaks rests on one property of attempts: they look at the symbols that are taken, and
what they add does not depend on what was written before (`declare_after` and the theorems beside
it).  So a walk does the same with other outcomes before its own (`Walk.simulates_after`), and an
emitter that is carried through many classes leaves what each class alone would have given
(`outcomes_foldl`).

What is put together from the classes afterwards follows: texts are concatenated, ledgers and
includes united (`emission_splits`).
-/

namespace Bindery

/-! ## Walks that do not look back -/

namespace Walk

variable {α β : Type}

/-- The walk, if other outcomes had been there before its own. -/
def after (before : List (Outcome α)) (w : Walk α) : Walk α :=
  { w with outcomes := before ++ w.outcomes }

/-- The walk with all symbols and keys forgotten. -/
def renew (w : Walk α) : Walk α :=
  { w with symbols := [], keys := [] }

@[simp] lemma symbols_after (before : List (Outcome α)) (w : Walk α) :
    (w.after before).symbols = w.symbols := rfl

@[simp] lemma outcomes_after (before : List (Outcome α)) (w : Walk α) :
    (w.after before).outcomes = before ++ w.outcomes := rfl

@[simp] lemma isSettled_after (before : List (Outcome α)) (w : Walk α)
    (key : String × Option UInt32) : (w.after before).isSettled key = w.isSettled key := rfl

@[simp] lemma after_settle (before : List (Outcome α)) (w : Walk α)
    (key : String × Option UInt32) : (w.settle key).after before = (w.after before).settle key :=
  rfl

@[simp] lemma after_skip (before : List (Outcome α)) (w : Walk α) (v : View) (o : Obstacle) :
    (w.skip v o).after before = (w.after before).skip v o := by
  simp [after, skip]

@[simp] lemma after_claim (before : List (Outcome α)) (w : Walk α) (symbol : String) (a : α) :
    (w.claim symbol a).after before = (w.after before).claim symbol a := by
  simp [after, claim, write]

lemma renew_eq (w : Walk α) : w.renew = (start : Walk α).after w.outcomes := by
  simp [renew, after, start]

/-- Attempts that do not look back make walks that do not look back. -/
lemma simulates_after {ρ : Type} {attempt : Walk α → ρ → Walk α × Bool} {P : ρ → Prop}
    {before : List (Outcome α)}
    (hattempt : ∀ w r, attempt (w.after before) r =
      ((attempt w r).1.after before, (attempt w r).2)) :
    (walker attempt).Simulates (walker attempt) P fun w' w => w' = w.after before where
  isSettled := by
    rintro _ w rfl key
    exact isSettled_after before w key
  settle := by
    rintro _ w rfl key
    exact (after_settle before w key).symm
  skip := by
    rintro _ w rfl v o
    exact (after_skip before w v o).symm
  attempt := by
    rintro _ w r - rfl
    show (attempt (w.after before) r).1 = _ ∧ (attempt (w.after before) r).2 = _
    rw [hattempt]
    exact ⟨rfl, rfl⟩

/-- A walk that does not look back adds what it writes when it begins anew. -/
lemma outcomes_renew {walk : Walk α → Walk α}
    (hwalk : ∀ before w, walk (w.after before) = (walk w).after before) (w : Walk α) :
    (walk w.renew).outcomes = w.outcomes ++ (walk start).outcomes := by
  rw [renew_eq, hwalk, outcomes_after]

/-- What is carried through classes is what each of them adds, one after the other. -/
theorem outcomes_foldl {step : Walk α → β → Walk α} {added : β → List (Outcome α)}
    (h : ∀ w b, (step w b).outcomes = w.outcomes ++ added b) (l : List β) (w : Walk α) :
    (l.foldl step w).outcomes = w.outcomes ++ l.flatMap added := by
  induction l generalizing w with
  | nil => simp
  | cons b l ih =>
    rw [List.foldl_cons, ih, h, List.flatMap_cons, List.append_assoc]

end Walk

namespace Context

section
variable (ctx : Context) (main : Bool) (c : Class)
open Walk

/-- An attempt to declare a view depends on the symbols that are taken, and on nothing else. -/
lemma declare_after (v : View) (before : List (Outcome Declaration)) (w : Walk Declaration) :
    ctx.declare c v (w.after before) =
      ((ctx.declare c v w).1.after before, (ctx.declare c v w).2) := by
  unfold declare
  rw [symbols_after]
  cases ctx.declaration w.symbols c v with
  | error o => simp
  | ok d => simp

lemma define_after (v : View) (cast : String) (qualifier : Option String)
    (before : List (Outcome Body)) (w : Walk Body) :
    ctx.define c v cast qualifier (w.after before) =
      ((ctx.define c v cast qualifier w).1.after before, (ctx.define c v cast qualifier w).2) := by
  unfold define
  rw [symbols_after]
  cases ctx.body w.symbols c v cast qualifier with
  | error o => simp
  | ok b => simp

/-- An attempt at a trampoline depends on nothing at all. -/
lemma addTrampoline_after (member : String) (v : View) (before : List (Outcome Trampoline))
    (w : Walk Trampoline) :
    ctx.addTrampoline c member v (w.after before) =
      (ctx.addTrampoline c member v w).after before := by
  simp [addTrampoline, Walk.after]

lemma declarations_after (before : List (Outcome Declaration)) (w : Walk Declaration) :
    ctx.walk c (ctx.declareOwn main c) (ctx.declareInherited c) (w.after before) =
      (ctx.walk c (ctx.declareOwn main c) (ctx.declareInherited c) w).after before := by
  have hattempts : ctx.declaring.Simulates ctx.declaring (·.IsCandidate ctx main c)
      fun w' w => w' = w.after before :=
    simulates_after fun w r => declare_after ctx r.subject r.view before w
  have hwalk := hattempts.declarations (t := w) rfl
  rwa [walk_declaring] at hwalk

lemma bodies_after (before : List (Outcome Body)) (w : Walk Body) :
    ctx.walk c (ctx.defineOwn main c) (ctx.defineInherited main c) (w.after before) =
      (ctx.walk c (ctx.defineOwn main c) (ctx.defineInherited main c) w).after before := by
  have hattempts : ctx.defining.Simulates ctx.defining (·.IsCandidate ctx main c)
      fun w' w => w' = w.after before :=
    simulates_after fun w r => define_after ctx r.subject r.view r.cast r.qualifier before w
  have hwalk := hattempts.bodies (t := w) rfl
  rwa [walk_defining] at hwalk

lemma overridingMembers_after (before : List (Outcome Trampoline)) (w : Walk Trampoline) :
    ctx.walk c (ctx.overrideOwn main c) (ctx.overrideInherited c) (w.after before) =
      (ctx.walk c (ctx.overrideOwn main c) (ctx.overrideInherited c) w).after before := by
  have hattempts : ctx.forwarding.Simulates ctx.forwarding (·.IsForwarded ctx main c)
      fun w' w => w' = w.after before :=
    simulates_after fun w r => by rw [addTrampoline_after]
  have hwalk := hattempts.overridingMembers (t := w) rfl
  rwa [walk_forwarding] at hwalk

end

/-! ## Emitters that are carried through classes -/

/-- The emitter of a header after a class: it walks over a class that passes its check, with no
symbols and keys left from the classes before. -/
def declareClass (ctx : Context) (main : Bool) (w : Walk Declaration) (c : Class) :
    Walk Declaration :=
  if ctx.supports c then ctx.walk c (ctx.declareOwn main c) (ctx.declareInherited c) w.renew else w

/-- The emitter of wrapper bodies after a class. -/
def defineClass (ctx : Context) (main : Bool) (w : Walk Body) (c : Class) : Walk Body :=
  if ctx.supports c then ctx.walk c (ctx.defineOwn main c) (ctx.defineInherited main c) w.renew
  else w

/-- The emitter of generated subclasses after a class: it walks over a class that gets one. -/
def overrideClass (ctx : Context) (main : Bool) (w : Walk Trampoline) (c : Class) :
    Walk Trampoline :=
  if (ctx.classImplementation main c).subclass.isSome then
    ctx.walk c (ctx.overrideOwn main c) (ctx.overrideInherited c) w.renew
  else w

end Context

/-- The views that were tried for a class, and what became of them; none for a class that fails its
check. -/
def ClassHeader.outcomes (h : ClassHeader) : List (Outcome Declaration) :=
  h.wrappers.toOption.getD []

/-- The overriding members that were tried for a class. -/
def ClassImplementation.members (i : ClassImplementation) : List (Outcome Trampoline) :=
  i.subclass.elim [] Subclass.members

namespace Context

variable {ctx : Context} {main : Bool} {c : Class}

lemma outcomes_declareClass (w : Walk Declaration) (c : Class) :
    (ctx.declareClass main w c).outcomes = w.outcomes ++ (ctx.classHeader main c).outcomes := by
  unfold declareClass ClassHeader.outcomes classHeader
  cases hcheck : ctx.checkClass c with
  | error o =>
    have hsupports : ctx.supports c = false := supports_eq_false_iff.2 ⟨o, hcheck⟩
    simp [hsupports, Except.map, Except.toOption]
  | ok u =>
    have hsupports : ctx.supports c = true := checkClass_eq_ok_iff.1 hcheck
    rw [if_pos hsupports, Walk.outcomes_renew (declarations_after ctx main c)]
    rfl

lemma outcomes_defineClass (w : Walk Body) (c : Class) :
    (ctx.defineClass main w c).outcomes =
      w.outcomes ++ (ctx.classImplementation main c).bodies := by
  unfold defineClass classImplementation
  by_cases hsupports : ctx.supports c = true
  · rw [if_pos hsupports, if_pos hsupports, Walk.outcomes_renew (bodies_after ctx main c)]
    rfl
  · rw [if_neg hsupports, if_neg hsupports, List.append_nil]

lemma outcomes_overrideClass (w : Walk Trampoline) (c : Class) :
    (ctx.overrideClass main w c).outcomes =
      w.outcomes ++ (ctx.classImplementation main c).members := by
  unfold overrideClass ClassImplementation.members
  cases hs : (ctx.classImplementation main c).subclass with
  | none => simp
  | some s =>
    obtain ⟨base, -, rfl⟩ := Option.map_eq_some_iff.1 (subclass_eq_some_iff.1 hs).2
    rw [Option.isSome_some, if_pos rfl, Walk.outcomes_renew (overridingMembers_after ctx main c)]
    rfl

end Context

/-! ## Ledgers -/

namespace Ledger

variable {l : Ledger} {s : Skipped}

lemma record_of_mem (h : s ∈ l.entries) : l.record s = l := by
  rw [record, dif_pos h]

lemma entries_record_of_not_mem (h : s ∉ l.entries) :
    (l.record s).entries = l.entries ++ [s] := by
  rw [record, dif_neg h]

lemma recordAll_append (l : Ledger) (first second : List Skipped) :
    l.recordAll (first ++ second) = (l.recordAll first).recordAll second :=
  List.foldl_append ..

/-- A list without repetitions adds what was not there, in its order. -/
lemma entries_recordAll {entries : List Skipped} (hnodup : entries.Nodup) :
    (l.recordAll entries).entries = l.entries ++ entries.filter (· ∉ l.entries) := by
  induction entries using List.reverseRecOn with
  | nil => simp [recordAll]
  | append_singleton entries s ih =>
    obtain ⟨hentries, -, hfresh⟩ := List.nodup_append.1 hnodup
    have hs : s ∉ entries := fun h => hfresh s h s (List.mem_singleton_self s) rfl
    rw [recordAll_append, List.filter_append]
    show ((l.recordAll entries).record s).entries = _
    by_cases h : s ∈ l.entries
    · have hmem : s ∈ (l.recordAll entries).entries := mem_recordAll.2 (.inl h)
      rw [record_of_mem hmem, ih hentries]
      simp [h]
    · have hmem : s ∉ (l.recordAll entries).entries := by
        rw [mem_recordAll]
        exact not_or.2 ⟨h, hs⟩
      rw [entries_record_of_not_mem hmem, ih hentries]
      simp [h]

/-- Recording a list is recording the ledger of the list. -/
lemma recordAll_eq_merge (l : Ledger) (entries : List Skipped) :
    l.recordAll entries = l.merge (ofList entries) := by
  induction entries using List.reverseRecOn with
  | nil => rfl
  | append_singleton entries s ih =>
    have hrecord : ofList (entries ++ [s]) = (ofList entries).record s := recordAll_append ..
    rw [recordAll_append, ih, hrecord, merge, merge]
    show (l.recordAll (ofList entries).entries).record s = _
    by_cases h : s ∈ (ofList entries).entries
    · rw [record_of_mem (mem_recordAll.2 (.inr h)), record_of_mem h]
    · rw [entries_record_of_not_mem h, recordAll_append]
      rfl

theorem entries_ofList_append (first second : List Skipped) :
    (ofList (first ++ second)).entries = (ofList first).entries ++
      (ofList second).entries.filter (· ∉ (ofList first).entries) := by
  rw [ofList, recordAll_append, recordAll_eq_merge]
  exact entries_recordAll (ofList second).distinct

end Ledger

/-! ## Texts and includes -/

lemma Text.lines_append (first second : List String) :
    Text.lines (first ++ second) = Text.lines first ++ Text.lines second := by
  rw [lines, List.map_append, String.join_append]
  rfl

theorem Context.includes_append (ctx : Context) (first second : List String) :
    ctx.includes (first ++ second) =
      Text.sorted (ctx.includes first ++ ctx.includes second).eraseDups := by
  have hunion : (Text.sorted (ctx.includes first ++ ctx.includes second).eraseDups).Pairwise
      (· < ·) := Text.pairwise_lt_sorted (nodup_eraseDups _)
  refine (ctx.pairwise_lt_includes _).eq_of_mem_iff hunion fun name => ?_
  simp only [mem_includes, Text.mem_sorted, List.mem_eraseDups, List.mem_append]
  tauto

/-- The text of a header that belongs to its classes. -/
def Header.classText (h : Header) : String :=
  Text.lines (h.classes.flatMap ClassHeader.lines)

/-- The text of an implementation that belongs to its classes. -/
def Implementation.classText (i : Implementation) : String :=
  Text.lines i.classLines

lemma Header.text_eq_append (h : Header) :
    h.text = Text.lines (prologue h.guard) ++ h.classText ++ Text.lines epilogue := by
  rw [text, Text.lines_append, Text.lines_append, classText]

lemma Implementation.text_eq_append (i : Implementation) :
    i.text = Text.lines i.prologue ++ i.classText ++ Text.lines i.epilogue := by
  rw [text, Text.lines_append, Text.lines_append, classText]

/-! ## Two lists of classes -/

/-- The emission of two lists of classes, one after the other, is put together from the emissions of
each. -/
structure Context.EmissionSplits (ctx : Context) (module stem : String) (xs ys : List Class) :
    Prop where
  /-- A header is a prologue and an epilogue, in which the classes have no part, and the text of the
  classes between them. -/
  header_text : ∀ zs, (ctx.header module zs).text =
    Text.lines (Header.prologue (ctx.config.includeGuard module)) ++
      (ctx.header module zs).classText ++ Text.lines Header.epilogue
  header_classText : (ctx.header module (xs ++ ys)).classText =
    (ctx.header module xs).classText ++ (ctx.header module ys).classText
  /-- So is an implementation, with its includes in the prologue. -/
  implementation_text : ∀ zs, (ctx.implementation module stem zs).text =
    Text.lines (ctx.implementation module stem zs).prologue ++
      (ctx.implementation module stem zs).classText ++
      Text.lines (ctx.implementation module stem zs).epilogue
  implementation_classText : (ctx.implementation module stem (xs ++ ys)).classText =
    (ctx.implementation module stem xs).classText ++ (ctx.implementation module stem ys).classText
  /-- The includes are the sorted union. -/
  includes : (ctx.implementation module stem (xs ++ ys)).includes =
    Text.sorted ((ctx.implementation module stem xs).includes ++
      (ctx.implementation module stem ys).includes).eraseDups
  /-- The ledgers are first-seen unions. -/
  header_ledger : (Ledger.ofList (ctx.header module (xs ++ ys)).skips).entries =
    (Ledger.ofList (ctx.header module xs).skips).entries ++
      (Ledger.ofList (ctx.header module ys).skips).entries.filter
        (· ∉ (Ledger.ofList (ctx.header module xs).skips).entries)
  implementation_ledger :
    (Ledger.ofList (ctx.implementation module stem (xs ++ ys)).skips).entries =
      (Ledger.ofList (ctx.implementation module stem xs).skips).entries ++
        (Ledger.ofList (ctx.implementation module stem ys).skips).entries.filter
          (· ∉ (Ledger.ofList (ctx.implementation module stem xs).skips).entries)
  /-- One emitter, carried through the classes, does to them what the header says. -/
  declarations_carried : ∀ zs,
    (zs.foldl (ctx.declareClass (ctx.config.isMain module)) Walk.start).outcomes =
      (ctx.header module zs).classes.flatMap ClassHeader.outcomes
  /-- So do those that define bodies and write subclasses. -/
  bodies_carried : ∀ zs,
    (zs.foldl (ctx.defineClass (ctx.config.isMain module)) Walk.start).outcomes =
      (ctx.implementation module stem zs).classes.flatMap ClassImplementation.bodies
  members_carried : ∀ zs,
    (zs.foldl (ctx.overrideClass (ctx.config.isMain module)) Walk.start).outcomes =
      (ctx.implementation module stem zs).classes.flatMap ClassImplementation.members

namespace Context

variable {ctx : Context} {module stem : String} {xs ys : List Class}

lemma classes_header_append : (ctx.header module (xs ++ ys)).classes =
    (ctx.header module xs).classes ++ (ctx.header module ys).classes :=
  List.map_append

lemma classes_implementation_append : (ctx.implementation module stem (xs ++ ys)).classes =
    (ctx.implementation module stem xs).classes ++ (ctx.implementation module stem ys).classes :=
  List.map_append

/-- No state of an emitter reaches from one class to another, whatever the classes and their
modules. -/
theorem emission_splits (ctx : Context) (module stem : String) (xs ys : List Class) :
    ctx.EmissionSplits module stem xs ys where
  header_text zs := Header.text_eq_append _
  header_classText := by
    rw [Header.classText, classes_header_append, List.flatMap_append, Text.lines_append]
    rfl
  implementation_text zs := Implementation.text_eq_append _
  implementation_classText := by
    rw [Implementation.classText, Implementation.classLines, classes_implementation_append,
      List.flatMap_append, Text.lines_append]
    rfl
  includes := by
    simp only [implementation, List.map_append, List.flatMap_append]
    exact ctx.includes_append _ _
  header_ledger := by
    rw [Header.skips, classes_header_append, List.flatMap_append]
    exact Ledger.entries_ofList_append _ _
  implementation_ledger := by
    rw [Implementation.skips, classes_implementation_append, List.flatMap_append]
    exact Ledger.entries_ofList_append _ _
  declarations_carried zs := by
    rw [Walk.outcomes_foldl outcomes_declareClass, header, List.flatMap_map]
    rfl
  bodies_carried zs := by
    rw [Walk.outcomes_foldl outcomes_defineClass, implementation, List.flatMap_map]
    rfl
  members_carried zs := by
    rw [Walk.outcomes_foldl outcomes_overrideClass, implementation, List.flatMap_map]
    rfl

end Context

end Bindery
