import Mathlib.Data.List.Pairwise
import Mathlib.Tactic.Lemma
import Bindery.Proofs.Provenance
import Bindery.Proofs.Sample
import Bindery.Proofs.Symbols

/-!
# Managed declarations of one name

The managed declarations of a module share one package.  A method stands apart by its class.  What
has no receiver has nothing but its name: a function that makes objects, the function over a static
method, and the exported callbacks.  Such a name is put together from a word, a class and a rest,
so that two of them may be spelled alike although they are made of different parts;
`ManagedParts.entity_eq_iff` says when.  A callback is the worst case, as nothing stands between the
class and the rest.

The walk over a class claims linkage symbols, and those only for wrappers.  So the wrappers that it
lists for one owner are kept apart (`wrappers_apart`), and that is all the care that is taken:
`managed_distinct_iff` lists what may still be declared twice.  A method that connects handlers has
the name that an own method may have (`connect_repeated`).
-/

namespace Bindery

/-- What a signature declares: the method of a class, or a function. -/
def ManagedSignature.entity (s : ManagedSignature) : Option String × String :=
  (s.receiver, s.name)

/-! ## The parts of a name -/

/-- A managed name before it is put together. -/
inductive ManagedParts where
  | method (owner rest : String)
  /-- A function that makes objects. -/
  | maker (rest : String)
  /-- The function over a static method. -/
  | static (owner rest : String)
  | callback (owner rest : String)

namespace ManagedParts

variable {p q : ManagedParts}

/-- What is declared under the name. -/
def entity : ManagedParts → Option String × String
  | method owner rest => (some owner, rest)
  | maker rest => (none, "New" ++ rest)
  | static owner rest => (none, owner ++ "_" ++ rest)
  | callback owner rest => (none, "callback" ++ (owner ++ rest))

/-- The name of a static method with this owner can be taken for a word that is followed by
`after`: the owner begins with the word and runs on into what follows. -/
def RunsOn (word after owner rest : String) : Prop :=
  ∃ piece, owner = word ++ piece ∧ after = piece ++ "_" ++ rest

/-- Two names declare the same.  Methods do only if they are the same, static methods if their
symbols coincide, callbacks if owner and rest together are spelled alike; a static method may be
taken for a function that makes objects or for a callback, and these two are never taken for each
other. -/
def Coincide : ManagedParts → ManagedParts → Prop
  | method owner rest, method owner' rest' => owner = owner' ∧ rest = rest'
  | maker rest, maker rest' => rest = rest'
  | static owner rest, static owner' rest' =>
    SymbolParts.Coincide ⟨owner, rest⟩ ⟨owner', rest'⟩
  | callback owner rest, callback owner' rest' => owner ++ rest = owner' ++ rest'
  | maker after, static owner rest | static owner rest, maker after => RunsOn "New" after owner rest
  | callback owner' rest', static owner rest | static owner rest, callback owner' rest' =>
    RunsOn "callback" (owner' ++ rest') owner rest
  | _, _ => False

/-- A word without an underscore can only be the beginning of the owner. -/
lemma append_eq_iff_runsOn {word after owner rest : String} (hword : '_' ∉ word.toList) :
    word ++ after = owner ++ "_" ++ rest ↔ RunsOn word after owner rest := by
  constructor
  · intro h
    have hchars : word.toList ++ after.toList = owner.toList ++ '_' :: rest.toList := by
      simpa using congrArg String.toList h
    rcases List.append_eq_append_iff.1 hchars with ⟨piece, howner, hafter⟩ | ⟨piece, hsplit, hrest⟩
    · refine ⟨String.ofList piece, String.toList_injective ?_, String.toList_injective ?_⟩
      · simpa using howner
      · simpa using hafter
    · cases piece with
      | nil =>
        refine ⟨"", String.toList_injective ?_, String.toList_injective ?_⟩
        · simpa using hsplit.symm
        · simpa using hrest.symm
      | cons c piece =>
        -- the underscore after the owner would lie inside the word
        obtain ⟨rfl, -⟩ := List.cons.inj hrest
        rw [hsplit] at hword
        simp at hword
  · rintro ⟨piece, rfl, rfl⟩
    simp only [String.append_assoc]

lemma maker_ne_callback {rest owner rest' : String} :
    "New" ++ rest ≠ "callback" ++ (owner ++ rest') := by
  intro h
  have hchars := congrArg String.toList h
  simp at hchars

/-- Two names declare the same exactly if they coincide. -/
theorem entity_eq_iff : p.entity = q.entity ↔ p.Coincide q := by
  have hnew {after owner rest : String} :
      "New" ++ after = owner ++ "_" ++ rest ↔ RunsOn "New" after owner rest :=
    append_eq_iff_runsOn (by decide)
  have hcallback {after owner rest : String} :
      "callback" ++ after = owner ++ "_" ++ rest ↔ RunsOn "callback" after owner rest :=
    append_eq_iff_runsOn (by decide)
  have hcancel {word rest rest' : String} : word ++ rest = word ++ rest' ↔ rest = rest' := by
    simp [String.ext_iff]
  -- methods stand under their receivers, and all functions share one space of names
  cases p with
  | method owner rest =>
    cases q with
    | method | maker | static | callback => simp [entity, Coincide]
  | maker rest =>
    cases q with
    | method => simp [entity, Coincide]
    | maker => simp [entity, Coincide, hcancel]
    | static => simp [entity, Coincide, hnew]
    | callback => simp [entity, Coincide, maker_ne_callback]
  | static owner rest =>
    cases q with
    | method => simp [entity, Coincide]
    | maker => simp [entity, Coincide, eq_comm, hnew]
    | static owner' rest' =>
      have htext : owner ++ "_" ++ rest = owner' ++ "_" ++ rest' ↔
          SymbolParts.Coincide ⟨owner, rest⟩ ⟨owner', rest'⟩ := by
        rw [← SymbolParts.text_eq_iff]
        rfl
      simp [entity, Coincide, htext]
    | callback => simp [entity, Coincide, eq_comm, hcallback]
  | callback owner rest =>
    cases q with
    | method => simp [entity, Coincide]
    | maker => simp [entity, Coincide, maker_ne_callback.symm]
    | static => simp [entity, Coincide, hcallback]
    | callback => simp [entity, Coincide, hcancel]

lemma Coincide.symm (h : p.Coincide q) : q.Coincide p :=
  entity_eq_iff.1 (entity_eq_iff.2 h).symm

end ManagedParts

/-! ## The names of views -/

/-- A text without its tildes. -/
def withoutTilde (s : String) : String :=
  String.ofList (s.toList.filter (· ≠ '~'))

lemma withoutTilde_append (s t : String) :
    withoutTilde (s ++ t) = withoutTilde s ++ withoutTilde t := by
  simp [withoutTilde, String.ofList_append]

lemma identifier_eq_ok {s name : String} (h : identifier s = .ok name) : name = withoutTilde s := by
  unfold identifier at h
  split at h
  · cases h
  · exact (Except.ok.inj h).symm

namespace View

variable {v : View}

/-- What the managed name says apart from the class and from what becomes of objects. -/
def managedTail (v : View) : String :=
  v.direction.tag ++ (v.managedStem ++ v.method.overloadSuffix)

lemma rawManagedName_eq_tail (hdirection : v.direction ≠ .callback) :
    v.rawManagedName = v.managedLead ++ (v.rolePrefix ++ v.managedTail) := by
  have hdirection : (v.direction == .callback) = false := by simpa using hdirection
  unfold rawManagedName managedTail managedStem managedLead
  rw [hdirection]
  simp only [Bool.false_eq_true, if_false, String.append_assoc]

/-- The parts of the managed name. -/
def managedParts (v : View) : ManagedParts :=
  if v.method.isStatic then
    .static (withoutTilde v.owner) (withoutTilde (v.rolePrefix ++ v.managedTail))
  else if v.isConstructor then .maker (withoutTilde v.managedTail)
  else .method v.owner (withoutTilde (v.rolePrefix ++ v.managedTail))

/-- The parts of the name of the callback. -/
def callbackParts (v : View) : ManagedParts :=
  .callback (withoutTilde v.owner)
    (withoutTilde (spellTilde (titleCase v.name) ++ v.method.overloadSuffix))

end View

namespace Context

variable {ctx : Context} {v : View} {s : ManagedSignature}

lemma entity_of_managedSignature (hdirection : v.direction ≠ .callback)
    (h : ctx.managedSignature v = .ok s) : s.entity = v.managedParts.entity := by
  obtain ⟨hname, -, -, hreceiver⟩ := managedSignature_eq_ok_iff.1 h
  have hname : s.name = withoutTilde (v.managedLead ++ (v.rolePrefix ++ v.managedTail)) := by
    rw [identifier_eq_ok hname, View.rawManagedName_eq_tail hdirection]
  have hnew : withoutTilde "New" = "New" := rfl
  have hseparator : withoutTilde "_" = "_" := rfl
  rw [ManagedSignature.entity, hname, hreceiver, View.hasReceiver, View.managedParts,
    View.managedLead]
  cases hstatic : v.method.isStatic with
  | true => simp [ManagedParts.entity, withoutTilde_append, hseparator]
  | false =>
    cases hmakes : v.isConstructor with
    | true =>
      have hprefix : v.rolePrefix = "New" := by
        have hrole : v.role = .constructor := by simpa [View.isConstructor] using hmakes
        rw [View.rolePrefix, hrole]
      simp [ManagedParts.entity, withoutTilde_append, hprefix, hnew]
    | false => simp [ManagedParts.entity, withoutTilde_append]

lemma entity_of_callbackSignature (h : ctx.callbackSignature v = .ok s) :
    s.entity = v.callbackParts.entity := by
  obtain ⟨hname, -, -, hreceiver⟩ := callbackSignature_eq_ok_iff.1 h
  have hword : withoutTilde "callback" = "callback" := rfl
  rw [ManagedSignature.entity, hreceiver, identifier_eq_ok hname, View.rawCallbackName,
    View.callbackParts]
  simp only [ManagedParts.entity, withoutTilde_append, hword, String.append_assoc]

end Context

/-! ## The entries of a class -/

namespace ContractEntry

/-- The parts of the name that an entry declares. -/
def parts (e : ContractEntry) : ManagedParts :=
  if e.role = .callback then e.view.callbackParts else e.view.managedParts

/-- Two entries declare the same. -/
def Clashes (e e' : ContractEntry) : Prop :=
  e.signature ≠ none ∧ e'.signature ≠ none ∧ e.parts.Coincide e'.parts

/-- Two entries are for wrappers of one owner. -/
def AreWrappers (e e' : ContractEntry) : Prop :=
  e.role = .wrapper ∧ e'.role = .wrapper ∧ e.view.owner = e'.view.owner

lemma Clashes.symm {e e' : ContractEntry} (h : e.Clashes e') : e'.Clashes e :=
  ⟨h.2.1, h.1, h.2.2.symm⟩

end ContractEntry

namespace Context

variable {ctx : Context} {main : Bool} {c : Class} {e e' : ContractEntry} {s s' : ManagedSignature}

lemma direction_of_mem_classContract (he : e ∈ ctx.classContract main c)
    (hrole : e.role ≠ .callback) : e.view.direction ≠ .callback := by
  intro hdirection
  cases hrole' : e.role with
  | wrapper =>
    obtain ⟨-, subject, hcandidate, -⟩ := candidate_of_mem_classContract he hrole'
    by_cases hsignal : e.view.role = .signal
    · have hhook := hcandidate.isHook_iff.2 hsignal
      rw [hdirection] at hhook
      cases hhook
    · rw [hcandidate.direction_eq_plain hsignal] at hdirection
      cases hdirection
  | hook =>
    obtain ⟨-, v, d, -, -, hd, hview⟩ := isPair_of_mem he hrole'
    rw [hview] at hdirection
    have hdirection : d = .callback := hdirection
    rw [hdirection] at hd
    cases hd
  | callback => exact hrole hrole'

lemma entity_of_mem_classContract (he : e ∈ ctx.classContract main c)
    (hs : e.signature = some s) : s.entity = e.parts.entity := by
  rw [signature_of_mem he] at hs
  unfold ContractEntry.parts
  split at hs
  next hrole =>
    rw [if_pos hrole]
    exact entity_of_callbackSignature (toOption_eq_some_iff.1 hs)
  next hrole =>
    rw [if_neg hrole]
    exact entity_of_managedSignature (direction_of_mem_classContract he hrole)
      (toOption_eq_some_iff.1 hs)

lemma entities_ne_iff (he : e ∈ ctx.classContract main c) {c' : Class}
    (he' : e' ∈ ctx.classContract main c') :
    (∀ s, e.signature = some s → ∀ s', e'.signature = some s' → s.entity ≠ s'.entity) ↔
      ¬e.Clashes e' := by
  constructor
  · rintro h ⟨hs, hs', hsame⟩
    obtain ⟨s, hs⟩ := Option.ne_none_iff_exists'.1 hs
    obtain ⟨s', hs'⟩ := Option.ne_none_iff_exists'.1 hs'
    refine h s hs s' hs' ?_
    rw [entity_of_mem_classContract he hs, entity_of_mem_classContract he' hs']
    exact ManagedParts.entity_eq_iff.2 hsame
  · intro h s hs s' hs' hsame
    refine h ⟨by simp [hs], by simp [hs'], ManagedParts.entity_eq_iff.1 ?_⟩
    rw [← entity_of_mem_classContract he hs, ← entity_of_mem_classContract he' hs', hsame]

/-- A wrapper has the name that its symbol ends in. -/
lemma name_of_wrapper (he : e ∈ ctx.classContract main c) (hrole : e.role = .wrapper)
    (hs : e.signature = some s) : s.name = e.view.symbolRest := by
  obtain ⟨hsignature, -⟩ := candidate_of_mem_classContract he hrole
  rw [hsignature, toOption_eq_some_iff] at hs
  exact identifier_eq_ok (managedSignature_eq_ok_iff.1 hs).1

/-- Wrappers of one class and one owner never clash, as they would have one linkage symbol. -/
theorem wrappers_apart (main : Bool) (c : Class) :
    (ctx.classContract main c).Pairwise fun e e' => e.AreWrappers e' → ¬e.Clashes e' := by
  have hsymbols : ((wrapperViews (ctx.classContract main c)).map
      fun v => v.owner ++ "_" ++ v.symbolRest).Nodup := by
    have hdeclared : ∀ d ∈ (ctx.classHeader main c).declared,
        ((fun v => v.owner ++ "_" ++ v.symbolRest) ∘ Declaration.view) d = d.prototype.symbol :=
      fun d hd => text_parts_of_mem hd
    rw [wrapperViews_classContract, ClassHeader.views, List.map_map, List.map_congr_left hdeclared]
    exact nodup_wrapperSymbols main c
  rw [wrapperViews, List.map_map, List.Nodup, List.pairwise_map, List.pairwise_filter] at hsymbols
  refine hsymbols.imp_of_mem fun {e e'} he he' hapart hwrappers hclash => ?_
  obtain ⟨hrole, hrole', howner⟩ := hwrappers
  refine hapart (by simp [hrole]) (by simp [hrole']) ?_
  obtain ⟨hs, hs', hsame⟩ := hclash
  obtain ⟨s, hs⟩ := Option.ne_none_iff_exists'.1 hs
  obtain ⟨s', hs'⟩ := Option.ne_none_iff_exists'.1 hs'
  have hentity : s.entity = s'.entity := by
    rw [entity_of_mem_classContract he hs, entity_of_mem_classContract he' hs']
    exact ManagedParts.entity_eq_iff.2 hsame
  have hname : s.name = s'.name := congrArg Prod.snd hentity
  simp only [Function.comp_apply, howner, ← name_of_wrapper he hrole hs,
    ← name_of_wrapper he' hrole' hs', hname]

/-- The entries of a class declare different things exactly if none clash that are not both for
wrappers of one owner. -/
lemma pairwise_entities_iff (main : Bool) (c : Class) :
    ((ctx.classContract main c).Pairwise fun e e' => ∀ s, e.signature = some s →
        ∀ s', e'.signature = some s' → s.entity ≠ s'.entity) ↔
      (ctx.classContract main c).Pairwise fun e e' => e.Clashes e' → e.AreWrappers e' := by
  constructor
  · intro h
    refine h.imp_of_mem fun he he' hne hclash => ?_
    exact absurd hclash ((entities_ne_iff he he').1 hne)
  · intro h
    refine ((ctx.wrappers_apart main c).and h).imp_of_mem fun he he' hboth => ?_
    exact (entities_ne_iff he he').2 fun hclash => hboth.1 (hboth.2 hclash) hclash

lemma apart_entities_iff {c' : Class} :
    (∀ e ∈ ctx.classContract main c, ∀ e' ∈ ctx.classContract main c', ∀ s, e.signature = some s →
        ∀ s', e'.signature = some s' → s.entity ≠ s'.entity) ↔
      ∀ e ∈ ctx.classContract main c, ∀ e' ∈ ctx.classContract main c', ¬e.Clashes e' :=
  forall₂_congr fun _ he => forall₂_congr fun _ he' => entities_ne_iff he he'

/-! ## Modules -/

/-- Whatever signatures are listed for a module, they declare different things if and only if
entries of one class only clash if both are for wrappers of one owner, which they never do, and no
entry of one class clashes with an entry of another. -/
theorem managed_distinct_iff {module : String} {signatures : List ManagedSignature}
    (h : ctx.signatures module = .ok signatures) :
    (signatures.map ManagedSignature.entity).Nodup ↔
      (∀ c ∈ ctx.registry.classesIn module,
        (ctx.classContract (ctx.config.isMain module) c).Pairwise
          fun e e' => e.Clashes e' → e.AreWrappers e') ∧
      (ctx.registry.classesIn module).Pairwise fun c c' =>
        ∀ e ∈ ctx.classContract (ctx.config.isMain module) c,
          ∀ e' ∈ ctx.classContract (ctx.config.isMain module) c', ¬e.Clashes e' := by
  obtain ⟨entries, hentries, rfl⟩ := map_eq_ok.1 h
  obtain ⟨classes, hclasses, rfl⟩ := contract_eq_ok_iff.1 hentries
  have hperm : classes.Perm (ctx.registry.classesIn module) := perm_of_emittedClasses hclasses
  rw [List.Nodup, List.pairwise_map, List.pairwise_filterMap, List.pairwise_flatMap]
  simp only [pairwise_entities_iff, apart_entities_iff, hperm.mem_iff]
  refine and_congr_right fun _ => hperm.pairwise_iff ?_
  exact fun hapart e he e' he' hclash => hapart e' he' e he hclash.symm

/-- The signatures of a main-module class with a signal, a slot and an inherited virtual method
declare different things, and no two of its entries clash but for wrappers. -/
theorem managed_distinct_sample :
    ∃ signatures, Sample.context.signatures "main" = .ok signatures ∧
      (signatures.map ManagedSignature.entity).Nodup ∧
      ∀ c ∈ Sample.context.registry.classesIn "main",
        (Sample.context.classContract (Sample.context.config.isMain "main") c).Pairwise
          fun e e' => e.Clashes e' → e.AreWrappers e' := by
  have hdistinct : (Sample.context.signatures "main").toOption.any (fun signatures =>
      decide (signatures.map ManagedSignature.entity).Nodup) = true := by
    decide +kernel
  obtain ⟨signatures, h, hdistinct⟩ := any_toOption_iff.1 hdistinct
  have hnodup : (signatures.map ManagedSignature.entity).Nodup := of_decide_eq_true hdistinct
  exact ⟨signatures, h, hnodup, ((managed_distinct_iff h).1 hnodup).1⟩

end Context

/-- A class with a virtual method, and a method called as if it connected handlers of the other. -/
def Sample.connecting : Context where
  registry := {
    classes := [{
      name := "QTimer"
      module := "QtCore"
      methods := [
        { name := "tick", fullName := "QTimer::tick", dispatch := .impure, output := "void" },
        .declare "QTimer" "connectTick"] }]
    distinct := by simp }
  config := {}

/-- Both methods are declared under one name. -/
theorem connect_repeated :
    ∃ signatures, Sample.connecting.signatures "QtCore" = .ok signatures ∧
      "func (ptr *QTimer) ConnectTick(f func())" ∈ signatures.map ManagedSignature.text ∧
      "func (ptr *QTimer) ConnectTick()" ∈ signatures.map ManagedSignature.text ∧
      ¬(signatures.map ManagedSignature.entity).Nodup := by
  have hrepeated : (Sample.connecting.signatures "QtCore").toOption.any (fun signatures =>
      (signatures.map ManagedSignature.text).contains "func (ptr *QTimer) ConnectTick(f func())" &&
      (signatures.map ManagedSignature.text).contains "func (ptr *QTimer) ConnectTick()" &&
      decide ¬(signatures.map ManagedSignature.entity).Nodup) = true := by
    decide +kernel
  obtain ⟨signatures, h, hrepeated⟩ := any_toOption_iff.1 hrepeated
  simp only [Bool.and_eq_true, List.contains_iff_mem, decide_eq_true_eq] at hrepeated
  obtain ⟨⟨hconnects, hown⟩, hnodup⟩ := hrepeated
  exact ⟨signatures, h, hconnects, hown, hnodup⟩

end Bindery
