import Mathlib.Tactic.Lemma
import Mathlib.Data.List.Pairwise
import Bindery.Proofs.Accounting

/-!
# Symbols of one spelling

The functions that a header declares share one name space.  A symbol is the name of its class, an
underscore and a rest, so that two symbols may be spelled alike although they are put together from
different parts: `SymbolParts.text_eq_iff` says that the longer class then takes in the beginning of
the other rest.

Within one class, a wrapper whose symbol is taken is skipped (`SymbolsTaken` is kept by every step
of the walk).  That is all the care that is taken.  `symbols_distinct_iff` lists what may still be
spelled alike: two getters of a class, a getter and a wrapper of the class, and whatever belongs to
two classes.
-/

namespace Bindery

/-! ## The parts of a symbol -/

/-- A symbol of a C function before it is put together. -/
structure SymbolParts where
  owner : String
  rest : String
deriving DecidableEq, Repr

namespace SymbolParts

variable {p q : SymbolParts}

/-- The symbol. -/
def text (p : SymbolParts) : String :=
  p.owner ++ "_" ++ p.rest

/-- The owner of `q` is that of `p` and a piece of the rest of `p`, whose remainder is the rest of
`q`. -/
def Reaches (p q : SymbolParts) : Prop :=
  ∃ piece, q.owner = p.owner ++ "_" ++ piece ∧ p.rest = piece ++ "_" ++ q.rest

/-- Two symbols are spelled alike. -/
def Coincide (p q : SymbolParts) : Prop :=
  p = q ∨ p.Reaches q ∨ q.Reaches p

/-- Two symbols have one text exactly if their parts are the same, or one owner reaches over the
underscore into the rest of the other. -/
theorem text_eq_iff : p.text = q.text ↔ p.Coincide q := by
  have hmark : "_".toList = ['_'] := by decide
  have hsame : p.owner = q.owner ∧ p.rest = q.rest ↔ p = q := by
    cases p
    cases q
    simp
  rw [text, text, Text.append_mark_append_eq_iff hmark, hsame]
  rfl

end SymbolParts

namespace View

/-- The rest of the symbol of a view: its name as an identifier. -/
def symbolRest (v : View) : String :=
  String.ofList (v.rawManagedName.toList.filter (· ≠ '~'))

lemma linkageSymbol_eq_ok {v : View} {symbol : String} (h : v.linkageSymbol = .ok symbol) :
    symbol = v.owner ++ "_" ++ v.symbolRest := by
  obtain ⟨name, hname, rfl⟩ := map_eq_ok.1 h
  unfold managedName identifier at hname
  split at hname
  · cases hname
  · rw [← Except.ok.inj hname, symbolRest]

end View

namespace ValueGetter

/-- The parts of the symbol of a getter. -/
def parts (g : ValueGetter) : SymbolParts :=
  ⟨g.owner, g.value ++ "_Type"⟩

lemma text_parts (g : ValueGetter) : g.parts.text = g.symbol := by
  simp only [SymbolParts.text, parts, symbol, String.append_assoc]

end ValueGetter

/-- The parts of the symbol of a wrapper. -/
def Declaration.parts (d : Declaration) : SymbolParts :=
  ⟨d.view.owner, d.view.symbolRest⟩

namespace ClassHeader

/-- The symbols that the header declares for a class. -/
def symbols (h : ClassHeader) : List String :=
  h.getters.map ValueGetter.symbol ++ h.declared.map (·.prototype.symbol)

/-- The parts of these symbols. -/
def parts (h : ClassHeader) : List SymbolParts :=
  h.getters.map ValueGetter.parts ++ h.declared.map Declaration.parts

end ClassHeader

/-- The symbols that a header declares. -/
def Header.symbols (h : Header) : List String :=
  h.classes.flatMap ClassHeader.symbols

namespace Context

variable {ctx : Context} {main : Bool} {c : Class} {w : Walk Declaration}

/-! ## Declarations one by one -/

/-- The symbols that are taken are those of the declarations, each once. -/
structure SymbolsTaken (w : Walk Declaration) : Prop where
  nodup : ((writtenItems w.outcomes).map (·.prototype.symbol)).Nodup
  taken : ∀ d ∈ writtenItems w.outcomes, d.prototype.symbol ∈ w.symbols

lemma SymbolsTaken.skip (hw : SymbolsTaken w) (v : View) (o : Obstacle) :
    SymbolsTaken (w.skip v o) := by
  constructor
  · simpa using hw.nodup
  · simpa [Walk.skip] using hw.taken

/-- A declaration takes a symbol that was not taken. -/
lemma SymbolsTaken.claim {d : Declaration} (hw : SymbolsTaken w)
    (hfresh : d.prototype.symbol ∉ w.symbols) : SymbolsTaken (w.claim d.prototype.symbol d) := by
  constructor
  · rw [Walk.outcomes_claim, writtenItems_append, List.map_append]
    refine List.nodup_append.2 ⟨hw.nodup, by simp, ?_⟩
    rintro symbol hold symbol' hnew rfl
    obtain ⟨d', hd', rfl⟩ := List.mem_map.1 hold
    have hsame : d'.prototype.symbol = d.prototype.symbol := by simpa using hnew
    exact hfresh (hsame ▸ hw.taken d' hd')
  · intro d' hd'
    rw [Walk.outcomes_claim, writtenItems_append] at hd'
    rw [Walk.symbols_claim]
    rcases List.mem_append.1 hd' with hd' | hd'
    · exact List.mem_cons_of_mem _ (hw.taken d' hd')
    · have hsame : d' = d := by simpa using hd'
      exact hsame ▸ List.mem_cons_self

lemma preserves_symbolsTaken (ctx : Context) (main : Bool) (c : Class) :
    ctx.declaring.Preserves (·.IsCandidate ctx main c) SymbolsTaken where
  settle hw _ := ⟨hw.nodup, hw.taken⟩
  skip hw v o := hw.skip v o
  attempt {w r} _ hw := by
    show SymbolsTaken (ctx.declare r.subject r.view w).1
    unfold declare
    cases hd : ctx.declaration w.symbols r.subject r.view with
    | error o => exact hw.skip r.view o
    | ok d => exact hw.claim (declaration_eq_ok_iff.1 hd).2.2.2

lemma symbolsTaken_declarationWalk (main : Bool) (c : Class) :
    SymbolsTaken (ctx.declarationWalk main c) := by
  have hstart : SymbolsTaken Walk.start := ⟨List.nodup_nil, by simp [Walk.start]⟩
  have h := (preserves_symbolsTaken ctx main c).declarations hstart
  rwa [walk_declaring] at h

/-! ## One class -/

lemma declared_eq (main : Bool) (c : Class) :
    (ctx.classHeader main c).declared =
      if ctx.supports c then writtenItems (ctx.declarations main c) else [] := by
  cases hsupports : ctx.supports c with
  | true => exact (declared_of_supports main hsupports).1
  | false =>
    unfold supports at hsupports
    cases hcheck : ctx.checkClass c with
    | ok u => simp [hcheck, Except.isOk, Except.toBool] at hsupports
    | error o => simp [ClassHeader.declared, classHeader, hcheck, Except.map]

/-- No two wrappers of a class have one symbol. -/
theorem nodup_wrapperSymbols (main : Bool) (c : Class) :
    ((ctx.classHeader main c).declared.map (·.prototype.symbol)).Nodup := by
  rw [declared_eq]
  split
  · exact (symbolsTaken_declarationWalk main c).nodup
  · simp

lemma text_parts_of_mem {d : Declaration} (hd : d ∈ (ctx.classHeader main c).declared) :
    d.parts.text = d.prototype.symbol := by
  rw [declared_eq] at hd
  split at hd
  · obtain ⟨subject, -, -, hq⟩ := declares_of_mem hd
    exact (View.linkageSymbol_eq_ok (prototype_eq_ok_iff.1 hq).1).symm
  · cases hd

lemma symbols_eq_map_text (main : Bool) (c : Class) :
    (ctx.classHeader main c).symbols = (ctx.classHeader main c).parts.map SymbolParts.text := by
  have hgetters : ∀ g ∈ (ctx.classHeader main c).getters,
      g.symbol = (SymbolParts.text ∘ ValueGetter.parts) g := fun g _ => g.text_parts.symm
  have hwrappers : ∀ d ∈ (ctx.classHeader main c).declared,
      d.prototype.symbol = (SymbolParts.text ∘ Declaration.parts) d :=
    fun d hd => (text_parts_of_mem hd).symm
  rw [ClassHeader.symbols, ClassHeader.parts, List.map_append, List.map_map, List.map_map,
    List.map_congr_left hgetters, List.map_congr_left hwrappers]

/-- The symbols of two classes are apart exactly if no parts of them coincide. -/
lemma disjoint_symbols_iff {c' : Class} :
    List.Disjoint (ctx.classHeader main c).symbols (ctx.classHeader main c').symbols ↔
      ∀ p ∈ (ctx.classHeader main c).parts, ∀ q ∈ (ctx.classHeader main c').parts,
        ¬p.Coincide q := by
  rw [symbols_eq_map_text, symbols_eq_map_text]
  constructor
  · intro h p hp q hq hsame
    have htext : q.text ∈ (ctx.classHeader main c).parts.map SymbolParts.text :=
      SymbolParts.text_eq_iff.2 hsame ▸ List.mem_map_of_mem hp
    exact h htext (List.mem_map_of_mem hq)
  · rintro h symbol hsymbol hsymbol'
    obtain ⟨p, hp, rfl⟩ := List.mem_map.1 hsymbol
    obtain ⟨q, hq, hsame⟩ := List.mem_map.1 hsymbol'
    exact h p hp q hq (SymbolParts.text_eq_iff.1 hsame.symm)

lemma nodup_getterSymbols_iff (main : Bool) (c : Class) :
    ((ctx.classHeader main c).getters.map ValueGetter.symbol).Nodup ↔
      (ctx.classHeader main c).getters.Nodup := by
  refine ⟨List.Nodup.of_map _, List.Nodup.map_on fun g hg g' hg' hsame => ?_⟩
  obtain ⟨value, -, rfl⟩ := List.mem_map.1 hg
  obtain ⟨value', -, rfl⟩ := List.mem_map.1 hg'
  have hchars := congrArg String.toList hsame
  simp only [ValueGetter.symbol, String.toList_append, List.append_assoc] at hchars
  have hvalue := List.append_cancel_right (List.append_cancel_left (List.append_cancel_left hchars))
  rw [String.toList_injective hvalue]

/-- The symbols of one class are distinct exactly if its getters are, and none of them coincides
with a wrapper. -/
theorem nodup_classSymbols_iff (main : Bool) (c : Class) :
    (ctx.classHeader main c).symbols.Nodup ↔ (ctx.classHeader main c).getters.Nodup ∧
      ∀ g ∈ (ctx.classHeader main c).getters, ∀ d ∈ (ctx.classHeader main c).declared,
        ¬g.parts.Coincide d.parts := by
  rw [ClassHeader.symbols, List.nodup_append, nodup_getterSymbols_iff]
  constructor
  · rintro ⟨hgetters, -, hapart⟩
    refine ⟨hgetters, fun g hg d hd hsame => ?_⟩
    refine hapart _ (List.mem_map_of_mem hg) _ (List.mem_map_of_mem hd) ?_
    rw [← g.text_parts, ← text_parts_of_mem hd]
    exact SymbolParts.text_eq_iff.2 hsame
  · rintro ⟨hgetters, hapart⟩
    refine ⟨hgetters, nodup_wrapperSymbols main c, ?_⟩
    rintro symbol hsymbol symbol' hsymbol' rfl
    obtain ⟨g, hg, rfl⟩ := List.mem_map.1 hsymbol
    obtain ⟨d, hd, hsame⟩ := List.mem_map.1 hsymbol'
    refine hapart g hg d hd (SymbolParts.text_eq_iff.1 ?_)
    rw [g.text_parts, text_parts_of_mem hd, hsame]

/-! ## The whole header -/

/-- Whatever is generated, the functions that the header declares have distinct symbols if and only
if in each class the getters fetch different values and none coincides with a wrapper of the class,
and nothing that belongs to one class coincides with anything that belongs to another. -/
theorem symbols_distinct_iff {module : String} {a : Artifacts} (ha : ctx.generate module = .ok a) :
    a.header.symbols.Nodup ↔
      (∀ h ∈ a.header.classes, h.getters.Nodup ∧
        ∀ g ∈ h.getters, ∀ d ∈ h.declared, ¬g.parts.Coincide d.parts) ∧
      a.header.classes.Pairwise fun h h' => ∀ p ∈ h.parts, ∀ q ∈ h'.parts, ¬p.Coincide q := by
  obtain ⟨classes, -, rfl⟩ := generate_eq_ok_iff.1 ha
  simp only [Header.symbols, header, List.nodup_flatMap, List.forall_mem_map, List.pairwise_map,
    nodup_classSymbols_iff, Function.onFun, disjoint_symbols_iff]

end Context

/-- A class with a value that is fetched, and with one method. -/
def Sample.frame (method : String) : Context where
  registry := {
    classes := [{
      name := "QFrame"
      module := "QtWidgets"
      methods := [.declare "QFrame" method]
      enums := [⟨"Shape", [⟨"Style", "Box + 1"⟩]⟩] }]
    distinct := by simp }
  config := {}

/-- If the method is called `style`, the two symbols are distinct, and nothing coincides. -/
theorem symbols_distinct_sample :
    ∃ a, (Sample.frame "style").generate "QtWidgets" = .ok a ∧
      a.header.symbols = ["QFrame_Style_Type", "QFrame_Style"] ∧
      ∀ h ∈ a.header.classes, h.getters.Nodup ∧
        ∀ g ∈ h.getters, ∀ d ∈ h.declared, ¬g.parts.Coincide d.parts := by
  have hsymbols : ((Sample.frame "style").generate "QtWidgets").toOption.any (fun a =>
      decide (a.header.symbols = ["QFrame_Style_Type", "QFrame_Style"])) = true := by
    decide +kernel
  obtain ⟨a, ha, hsymbols⟩ := any_toOption_iff.1 hsymbols
  have hsymbols : a.header.symbols = ["QFrame_Style_Type", "QFrame_Style"] :=
    of_decide_eq_true hsymbols
  have hnodup : a.header.symbols.Nodup := by rw [hsymbols]; decide
  exact ⟨a, ha, hsymbols, ((Context.symbols_distinct_iff ha).1 hnodup).1⟩

/-- If it has the name of the getter, a getter and a wrapper are declared under one symbol. -/
theorem symbols_repeated :
    ∃ a, (Sample.frame "style_Type").generate "QtWidgets" = .ok a ∧
      a.header.symbols = ["QFrame_Style_Type", "QFrame_Style_Type"] ∧
      ¬a.header.symbols.Nodup := by
  have hsymbols : ((Sample.frame "style_Type").generate "QtWidgets").toOption.any (fun a =>
      decide (a.header.symbols = ["QFrame_Style_Type", "QFrame_Style_Type"])) = true := by
    decide +kernel
  obtain ⟨a, ha, hsymbols⟩ := any_toOption_iff.1 hsymbols
  have hsymbols : a.header.symbols = ["QFrame_Style_Type", "QFrame_Style_Type"] :=
    of_decide_eq_true hsymbols
  exact ⟨a, ha, hsymbols, by rw [hsymbols]; decide⟩

end Bindery
