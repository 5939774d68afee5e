import Mathlib.Tactic.Lemma
import Mathlib.Data.List.Basic
import Bindery.Proofs.Checks
import Bindery.Proofs.Sample
import Bindery.Proofs.Tokens

/-!
# What type tokens mean

A token without an instantiation is read flatly and looked up in four tables: the string class, the
classes, the enumerations and the primitives (`Context.Names`).  `tokens_crossing_iff` says which
tokens mean something and what.  Two names are not looked up as they stand: `void` is never a name
of the tables, whatever they hold, and a name that the configuration gives an alias stands for the
alias alone, even if it is a primitive itself.

An instantiation puts its own token in the place of a base and adds up the qualifiers of both, which
is what reading the two texts one after the other does (`TypeToken.parse_qualified`).  Where the
text of the instantiation opens a bracket, marks behind it may be hidden, but then neither reading
means anything.
-/

namespace Bindery

open Unicode

namespace TypeToken

variable {t : TypeToken}

/-- The callee gets a copy or a constant reference. -/
def ValueLike (t : TypeToken) : Prop :=
  t.pointers = 0 ∧ (t.references = 0 ∨ t.references = 1 ∧ t.isConst = true)

lemma isValueLike_iff : t.isValueLike = true ↔ t.ValueLike := by
  simp [isValueLike, ValueLike]

end TypeToken

namespace Context

variable {ctx : Context} {v : View} {text scope : String} {t : TypeToken} {k : TypeKind}

/-! ## The tables -/

/-- What the tables make of a token, the first one that knows its base deciding.  `stands` says
which primitive a name stands for. -/
inductive Names (ctx : Context) (stands : String → Primitive → Prop) (scope : String)
    (t : TypeToken) : TypeKind → Prop
  | string (hstring : t.base = ctx.stringClass) (hvalue : t.ValueLike) :
      ctx.Names stands scope t .string
  | byValue {c : Class} (hstring : t.base ≠ ctx.stringClass)
      (hclass : ctx.registry.find? t.base = some c) (hpointers : t.pointers = 0) :
      ctx.Names stands scope t (.object c.name false t.isConst)
  | byPointer {c : Class} (hstring : t.base ≠ ctx.stringClass)
      (hclass : ctx.registry.find? t.base = some c) (hpointers : t.pointers = 1)
      (hreferences : t.references = 0) : ctx.Names stands scope t (.object c.name true t.isConst)
  | enumeration {c : Class} {e : Enumeration} (hstring : t.base ≠ ctx.stringClass)
      (hclass : ctx.registry.find? t.base = none)
      (henum : ctx.registry.findEnum? t.base scope = some (c, e)) (hvalue : t.ValueLike) :
      ctx.Names stands scope t (.enumeration c.name e.name)
  | primitive {p : Primitive} (hstring : t.base ≠ ctx.stringClass)
      (hclass : ctx.registry.find? t.base = none)
      (henum : ctx.registry.findEnum? t.base scope = none) (hstands : stands t.base p)
      (hvalue : t.ValueLike) : ctx.Names stands scope t (.primitive p)

/-- The primitive that a name stands for: that of its alias if it has one, and its own otherwise. -/
def StandsFor (ctx : Context) (name : String) (p : Primitive) : Prop :=
  Primitive.find? ((ctx.config.alias? name).getD name) = some p

lemma valueKind?_eq_some_iff {k' : TypeKind} :
    valueKind? t k' = some k ↔ t.ValueLike ∧ k' = k := by
  unfold valueKind?
  rw [← TypeToken.isValueLike_iff]
  cases t.isValueLike <;> simp

section
variable {stands : String → Primitive → Prop}

lemma names_string_iff (hstring : t.base = ctx.stringClass) :
    ctx.Names stands scope t k ↔ t.ValueLike ∧ .string = k := by
  constructor
  · intro h
    cases h with
    | string _ hvalue => exact ⟨hvalue, rfl⟩
    | byValue hne | byPointer hne | enumeration hne | primitive hne => exact absurd hstring hne
  · rintro ⟨hvalue, rfl⟩
    exact .string hstring hvalue

lemma names_class_iff {c : Class} (hstring : t.base ≠ ctx.stringClass)
    (hclass : ctx.registry.find? t.base = some c) :
    ctx.Names stands scope t k ↔ t.pointers = 0 ∧ .object c.name false t.isConst = k ∨
      (t.pointers = 1 ∧ t.references = 0) ∧ .object c.name true t.isConst = k := by
  constructor
  · intro h
    cases h with
    | string heq => exact absurd heq hstring
    | byValue _ hfound hpointers =>
      obtain rfl := Option.some.inj (hclass.symm.trans hfound)
      exact .inl ⟨hpointers, rfl⟩
    | byPointer _ hfound hpointers hreferences =>
      obtain rfl := Option.some.inj (hclass.symm.trans hfound)
      exact .inr ⟨⟨hpointers, hreferences⟩, rfl⟩
    | enumeration _ hnone | primitive _ hnone => cases hclass.symm.trans hnone
  · rintro (⟨hpointers, rfl⟩ | ⟨⟨hpointers, hreferences⟩, rfl⟩)
    · exact .byValue hstring hclass hpointers
    · exact .byPointer hstring hclass hpointers hreferences

lemma names_enum_iff {c : Class} {e : Enumeration} (hstring : t.base ≠ ctx.stringClass)
    (hclass : ctx.registry.find? t.base = none)
    (henum : ctx.registry.findEnum? t.base scope = some (c, e)) :
    ctx.Names stands scope t k ↔ t.ValueLike ∧ .enumeration c.name e.name = k := by
  constructor
  · intro h
    cases h with
    | string heq => exact absurd heq hstring
    | byValue _ hfound | byPointer _ hfound => cases hclass.symm.trans hfound
    | enumeration _ _ hfound hvalue =>
      obtain ⟨rfl, rfl⟩ := Prod.mk.inj (Option.some.inj (henum.symm.trans hfound))
      exact ⟨hvalue, rfl⟩
    | primitive _ _ hnone => cases henum.symm.trans hnone
  · rintro ⟨hvalue, rfl⟩
    exact .enumeration hstring hclass henum hvalue

lemma names_primitive_iff (hstring : t.base ≠ ctx.stringClass)
    (hclass : ctx.registry.find? t.base = none)
    (henum : ctx.registry.findEnum? t.base scope = none) :
    ctx.Names stands scope t k ↔ ∃ p, stands t.base p ∧ t.ValueLike ∧ .primitive p = k := by
  constructor
  · intro h
    cases h with
    | string heq => exact absurd heq hstring
    | byValue _ hfound | byPointer _ hfound => cases hclass.symm.trans hfound
    | enumeration _ _ hfound => cases henum.symm.trans hfound
    | primitive _ _ _ hstands hvalue => exact ⟨_, hstands, hvalue, rfl⟩
  · rintro ⟨p, hstands, hvalue, rfl⟩
    exact .primitive hstring hclass henum hstands hvalue

end

/-- Names are looked up as the tables say. -/
theorem namedKind?_eq_some_iff :
    ctx.namedKind? scope t = some k ↔ ctx.Names ctx.StandsFor scope t k := by
  unfold namedKind?
  by_cases hstring : t.base = ctx.stringClass
  · have hbase : (t.base == ctx.stringClass) = true := by simpa using hstring
    rw [if_pos hbase, valueKind?_eq_some_iff, names_string_iff hstring]
  have hbase : ¬(t.base == ctx.stringClass) = true := by simpa using hstring
  rw [if_neg hbase]
  cases hclass : ctx.registry.find? t.base with
  | some c =>
    rw [names_class_iff hstring hclass]
    by_cases hvalue : t.pointers = 0
    · simp [hvalue]
    · by_cases hpointer : t.pointers = 1 ∧ t.references = 0 <;> simp [hvalue, hpointer]
  | none =>
    cases henum : ctx.registry.findEnum? t.base scope with
    | some found => exact valueKind?_eq_some_iff.trans (names_enum_iff hstring hclass henum).symm
    | none =>
      rw [names_primitive_iff hstring hclass henum]
      unfold StandsFor
      cases Primitive.find? ((ctx.config.alias? t.base).getD t.base) with
      | none => simp
      | some p => simp [valueKind?_eq_some_iff]

/-! ## Tokens that are no names -/

lemma substituted_of_none (hplain : v.instantiation = none) : substituted v t = t := by
  unfold substituted
  rw [hplain]
  cases v.method.placeholder <;> rfl

lemma resolve?_of_isBlank (h : Text.IsBlank text) : ctx.resolve? v text = some .void := by
  simp [resolve?, Text.trim_eq_empty_iff.2 h]

lemma resolve?_of_not_isBlank (h : ¬Text.IsBlank text) : ctx.resolve? v text =
    ctx.tokenKind? v.method.owner (substituted v (TypeToken.parse text)) := by
  have htrim : ¬(Text.trim text == "") = true := by
    rwa [beq_iff_eq, Text.trim_eq_empty_iff]
  simp only [resolve?]
  rw [if_neg htrim, TypeToken.parse_trim]

lemma tokenKind?_of_isCompound (hbase : isCompound t.base = true) :
    ctx.tokenKind? scope t = none := by
  have hvoid : ¬(t.base == "void") = true := by
    rintro heq
    rw [eq_of_beq heq] at hbase
    revert hbase
    decide
  simp [tokenKind?, hvoid, hbase]

lemma tokenKind?_eq_some_iff (hbase : isCompound t.base = false) :
    ctx.tokenKind? scope t = some k ↔
      k = .void ∧ t.base = "void" ∧ t.pointers = 0 ∧ t.references = 0 ∨
      t.base ≠ "void" ∧ t.references ≤ 1 ∧ ctx.Names ctx.StandsFor scope t k := by
  unfold tokenKind?
  by_cases hvoid : t.base = "void"
  · by_cases hplain : t.pointers = 0 ∧ t.references = 0 <;> simp [hvoid, hplain, eq_comm]
  · by_cases hreferences : t.references ≤ 1
    · simp [hvoid, hbase, hreferences, namedKind?_eq_some_iff]
    · simp [hvoid, hbase, hreferences]

/-- What a token without an instantiation means.  One with an opening bracket anywhere means
nothing.  Otherwise read it flatly: it means nothing at all if it is blank or `void` without marks,
and no other token of the name `void` means anything; of the rest, those with one reference at most
mean what the tables make of them. -/
theorem tokens_crossing_iff (hplain : v.instantiation = none) :
    ctx.resolve? v text = some k ↔ (∀ c ∈ ['<', '(', '['], c ∉ text.toList) ∧
      let t := TypeToken.flat text
      (k = .void ∧ (Text.IsBlank text ∨ t.base = "void" ∧ t.pointers = 0 ∧ t.references = 0) ∨
        ¬Text.IsBlank text ∧ t.base ≠ "void" ∧ t.references ≤ 1 ∧
          ctx.Names ctx.StandsFor v.method.owner t k) := by
  by_cases hbracket : ∀ c ∈ ['<', '(', '['], c ∉ text.toList
  · by_cases hblank : Text.IsBlank text
    · simp [resolve?_of_isBlank hblank, hblank, hbracket, eq_comm]
    · have hopen : '<' ∉ text.toList := hbracket '<' List.mem_cons_self
      rw [resolve?_of_not_isBlank hblank, substituted_of_none hplain,
        TypeToken.parse_eq_flat hopen,
        tokenKind?_eq_some_iff (TypeToken.isCompound_base_flat hbracket)]
      simp only [hblank, false_or, not_false_eq_true, true_and]
      exact (and_iff_right hbracket).symm
  · push Not at hbracket
    obtain ⟨c, hc, hmem⟩ := hbracket
    have hsolid : ∀ c ∈ ['<', '(', '['], isWhiteSpace c = false :=
      TypeToken.forall_bracket (by decide) (by decide) (by decide)
    have hblank : ¬Text.IsBlank text := Text.not_isBlank_of_mem hmem (hsolid c hc)
    rw [resolve?_of_not_isBlank hblank, substituted_of_none hplain,
      tokenKind?_of_isCompound (TypeToken.isCompound_base hc hmem)]
    exact iff_of_false nofun fun h => h.1 c hc hmem

/-- A pointer to a class, its qualifiers in an unusual order. -/
theorem tokens_crossing_sample :
    (View.of (Method.declare "QTimer" "start")).instantiation = none ∧
      Sample.context.resolve? (View.of (Method.declare "QTimer" "start")) " QTimer*const " =
        some (.object "QTimer" true true) := by
  have hflat : TypeToken.flat " QTimer*const " = ⟨"QTimer", true, 1, 0⟩ := by decide +kernel
  have hclass : Sample.context.registry.find? "QTimer" = some Sample.timer := by decide +kernel
  have hstring : "QTimer" ≠ Sample.context.stringClass := by decide
  have hbracket : ∀ c ∈ ['<', '(', '['], c ∉ " QTimer*const ".toList :=
    TypeToken.forall_bracket (by decide) (by decide) (by decide)
  refine ⟨rfl, (tokens_crossing_iff rfl).2 ⟨hbracket, ?_⟩⟩
  rw [hflat]
  refine .inr ⟨?_, by decide, by decide, .byPointer (c := Sample.timer) hstring hclass rfl rfl⟩
  exact Text.not_isBlank_of_mem (c := 'Q') (by decide) (by decide)

/-! ## Names that are not looked up -/

/-- A primitive that a name may stand for: its own or that of its alias. -/
def MayStandFor (ctx : Context) (name : String) (p : Primitive) : Prop :=
  Primitive.find? name = some p ∨
    ∃ other, ctx.config.alias? name = some other ∧ Primitive.find? other = some p

/-- What a token would mean if the tables were asked for every name: for `void` with marks as well,
and for a primitive even where it has an alias. -/
def Listed (ctx : Context) (scope text : String) (k : TypeKind) : Prop :=
  (∀ c ∈ ['<', '(', '['], c ∉ text.toList) ∧
    let t := TypeToken.flat text
    let isVoid := Text.IsBlank text ∨ t.base = "void" ∧ t.pointers = 0 ∧ t.references = 0
    (k = .void ∧ isVoid ∨
      ¬isVoid ∧ t.references ≤ 1 ∧ ctx.Names ctx.MayStandFor scope t k)

/-- A class called `void` cannot be named, and a primitive whose alias is none means nothing. -/
theorem tokens_crossing_exceptions :
    let ctx : Context := {
      registry := ⟨[{ name := "void", module := "QtCore" }], by decide⟩
      config := { aliases := [("int", "Foo")] } }
    let v := View.of (Method.declare "QWidget" "resize")
    (ctx.Listed "QWidget" "void *" (.object "void" true false) ∧ ctx.resolve? v "void *" = none) ∧
      ctx.Listed "QWidget" "int" (.primitive ⟨"int", "int", "int", "C.int"⟩) ∧
      ctx.resolve? v "int" = none := by
  intro ctx v
  have hpointer : TypeToken.flat "void *" = ⟨"void", false, 1, 0⟩ := by decide +kernel
  have hint : TypeToken.flat "int" = ⟨"int", false, 0, 0⟩ := by decide +kernel
  have hvoidFree : ∀ c ∈ ['<', '(', '['], c ∉ "void *".toList :=
    TypeToken.forall_bracket (by decide) (by decide) (by decide)
  have hintFree : ∀ c ∈ ['<', '(', '['], c ∉ "int".toList :=
    TypeToken.forall_bracket (by decide) (by decide) (by decide)
  refine ⟨⟨⟨hvoidFree, .inr ⟨?_, ?_, ?_⟩⟩, by decide +kernel⟩, ⟨hintFree, .inr ⟨?_, ?_, ?_⟩⟩,
    by decide +kernel⟩
  · rw [hpointer]
    rintro (hblank | ⟨-, hnone, -⟩)
    · exact Text.not_isBlank_of_mem (c := 'v') (by decide) rfl hblank
    · cases hnone
  · rw [hpointer]
    decide
  · rw [hpointer]
    exact .byPointer (c := { name := "void", module := "QtCore" }) (by decide) (by decide) rfl rfl
  · rw [hint]
    rintro (hblank | ⟨hvoid, -⟩)
    · exact Text.not_isBlank_of_mem (c := 'i') (by decide) rfl hblank
    · revert hvoid
      decide
  · rw [hint]
    decide
  · rw [hint]
    exact .primitive (by decide) (by decide) (by decide) (.inl (by decide)) ⟨rfl, .inl rfl⟩

/-! ## Instantiations -/

lemma substituted_of_base {placeholder : String} {i : Instantiation}
    (hplaceholder : v.method.placeholder = some placeholder) (hbase : t.base = placeholder) :
    substituted (v.instantiate i) t = t.substitute (TypeToken.parse i.type) := by
  have hsame : (t.base == placeholder) = true := by simpa using hbase
  simp [substituted, View.instantiate, hplaceholder, hsame]

lemma substituted_of_ne {placeholder : String} {i : Instantiation}
    (hplaceholder : v.method.placeholder = some placeholder) (hbase : t.base ≠ placeholder) :
    substituted (v.instantiate i) t = t := by
  have hother : (t.base == placeholder) = false := by simpa using hbase
  simp [substituted, View.instantiate, hplaceholder, hother]

/-- A token that an instantiation replaces means what the text of the instantiation followed by the
qualifiers of the token means without an instantiation.  All other tokens mean what they mean
without it. -/
theorem instantiation_substitutes {placeholder : String} {i : Instantiation}
    (hplaceholder : v.method.placeholder = some placeholder) (hplain : v.instantiation = none)
    (htype : ¬Text.IsBlank i.type) :
    (∀ text, ¬Text.IsBlank text → (TypeToken.parse text).base = placeholder →
      ctx.resolve? (v.instantiate i) text =
        ctx.resolve? v (TypeToken.qualified i.type (TypeToken.parse text))) ∧
    ∀ text, (TypeToken.parse text).base ≠ placeholder →
      ctx.resolve? (v.instantiate i) text = ctx.resolve? v text := by
  constructor
  · intro text htext hbase
    have hqualified : ¬Text.IsBlank (TypeToken.qualified i.type (TypeToken.parse text)) :=
      fun hblank => htype fun c hc => hblank c (TypeToken.mem_qualified hc)
    rw [resolve?_of_not_isBlank htext, resolve?_of_not_isBlank hqualified,
      substituted_of_base hplaceholder hbase, substituted_of_none hplain]
    by_cases hopen : '<' ∈ i.type.toList
    · have hbracket : '<' ∈ ['<', '(', '['] := List.mem_cons_self
      have hleft : isCompound ((TypeToken.parse text).substitute (TypeToken.parse i.type)).base =
          true := TypeToken.isCompound_base hbracket hopen
      rw [tokenKind?_of_isCompound hleft, tokenKind?_of_isCompound
        (TypeToken.isCompound_base hbracket (TypeToken.mem_qualified hopen))]
    · rw [TypeToken.parse_qualified hopen]
      rfl
  · intro text hbase
    by_cases htext : Text.IsBlank text
    · rw [resolve?_of_isBlank htext, resolve?_of_isBlank htext]
    · rw [resolve?_of_not_isBlank htext, resolve?_of_not_isBlank htext,
        substituted_of_ne hplaceholder hbase, substituted_of_none hplain]
      rfl

/-- A pointer to a constant object, `const` from the instantiation and `*` from the token. -/
theorem instantiation_substitutes_sample :
    let v := View.of { Method.declare "QVariant" "value" with placeholder := some "T" }
    let i : Instantiation := ⟨"Timer", "const QTimer"⟩
    ¬Text.IsBlank i.type ∧ Sample.context.resolve? (v.instantiate i) "T *" =
        Sample.context.resolve? v "const QTimer *" ∧
      Sample.context.resolve? v "const QTimer *" = some (.object "QTimer" true true) := by
  intro v i
  have htype : ¬Text.IsBlank i.type :=
    Text.not_isBlank_of_mem (c := 'Q') (by decide) (by decide)
  have htext : ¬Text.IsBlank "T *" := Text.not_isBlank_of_mem (c := 'T') (by decide) (by decide)
  have hqualified : TypeToken.qualified i.type (TypeToken.parse "T *") = "const QTimer *" := by
    decide +kernel
  have hsame : Sample.context.resolve? (v.instantiate i) "T *" =
      Sample.context.resolve? v (TypeToken.qualified i.type (TypeToken.parse "T *")) :=
    (instantiation_substitutes rfl rfl htype).1 "T *" htext (by decide +kernel)
  rw [hqualified] at hsame
  exact ⟨htype, hsame, by decide +kernel⟩

end Context

end Bindery
