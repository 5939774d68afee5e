import Mathlib.Tactic.Lemma
import Bindery.Proofs.JsonText
import Bindery.Proofs.Lists
import Bindery.Model.Record

/-!
# Models are read the same however they are presented

A record may be presented as the array of its fields or as an object, and an object may give its
fields in any order, leave out a field that holds its default, and hold members that are no fields
at all, with any value.  `Json.PresentsRecord` says which values present a record, given the forms
of its fields.  Every kind of record has its own `Presents` on top of it, and a record that holds
lists of records presents these in turn in any of their forms.

The main statement, `Registry.reading_independent_of_presentation`, is about texts: each one that
spells a presentation of a list of classes is read as the registry of these classes in their order,
or refused for the first class whose name was given before.  What the writer makes of the classes is
one of these texts.

There is a lemma for each level.  `Json.fields?_of_presentsRecord` brings both shapes of a record to
its slots, and the `readsBack` of each kind of record reads its slots with those of the records
inside it.
-/

namespace Bindery

open Json

namespace Json

/-! ## Records -/

/-- How a field of a record is presented: its key, the values that present what it holds, and
whether it may be left out. -/
structure FieldForm where
  key : String
  Admits : Json → Prop
  MayMiss : Prop

namespace FieldForm

/-- A field that has to be present. -/
def required (key : String) (Admits : Json → Prop) : FieldForm where
  key := key
  Admits := Admits
  MayMiss := False

/-- A field that may be left out where it holds its default. -/
def defaulted {α : Type} (key : String) (Admits : α → Json → Prop) (default value : α) :
    FieldForm where
  key := key
  Admits := Admits value
  MayMiss := value = default

@[simp] lemma required_key (key : String) (Admits : Json → Prop) :
    (required key Admits).key = key := rfl

@[simp] lemma defaulted_key {α : Type} (key : String) (Admits : α → Json → Prop)
    (default value : α) : (defaulted key Admits default value).key = key := rfl

/-- A slot holds a value of the field, or is empty where the field may be left out. -/
def Fills (f : FieldForm) : Option Json → Prop
  | some v => f.Admits v
  | none => f.MayMiss

/-- Among these members is a value of the field, or no member with its key where it may be left
out. -/
def Among (f : FieldForm) (members : List (String × Json)) : Prop :=
  (∃ v, (f.key, v) ∈ members ∧ f.Admits v) ∨ f.MayMiss ∧ ∀ v, (f.key, v) ∉ members

end FieldForm

/-- The values that present a record whose fields have these forms.  Members with other keys may
stand anywhere in an object, as often as they like. -/
inductive PresentsRecord (fields : List FieldForm) : Json → Prop
  | object {members : List (String × Json)}
      (hdistinct : ((members.map Prod.fst).filter (· ∈ fields.map FieldForm.key)).Nodup)
      (hfields : ∀ f ∈ fields, f.Among members) : PresentsRecord fields (.record members)
  | array {items : List Json} (h : List.Forall₂ FieldForm.Admits fields items) :
      PresentsRecord fields (.array items)

section Slots

variable {fields : List FieldForm} {names filled : List String} {members : List (String × Json)}

/-- Unknown members are passed over, known ones kept in their order. -/
lemma memberSlots?_eq_filter (hdistinct : ((members.map Prod.fst).filter (· ∈ names)).Nodup)
    (hfilled : ∀ m ∈ members, m.1 ∉ filled) :
    memberSlots? names filled (members.map fun (key, v) => (some key, v)) =
      some (members.filter (·.1 ∈ names)) := by
  induction members generalizing filled with
  | nil => rfl
  | cons m members ih =>
    obtain ⟨hm, hmembers⟩ := List.forall_mem_cons.1 hfilled
    by_cases hknown : m.1 ∈ names
    · rw [List.map_cons, List.filter_cons_of_pos (by simpa using hknown),
        List.nodup_cons] at hdistinct
      obtain ⟨hnew, hdistinct⟩ := hdistinct
      -- the key of a known member does not come again, so it may count as filled
      have hfilled' : ∀ m' ∈ members, m'.1 ∉ m.1 :: filled := by
        intro m' hm'
        rw [List.mem_cons, not_or]
        refine ⟨fun heq => hnew ?_, hmembers m' hm'⟩
        rw [← heq, List.mem_filter]
        exact ⟨List.mem_map_of_mem hm', by simpa [heq] using hknown⟩
      simp only [List.map_cons, memberSlots?, if_pos hknown, if_neg hm, ih hdistinct hfilled']
      simp [hknown]
    · rw [List.map_cons, List.filter_cons_of_neg (by simpa using hknown)] at hdistinct
      simp only [List.map_cons, memberSlots?, if_neg hknown, ih hdistinct hmembers]
      simp [hknown]

/-- What is found under the key of a field fills its slot. -/
lemma FieldForm.fills_lookup {f : FieldForm} (hf : f.key ∈ names)
    (hdistinct : ((members.map Prod.fst).filter (· ∈ names)).Nodup) (h : f.Among members) :
    f.Fills ((members.filter (·.1 ∈ names)).lookup f.key) := by
  have hkept : ((members.filter (·.1 ∈ names)).map Prod.fst).Nodup := by
    rwa [List.filter_map] at hdistinct
  rcases h with ⟨v, hv, hadmits⟩ | ⟨hmay, hnone⟩
  · have hmem : (f.key, v) ∈ members.filter (·.1 ∈ names) :=
      List.mem_filter.2 ⟨hv, by simpa using hf⟩
    rw [lookup_eq_some_of_mem hkept hmem]
    exact hadmits
  · have hempty : (members.filter (·.1 ∈ names)).lookup f.key = none := by
      refine List.lookup_eq_none_iff.2 fun m hm => ?_
      have hne : f.key ≠ m.1 := fun heq => hnone m.2 (heq ▸ (List.mem_filter.1 hm).1)
      simpa using hne
    rw [hempty]
    exact hmay

/-- Both shapes of a record bring its fields into their slots. -/
theorem fields?_of_presentsRecord {v : Json} (h : PresentsRecord fields v) :
    ∃ slots, fields? (fields.map FieldForm.key) v = some slots ∧
      List.Forall₂ FieldForm.Fills fields slots := by
  cases h with
  | @object members hdistinct hfields =>
    have hnone : ∀ m ∈ members, m.1 ∉ [] := fun _ _ => List.not_mem_nil
    have hslots := memberSlots?_eq_filter hdistinct hnone
    refine ⟨_, by rw [record, fields?, hslots, Option.map_some], ?_⟩
    rw [List.map_map, List.forall₂_map_right_iff, List.forall₂_same]
    exact fun f hf =>
      FieldForm.fills_lookup (List.mem_map_of_mem hf) hdistinct (hfields f hf)
  | @array items h =>
    have hlength : items.length = (fields.map FieldForm.key).length := by
      rw [List.length_map, h.length_eq]
    refine ⟨items.map some, by simp [fields?, hlength], ?_⟩
    rw [List.forall₂_map_right_iff]
    exact h

lemma fields?_of_presentsPair {f g : FieldForm} {v : Json} (h : PresentsRecord [f, g] v) :
    ∃ a b, fields? [f.key, g.key] v = some [a, b] ∧ f.Fills a ∧ g.Fills b := by
  obtain ⟨slots, hslots, hfills⟩ := fields?_of_presentsRecord h
  simp only [List.forall₂_cons_left_iff, List.forall₂_nil_left_iff] at hfills
  obtain ⟨a, _, ha, ⟨b, _, hb, rfl, rfl⟩, rfl⟩ := hfills
  exact ⟨a, b, hslots, ha, hb⟩

/-- An object with all fields in declaration order and nothing else. -/
lemma presentsRecord_record (hdistinct : (fields.map FieldForm.key).Nodup)
    (h : List.Forall₂ (fun f m => f.key = m.1 ∧ f.Admits m.2) fields members) :
    PresentsRecord fields (.record members) := by
  have hkeys : fields.map FieldForm.key = members.map Prod.fst := by
    rw [← List.forall₂_eq_eq_eq, List.forall₂_map_left_iff, List.forall₂_map_right_iff]
    exact h.imp fun _ _ hm => hm.1
  refine .object ?_ fun f hf => ?_
  · rw [hkeys, List.filter_eq_self.2 (by simp), ← hkeys]
    exact hdistinct
  · obtain ⟨m, hm, hkey, hadmits⟩ := exists_mem_of_forall₂ h hf
    exact .inl ⟨m.2, hkey ▸ hm, hadmits⟩

end Slots

/-! ## Values -/

section Values

variable {α : Type}

/-- A reader gives back what is presented. -/
def ReadsBack (read : Json → Option α) (Presents : α → Json → Prop) : Prop :=
  ∀ a v, Presents a v → read v = some a

/-- A text is presented by itself. -/
def PresentsText (s : String) (v : Json) : Prop :=
  v = .text s

/-- A truth value is presented by itself. -/
def PresentsBool (b : Bool) (v : Json) : Prop :=
  v = .bool b

/-- An index is presented by its number. -/
def PresentsIndex (n : UInt32) (v : Json) : Prop :=
  v = .nat n.toNat

/-- A word is presented by itself, or as the only key of an object that says `null` about it. -/
def PresentsWord (word : α → String) (a : α) (v : Json) : Prop :=
  v = .text (word a) ∨ v = .record [(word a, .null)]

/-- A list is presented by the array of its items. -/
def PresentsList (Presents : α → Json → Prop) (values : List α) (v : Json) : Prop :=
  ∃ items, v = .array items ∧ List.Forall₂ Presents values items

/-- A value that may be missing is presented by itself or by `null`. -/
def PresentsNullable (Presents : α → Json → Prop) : Option α → Json → Prop
  | some a, v => Presents a v
  | none, v => v = .null

lemma readsBack_text : ReadsBack text? PresentsText := by
  rintro s v rfl
  rfl

lemma readsBack_bool : ReadsBack bool? PresentsBool := by
  rintro b v rfl
  rfl

lemma digitsValue?_repr (n : Nat) : digitsValue? n.repr = some n := by
  have hdigits : (Nat.toDigits 10 n).all Char.isDigit = true :=
    List.all_eq_true.2 fun c hc => Nat.isDigit_of_mem_toDigits (by decide) (by decide) hc
  have hvalue : (Nat.toDigits 10 n).foldl (fun n c => 10 * n + (c.toNat - '0'.toNat)) 0 = n :=
    Nat.ofDigitChars_toDigits (by decide) (by decide)
  simp only [digitsValue?, Nat.toList_repr, hvalue]
  exact if_pos ⟨Nat.toDigits_ne_nil, hdigits⟩

lemma readsBack_index : ReadsBack index? PresentsIndex := by
  rintro n v rfl
  simp [nat, index?, digitsValue?_repr, n.toNat_lt_size]

lemma readsBack_word {words : List (String × α)} {word : α → String}
    (h : ∀ a, words.lookup (word a) = some a) : ReadsBack (word? words) (PresentsWord word) := by
  rintro a v (rfl | rfl)
  · exact h a
  · exact h a

lemma ReadsBack.list {read : Json → Option α} {Presents : α → Json → Prop}
    (h : ReadsBack read Presents) : ReadsBack (list? read) (PresentsList Presents) := by
  rintro values v ⟨items, rfl, hitems⟩
  rw [list?]
  induction hitems with
  | nil => rfl
  | cons hv _ ih => simp [h _ _ hv, ih]

lemma ReadsBack.nullable {read : Json → Option α} {Presents : α → Json → Prop}
    (h : ReadsBack read Presents) (hnull : ∀ a, ¬Presents a .null) :
    ReadsBack (optional? read) (PresentsNullable Presents) := by
  rintro (_ | a) v hv
  · rw [PresentsNullable] at hv
    rw [hv, optional?]
  · have hne : v ≠ .null := by
      rintro rfl
      exact hnull a hv
    rw [optional?, h a v hv, Option.map_some]
    exact hne

lemma ReadsBack.required {read : Json → Option α} {Presents : α → Json → Prop}
    (h : ReadsBack read Presents) {key : String} {a : α} {slot : Option Json}
    (hslot : (FieldForm.required key (Presents a)).Fills slot) : required? read slot = some a := by
  cases slot with
  | none => exact hslot.elim
  | some v => exact h a v hslot

lemma ReadsBack.defaulted {read : Json → Option α} {Presents : α → Json → Prop}
    (h : ReadsBack read Presents) {key : String} {absent a : α} {slot : Option Json}
    (hslot : (FieldForm.defaulted key Presents absent a).Fills slot) :
    defaulted? read absent slot = some a := by
  cases slot with
  | none => exact congrArg some (Eq.symm hslot)
  | some v => exact h a v hslot

end Values

end Json

/-! ## The records of a model -/

/-- The fields of an instantiation. -/
def Instantiation.fields (i : Instantiation) : List FieldForm :=
  [.required "tag" (PresentsText i.tag), .required "ty" (PresentsText i.type)]

/-- The JSON values that present an instantiation. -/
def Instantiation.Presents (i : Instantiation) : Json → Prop :=
  PresentsRecord i.fields

/-- The fields of a parameter. -/
def Parameter.fields (p : Parameter) : List FieldForm :=
  [.defaulted "name" PresentsText "" p.name, .required "value" (PresentsText p.type)]

/-- The JSON values that present a parameter. -/
def Parameter.Presents (p : Parameter) : Json → Prop :=
  PresentsRecord p.fields

/-- The fields of a method. -/
def Method.fields (m : Method) : List FieldForm :=
  [.required "name" (PresentsText m.name),
    .required "fullname" (PresentsText m.fullName),
    .defaulted "signature" PresentsText "" m.signature,
    .defaulted "meta" (PresentsWord Role.word) .plain m.role,
    .defaulted "virtual" (PresentsWord Dispatch.word) .direct m.dispatch,
    .defaulted "static" PresentsBool false m.isStatic,
    .defaulted "parameters" (PresentsList Parameter.Presents) [] m.parameters,
    .defaulted "output" PresentsText "" m.output,
    .defaulted "overload" (PresentsNullable PresentsIndex) none m.overload,
    .defaulted "generic_param" (PresentsNullable PresentsText) none m.placeholder,
    .defaulted "generic_modes" (PresentsList Instantiation.Presents) [] m.instantiations]

/-- The JSON values that present a method. -/
def Method.Presents (m : Method) : Json → Prop :=
  PresentsRecord m.fields

/-- The fields of a value of an enumeration. -/
def Enumerator.fields (e : Enumerator) : List FieldForm :=
  [.required "name" (PresentsText e.name), .defaulted "value" PresentsText "" e.initializer]

/-- The JSON values that present a value of an enumeration. -/
def Enumerator.Presents (e : Enumerator) : Json → Prop :=
  PresentsRecord e.fields

/-- The fields of an enumeration. -/
def Enumeration.fields (e : Enumeration) : List FieldForm :=
  [.required "name" (PresentsText e.name),
    .defaulted "values" (PresentsList Enumerator.Presents) [] e.values]

/-- The JSON values that present an enumeration. -/
def Enumeration.Presents (e : Enumeration) : Json → Prop :=
  PresentsRecord e.fields

/-- The fields of a class. -/
def Class.fields (c : Class) : List FieldForm :=
  [.required "name" (PresentsText c.name),
    .required "module" (PresentsText c.module),
    .defaulted "bases" (PresentsList PresentsText) [] c.bases,
    .defaulted "functions" (PresentsList Method.Presents) [] c.methods,
    .defaulted "enums" (PresentsList Enumeration.Presents) [] c.enums]

/-- The JSON values that present a class. -/
def Class.Presents (c : Class) : Json → Prop :=
  PresentsRecord c.fields

/-- The JSON values that present a model with these classes. -/
def PresentsModel (classes : List Class) : Json → Prop :=
  PresentsRecord [.defaulted "classes" (PresentsList Class.Presents) [] classes]

/-! ## Reading them back -/

lemma Instantiation.readsBack : ReadsBack Instantiation.ofJson? Instantiation.Presents := by
  intro i v h
  obtain ⟨tag, type, hread, htag, htype⟩ := fields?_of_presentsPair h
  rw [FieldForm.required_key, FieldForm.required_key] at hread
  simp [ofJson?, hread, readsBack_text.required htag, readsBack_text.required htype]

lemma Parameter.readsBack : ReadsBack Parameter.ofJson? Parameter.Presents := by
  intro p v h
  obtain ⟨name, type, hread, hname, htype⟩ := fields?_of_presentsPair h
  rw [FieldForm.defaulted_key, FieldForm.required_key] at hread
  simp [ofJson?, hread, readsBack_text.defaulted hname, readsBack_text.required htype]

lemma Role.readsBack : ReadsBack (word? Role.words) (PresentsWord Role.word) :=
  readsBack_word fun r => by cases r <;> rfl

lemma Dispatch.readsBack : ReadsBack (word? Dispatch.words) (PresentsWord Dispatch.word) :=
  readsBack_word fun d => by cases d <;> rfl

lemma Method.readsBack : ReadsBack Method.ofJson? Method.Presents := by
  intro m v h
  obtain ⟨slots, hslots, hfills⟩ := fields?_of_presentsRecord h
  simp only [fields, List.forall₂_cons_left_iff, List.forall₂_nil_left_iff] at hfills
  obtain ⟨name, _, hname, ⟨fullName, _, hfullName, ⟨signature, _, hsignature, ⟨role, _, hrole,
    ⟨dispatch, _, hdispatch, ⟨isStatic, _, hisStatic, ⟨parameters, _, hparameters, ⟨output, _,
    houtput, ⟨overload, _, hoverload, ⟨placeholder, _, hplaceholder, ⟨instantiations, _,
    hinstantiations, rfl, rfl⟩, rfl⟩, rfl⟩, rfl⟩, rfl⟩, rfl⟩, rfl⟩, rfl⟩, rfl⟩, rfl⟩, rfl⟩ := hfills
  have hread : fields? fieldNames v = some [name, fullName, signature, role, dispatch, isStatic,
    parameters, output, overload, placeholder, instantiations] := hslots
  have hindex := readsBack_index.nullable fun n h => by cases h
  have htext := readsBack_text.nullable fun s h => by cases h
  simp [ofJson?, hread, readsBack_text.required hname, readsBack_text.required hfullName,
    readsBack_text.defaulted hsignature, Role.readsBack.defaulted hrole,
    Dispatch.readsBack.defaulted hdispatch, readsBack_bool.defaulted hisStatic,
    Parameter.readsBack.list.defaulted hparameters, readsBack_text.defaulted houtput,
    hindex.defaulted hoverload, htext.defaulted hplaceholder,
    Instantiation.readsBack.list.defaulted hinstantiations]

lemma Enumerator.readsBack : ReadsBack Enumerator.ofJson? Enumerator.Presents := by
  intro e v h
  obtain ⟨name, initializer, hread, hname, hinitializer⟩ := fields?_of_presentsPair h
  rw [FieldForm.required_key, FieldForm.defaulted_key] at hread
  simp [ofJson?, hread, readsBack_text.required hname, readsBack_text.defaulted hinitializer]

lemma Enumeration.readsBack : ReadsBack Enumeration.ofJson? Enumeration.Presents := by
  intro e v h
  obtain ⟨name, values, hread, hname, hvalues⟩ := fields?_of_presentsPair h
  rw [FieldForm.required_key, FieldForm.defaulted_key] at hread
  simp [ofJson?, hread, readsBack_text.required hname, Enumerator.readsBack.list.defaulted hvalues]

lemma Class.readsBack : ReadsBack Class.ofJson? Class.Presents := by
  intro c v h
  obtain ⟨slots, hslots, hfills⟩ := fields?_of_presentsRecord h
  simp only [fields, List.forall₂_cons_left_iff, List.forall₂_nil_left_iff] at hfills
  obtain ⟨name, _, hname, ⟨module, _, hmodule, ⟨bases, _, hbases, ⟨methods, _, hmethods,
    ⟨enums, _, henums, rfl, rfl⟩, rfl⟩, rfl⟩, rfl⟩, rfl⟩ := hfills
  have hread : fields? ["name", "module", "bases", "functions", "enums"] v =
    some [name, module, bases, methods, enums] := hslots
  simp [ofJson?, hread, readsBack_text.required hname, readsBack_text.required hmodule,
    readsBack_text.list.defaulted hbases, Method.readsBack.list.defaulted hmethods,
    Enumeration.readsBack.list.defaulted henums]

theorem readsBack_model : ReadsBack classesOfJson? PresentsModel := by
  intro classes v h
  obtain ⟨slots, hslots, hfills⟩ := fields?_of_presentsRecord h
  simp only [List.forall₂_cons_left_iff, List.forall₂_nil_left_iff] at hfills
  obtain ⟨slot, _, hslot, rfl, rfl⟩ := hfills
  have hread : fields? ["classes"] v = some [slot] := hslots
  simp [classesOfJson?, hread, Class.readsBack.list.defaulted hslot]

/-! ## Writing is one presentation -/

lemma presentsList_map {α : Type} {Presents : α → Json → Prop} {write : α → Json}
    (h : ∀ a, Presents a (write a)) (values : List α) :
    PresentsList Presents values (.array (values.map write)) := by
  refine ⟨_, rfl, ?_⟩
  rw [List.forall₂_map_right_iff, List.forall₂_same]
  exact fun a _ => h a

lemma presentsNullable_nullable {α : Type} {Presents : α → Json → Prop} {write : α → Json}
    (h : ∀ a, Presents a (write a)) (value : Option α) :
    PresentsNullable Presents value (.nullable write value) := by
  cases value with
  | none => rfl
  | some a => exact h a

lemma presentsText_text (s : String) : PresentsText s (.text s) := rfl

lemma presentsIndex_nat (n : UInt32) : PresentsIndex n (.nat n.toNat) := rfl

lemma Instantiation.presents_toJson (i : Instantiation) : i.Presents i.toJson :=
  presentsRecord_record (by simp [fields]) (by simp [fields, FieldForm.required, PresentsText])

lemma Parameter.presents_toJson (p : Parameter) : p.Presents p.toJson := by
  refine presentsRecord_record (by simp [fields]) ?_
  simp [fields, FieldForm.required, FieldForm.defaulted, PresentsText]

lemma Method.presents_toJson (m : Method) : m.Presents m.toJson := by
  have hparameters := presentsList_map Parameter.presents_toJson m.parameters
  have hinstantiations := presentsList_map Instantiation.presents_toJson m.instantiations
  have hoverload := presentsNullable_nullable presentsIndex_nat m.overload
  have hplaceholder := presentsNullable_nullable presentsText_text m.placeholder
  refine presentsRecord_record (by simp [fields]) ?_
  simp [fields, FieldForm.required, FieldForm.defaulted, PresentsText, PresentsBool, PresentsWord,
    hparameters, hinstantiations, hoverload, hplaceholder]

lemma Enumerator.presents_toJson (e : Enumerator) : e.Presents e.toJson := by
  refine presentsRecord_record (by simp [fields]) ?_
  simp [fields, FieldForm.required, FieldForm.defaulted, PresentsText]

lemma Enumeration.presents_toJson (e : Enumeration) : e.Presents e.toJson := by
  have hvalues := presentsList_map Enumerator.presents_toJson e.values
  refine presentsRecord_record (by simp [fields]) ?_
  simp [fields, FieldForm.required, FieldForm.defaulted, PresentsText, hvalues]

lemma Class.presents_toJson (c : Class) : c.Presents c.toJson := by
  have hbases := presentsList_map presentsText_text c.bases
  have hmethods := presentsList_map Method.presents_toJson c.methods
  have henums := presentsList_map Enumeration.presents_toJson c.enums
  refine presentsRecord_record (by simp [fields]) ?_
  simp [fields, FieldForm.required, FieldForm.defaulted, PresentsText, texts, hbases, hmethods,
    henums]

theorem presentsModel_classesToJson (classes : List Class) :
    PresentsModel classes (classesToJson classes) := by
  have hclasses := presentsList_map Class.presents_toJson classes
  exact presentsRecord_record (by simp) (by simp [FieldForm.defaulted, hclasses])

namespace Json

@[simp]
lemma legible_text (s : String) : (text s).Legible :=
  legible_string_iff.2 rfl

@[simp]
lemma legible_record_iff {members : List (String × Json)} :
    (record members).Legible ↔ ∀ m ∈ members, m.2.Legible := by
  rw [record, legible_object_iff, List.forall_mem_map]
  simp

@[simp]
lemma legible_texts (ss : List String) : (texts ss).Legible := by
  simp [texts]

@[simp]
lemma legible_nullable {α : Type} {write : α → Json} {value : Option α}
    (h : ∀ a, (write a).Legible) : (nullable write value).Legible := by
  cases value with
  | none => exact legible_null
  | some a => exact h a

end Json

@[simp]
lemma Instantiation.legible_toJson (i : Instantiation) : i.toJson.Legible := by
  simp [toJson]

@[simp]
lemma Parameter.legible_toJson (p : Parameter) : p.toJson.Legible := by
  simp [toJson]

@[simp]
lemma Method.legible_toJson (m : Method) : m.toJson.Legible := by
  simp [toJson]

@[simp]
lemma Enumerator.legible_toJson (e : Enumerator) : e.toJson.Legible := by
  simp [toJson]

@[simp]
lemma Enumeration.legible_toJson (e : Enumeration) : e.toJson.Legible := by
  simp [toJson]

@[simp]
lemma Class.legible_toJson (c : Class) : c.toJson.Legible := by
  simp [toJson]

lemma legible_classesToJson (classes : List Class) : (classesToJson classes).Legible := by
  simp [classesToJson]

/-! ## Whole models -/

/-- A repeated text is the first that was met before, and all before it are distinct. -/
lemma exists_split_of_firstRepeated? {earlier texts : List String} {s : String}
    (h : firstRepeated? earlier texts = some s) :
    ∃ before after, texts = before ++ s :: after ∧ before.Nodup ∧ (∀ x ∈ before, x ∉ earlier) ∧
      (s ∈ before ∨ s ∈ earlier) := by
  induction texts generalizing earlier with
  | nil => cases h
  | cons first texts ih =>
    rw [firstRepeated?] at h
    split_ifs at h with hmet
    · obtain rfl := Option.some.inj h
      exact ⟨[], texts, rfl, List.nodup_nil, by simp, .inr hmet⟩
    · obtain ⟨before, after, rfl, hdistinct, hnew, hs⟩ := ih h
      refine ⟨first :: before, after, rfl, ?_, ?_, ?_⟩
      · exact List.nodup_cons.2 ⟨fun hmem => hnew first hmem List.mem_cons_self, hdistinct⟩
      · exact List.forall_mem_cons.2
          ⟨hmet, fun x hx hearlier => hnew x hx (List.mem_cons_of_mem _ hearlier)⟩
      · rw [List.mem_cons] at hs ⊢
        tauto

namespace Registry

/-- A text is read as a list of classes: as the registry that holds them in their order, or, if
names are repeated, as a duplicate of the first class whose name was given before. -/
def ReadsAs (text : String) (classes : List Class) : Prop :=
  ((classes.map Class.name).Nodup ∧ ∃ r, parse text = .ok r ∧ r.classes = classes) ∨
    ∃ before c after, classes = before ++ c :: after ∧ (before.map Class.name).Nodup ∧
      c.name ∈ before.map Class.name ∧ parse text = .error (.duplicateClass c.name)

lemma readsAs_of_presents {classes : List Class} {v : Json} {text : String}
    (hv : PresentsModel classes v) (htext : v.Spells text) : ReadsAs text classes := by
  have hparse : parse text = (ofClasses classes).mapError .duplicateClass := by
    simp only [parse, Json.parse?_of_spells htext, ofJson, readsBack_model classes v hv]
  unfold ofClasses at hparse
  split at hparse
  · rename_i hnone
    exact .inl ⟨(firstRepeated?_eq_none_iff.1 hnone).1, _, hparse, rfl⟩
  · rename_i name hsome
    obtain ⟨before, after, hsplit, hdistinct, -, hmet⟩ := exists_split_of_firstRepeated? hsome
    obtain ⟨before, rest, rfl, rfl, hrest⟩ := List.map_eq_append_iff.1 hsplit
    obtain ⟨c, after, rfl, rfl, rfl⟩ := List.map_eq_cons_iff.1 hrest
    exact .inr ⟨before, c, after, rfl, hdistinct, by simpa using hmet, hparse⟩

/-- However a list of classes is presented and its presentation laid out, the text is read as
exactly these classes; the text that the writer makes of them is one of these. -/
theorem reading_independent_of_presentation (classes : List Class) :
    (∀ v text, PresentsModel classes v → v.Spells text → ReadsAs text classes) ∧
      ReadsAs (write (classesToJson classes)) classes :=
  ⟨fun _ _ hv htext => readsAs_of_presents hv htext,
    readsAs_of_presents (presentsModel_classesToJson classes)
      (spells_write (legible_classesToJson classes))⟩

/-- Two classes in one model: the first is the array of its fields, the second an object that gives
its module first, leaves three fields out and says something unknown. -/
def mixedPresentation : Json :=
  .record [("version", .array [.nat 2, .null]), ("classes", .array [
    .array [.text "QObject", .text "QtCore", .array [], .array [], .array []],
    .record [("module", .text "main"), ("abstract", .bool true), ("name", .text "Counter")]])]

theorem mixedPresentation_readsAs :
    ReadsAs (write mixedPresentation)
      [{ name := "QObject", module := "QtCore" }, { name := "Counter", module := "main" }] := by
  have hfirst : Class.Presents { name := "QObject", module := "QtCore" }
      (.array [.text "QObject", .text "QtCore", .array [], .array [], .array []]) := by
    refine .array ?_
    simp [Class.fields, FieldForm.required, FieldForm.defaulted, PresentsText, PresentsList]
  have hsecond : Class.Presents { name := "Counter", module := "main" } (.record
      [("module", .text "main"), ("abstract", .bool true), ("name", .text "Counter")]) := by
    refine .object (by decide) ?_
    simp [Class.fields, FieldForm.Among, FieldForm.required, FieldForm.defaulted, PresentsText]
  have hmodel : PresentsModel
      [{ name := "QObject", module := "QtCore" }, { name := "Counter", module := "main" }]
      mixedPresentation := by
    refine .object (by decide) ?_
    simp [FieldForm.Among, FieldForm.defaulted, PresentsList, hfirst, hsecond]
  have hlegible : mixedPresentation.Legible := by
    simp [mixedPresentation]
  exact (reading_independent_of_presentation _).1 _ _ hmodel (spells_write hlegible)

end Registry

end Bindery
