import Mathlib.Tactic.Lemma
import Mathlib.Data.List.Pairwise
import Bindery.Proofs.Boundary
import Bindery.Proofs.Sample

/-!
# Names of parameters

A parameter goes by one name on every surface: its own, or its own with an underscore if that is
reserved, or `v` and its position if it has none (`cleanName`).  The three kinds of names are made
without a look at the other parameters.  Those that are made never meet each other, as a position
ends in a digit and an escaped name in an underscore, and neither is reserved.  But each can be
spelled like a name that another parameter was given (`NamesMeet`).

`parameterNames_distinct_iff` says that this is the only way in which the parameters of a C function
can have one name, if those of the method that have names have different ones.  The object is called
`ptr`, which is reserved, and meets no other parameter.
-/

namespace Bindery

variable {name name' : String} {i j : ℕ} {parameters : List Parameter}

/-! ## Kinds of names -/

/-- The name by which an unnamed parameter goes. -/
def placeholder (i : ℕ) : String :=
  "v" ++ toString i

/-- A reserved name as a parameter has it. -/
def escaped (name : String) : String :=
  name ++ "_"

lemma cleanName_of_empty (i : ℕ) : cleanName "" i = placeholder i := rfl

lemma ne_empty_of_reserved (h : name ∈ reservedNames) : name ≠ "" := by
  rintro rfl
  exact absurd h (by decide)

lemma cleanName_of_reserved (h : name ∈ reservedNames) : cleanName name i = escaped name := by
  simp [cleanName, ne_empty_of_reserved h, h, escaped]

lemma cleanName_of_free (hne : name ≠ "") (h : name ∉ reservedNames) :
    cleanName name i = name := by
  simp [cleanName, hne, h]

/-- The name of a parameter is made for it, or it is the one that was given. -/
lemma cleanName_cases (name : String) (i : ℕ) :
    (name = "" ∧ cleanName name i = placeholder i) ∨
      (name ∈ reservedNames ∧ cleanName name i = escaped name) ∨
      name ≠ "" ∧ cleanName name i = name := by
  by_cases hne : name = ""
  · subst hne
    exact .inl ⟨rfl, cleanName_of_empty i⟩
  by_cases hreserved : name ∈ reservedNames
  · exact .inr (.inl ⟨hreserved, cleanName_of_reserved hreserved⟩)
  · exact .inr (.inr ⟨hne, cleanName_of_free hne hreserved⟩)

lemma placeholder_injective (h : placeholder i = placeholder j) : i = j := by
  have hchars := congrArg String.toList h
  simp only [placeholder, String.toList_append] at hchars
  have hdigits := congrArg (fun ds => Nat.ofDigitChars 10 ds 0) (List.append_cancel_left hchars)
  simpa [Nat.toString_eq_ofList_toDigits] using hdigits

lemma escaped_injective (h : escaped name = escaped name') : name = name' := by
  have hchars := congrArg String.toList h
  simp only [escaped, String.toList_append] at hchars
  exact String.toList_injective (List.append_cancel_right hchars)

/-! ## How names end -/

/-- No reserved name ends in a digit or an underscore. -/
lemma last_of_reserved (h : name ∈ reservedNames) :
    ∀ c ∈ name.toList.getLast?, c.isDigit = false ∧ c ≠ '_' := by
  have hall : ∀ r ∈ reservedNames,
      r.toList.getLast?.all (fun c => !c.isDigit && c != '_') = true := by decide
  simpa [Option.all_eq_true] using hall name h

lemma isDigit_placeholder (i : ℕ) : ∃ c ∈ (placeholder i).toList.getLast?, c.isDigit = true := by
  have hdigits : (toString i).toList = Nat.toDigits 10 i := Nat.toList_repr
  have hne : (toString i).toList ≠ [] := by
    rw [hdigits]
    exact Nat.toDigits_ne_nil
  refine ⟨(toString i).toList.getLast hne, ?_, ?_⟩
  · rw [placeholder, String.toList_append, List.getLast?_append_of_ne_nil _ hne]
    exact List.getLast?_eq_some_getLast hne
  · refine Nat.isDigit_of_mem_toDigits (b := 10) (n := i) (by decide) (by decide) ?_
    rw [← hdigits]
    exact List.getLast_mem hne

lemma getLast?_escaped (name : String) : (escaped name).toList.getLast? = some '_' := by
  simp [escaped]

lemma placeholder_ne_escaped : placeholder i ≠ escaped name := by
  intro h
  obtain ⟨c, hc, hdigit⟩ := isDigit_placeholder i
  rw [h, getLast?_escaped] at hc
  obtain rfl : '_' = c := by simpa using hc
  exact absurd hdigit (by decide)

/-- A name that was made for a parameter is not reserved. -/
lemma placeholder_not_reserved : placeholder i ∉ reservedNames := by
  intro h
  obtain ⟨c, hc, hdigit⟩ := isDigit_placeholder i
  rw [(last_of_reserved h c hc).1] at hdigit
  cases hdigit

lemma escaped_not_reserved : escaped name ∉ reservedNames := fun h =>
  (last_of_reserved h '_' (getLast?_escaped name)).2 rfl

lemma placeholder_ne_empty : placeholder i ≠ "" := by
  intro h
  simpa [placeholder] using congrArg String.toList h

lemma escaped_ne_empty : escaped name ≠ "" := by
  intro h
  simpa [escaped] using congrArg String.toList h

/-! ## Names that meet -/

/-- The name that is made for a parameter is that which another has been given. -/
inductive NamesMeet (parameters : List Parameter) : Prop
  /-- The one is unnamed, and the other has the name of its position. -/
  | placeholder {p q : Parameter} {i : ℕ} (hp : parameters[i]? = some p) (hunnamed : p.name = "")
      (hq : q ∈ parameters) (hname : q.name = "v" ++ toString i)
  /-- The one is reserved, and the other is it with an underscore. -/
  | escaped {p q : Parameter} (hp : p ∈ parameters) (hreserved : p.name ∈ reservedNames)
      (hq : q ∈ parameters) (hname : q.name = p.name ++ "_")

/-- The names by which parameters go. -/
def cleanNames (parameters : List Parameter) : List String :=
  parameters.zipIdx.map fun p => cleanName p.1.name p.2

@[simp] lemma length_cleanNames : (cleanNames parameters).length = parameters.length := by
  simp [cleanNames]

lemma getElem?_cleanNames :
    (cleanNames parameters)[i]? = parameters[i]?.map fun p => cleanName p.name i := by
  simp [cleanNames, Option.map_map, Function.comp_def]

lemma getElem?_cleanNames_of_free {q : Parameter} (hq : q ∈ parameters) (hne : q.name ≠ "")
    (hfree : q.name ∉ reservedNames) :
    ∃ j : ℕ, parameters[j]? = some q ∧ (cleanNames parameters)[j]? = some q.name := by
  obtain ⟨j, hj⟩ := List.mem_iff_getElem?.1 hq
  exact ⟨j, hj, by simp [getElem?_cleanNames, hj, cleanName_of_free hne hfree]⟩

lemma not_nodup_cleanNames_of_meet (h : NamesMeet parameters) : ¬(cleanNames parameters).Nodup := by
  intro hnodup
  cases h with
  | @placeholder p q i hp hunnamed hq hname =>
    have hfree : q.name ∉ reservedNames := hname ▸ placeholder_not_reserved
    have hne : q.name ≠ "" := hname ▸ placeholder_ne_empty
    obtain ⟨j, hj, hjname⟩ := getElem?_cleanNames_of_free hq hne hfree
    have hiname : (cleanNames parameters)[i]? = some q.name := by
      rw [getElem?_cleanNames, hp, Option.map_some, hunnamed, cleanName_of_empty, hname]
      rfl
    obtain rfl : i = j := eq_of_getElem?_nodup hnodup hiname hjname
    rw [hp, Option.some.injEq] at hj
    exact hne (hj ▸ hunnamed)
  | @escaped p q hp hreserved hq hname =>
    have hfree : q.name ∉ reservedNames := hname ▸ escaped_not_reserved
    have hne : q.name ≠ "" := hname ▸ escaped_ne_empty
    obtain ⟨j, hj, hjname⟩ := getElem?_cleanNames_of_free hq hne hfree
    obtain ⟨i, hi⟩ := List.mem_iff_getElem?.1 hp
    have hiname : (cleanNames parameters)[i]? = some q.name := by
      rw [getElem?_cleanNames, hi, Option.map_some, cleanName_of_reserved hreserved, hname]
      rfl
    obtain rfl : i = j := eq_of_getElem?_nodup hnodup hiname hjname
    rw [hi, Option.some.injEq] at hj
    exact hfree (hj ▸ hreserved)

/-- If no names meet, parameters of different given names go by different ones, whichever kinds
these are of. -/
lemma cleanName_ne_of_apart {p q : Parameter} (hapart : ¬NamesMeet parameters)
    (hp : parameters[i]? = some p) (hq : parameters[j]? = some q) (hij : i ≠ j)
    (hgiven : p.name ≠ "" → q.name ≠ "" → p.name ≠ q.name) :
    cleanName p.name i ≠ cleanName q.name j := by
  have hpmem : p ∈ parameters := List.mem_of_getElem? hp
  have hqmem : q ∈ parameters := List.mem_of_getElem? hq
  obtain ⟨hpname, hpclean⟩ | ⟨hpname, hpclean⟩ | ⟨hpname, hpclean⟩ := cleanName_cases p.name i <;>
    obtain ⟨hqname, hqclean⟩ | ⟨hqname, hqclean⟩ | ⟨hqname, hqclean⟩ := cleanName_cases q.name j <;>
    rw [hpclean, hqclean]
  · exact fun h => hij (placeholder_injective h)
  · exact placeholder_ne_escaped
  · exact fun h => hapart (.placeholder hp hpname hqmem h.symm)
  · exact placeholder_ne_escaped.symm
  · exact fun h => hgiven (ne_empty_of_reserved hpname) (ne_empty_of_reserved hqname)
      (escaped_injective h)
  · exact fun h => hapart (.escaped hpmem hpname hqmem h.symm)
  · exact fun h => hapart (.placeholder hq hqname hpmem h)
  · exact fun h => hapart (.escaped hqmem hqname hpmem h)
  · exact hgiven hpname hqname

/-- If the given names are distinct, the names by which parameters go are distinct unless two of
them meet. -/
theorem nodup_cleanNames_iff
    (hnames : ((parameters.map Parameter.name).filter (· ≠ "")).Nodup) :
    (cleanNames parameters).Nodup ↔ ¬NamesMeet parameters := by
  refine ⟨fun hnodup hmeet => not_nodup_cleanNames_of_meet hmeet hnodup, fun hapart => ?_⟩
  rw [List.Nodup, List.pairwise_filter, List.pairwise_map, List.pairwise_iff_getElem] at hnames
  refine List.pairwise_iff_getElem.2 fun i j hi hj hij => ?_
  simp only [length_cleanNames] at hi hj
  have hgiven := hnames i j hi hj hij
  simp only [decide_eq_true_eq] at hgiven
  simpa [cleanNames] using cleanName_ne_of_apart hapart (List.getElem?_eq_getElem hi)
    (List.getElem?_eq_getElem hj) hij.ne hgiven

/-! ## C functions -/

namespace Context

variable {ctx : Context} {v : View} {ds : List Declared}

lemma name_of_headerParameter {p : Parameter × ℕ} {d : Declared}
    (h : ctx.headerParameter v p = .ok d) : d.name = cleanName p.1.name p.2 := by
  unfold headerParameter at h
  split at h
  · split at h
    · cases h
    · exact congrArg Declared.name (Except.ok.inj h).symm
  · cases h

lemma names_of_headerParameters (h : ctx.headerParameters v = .ok ds) :
    ds.map Declared.name = (if v.hasReceiver then ["ptr"] else []) ++
      if v.role = .signal then [] else cleanNames v.method.parameters := by
  have hobject : (if v.hasReceiver then [receiver] else []).map Declared.name =
      if v.hasReceiver then ["ptr"] else [] := by
    split <;> rfl
  unfold headerParameters at h
  by_cases hrole : v.role = .signal
  · simp only [hrole, beq_self_eq_true, if_true, pure_eq_ok] at h
    simp [hrole, ← h, hobject]
  · simp only [beq_iff_eq, hrole, if_false, bind_eq_ok, pure_eq_ok] at h
    obtain ⟨own, hown, rfl⟩ := h
    have hnames : own.map Declared.name = cleanNames v.method.parameters := by
      rw [mapM_eq_ok_iff] at hown
      rw [cleanNames, eq_comm, ← List.forall₂_eq_eq_eq, List.forall₂_map_left_iff,
        List.forall₂_map_right_iff]
      exact hown.imp fun _ _ hd => (name_of_headerParameter hd).symm
    rw [List.map_append, hobject, hnames, if_neg hrole]

/-- If the parameters of a method that have names have different ones, then those of the C function
of a view of it, the object included, have different names exactly if the names of no two
parameters meet.  Where a handler is connected to a signal, C is given the object only. -/
theorem parameterNames_distinct_iff
    (hnames : ((v.method.parameters.map Parameter.name).filter (· ≠ "")).Nodup)
    (hds : ctx.headerParameters v = .ok ds) :
    (ds.map Declared.name).Nodup ↔ v.role = .signal ∨ ¬NamesMeet v.method.parameters := by
  have hobject : "ptr" ∉ cleanNames v.method.parameters := by
    simp only [cleanNames, List.mem_map, not_exists, not_and]
    exact fun p _ => cleanName_ne_ptr p.1.name p.2
  rw [names_of_headerParameters hds, ← nodup_cleanNames_iff hnames]
  by_cases hrole : v.role = .signal
  · cases v.hasReceiver <;> simp [hrole]
  · cases v.hasReceiver <;> simp [hrole, hobject]

end Context

/-- A view of a method of the sample's timer with parameters of the given names. -/
def Sample.resizing (names : List String) : View :=
  View.of {
    name := "resize", fullName := "QTimer::resize", output := "void"
    parameters := names.map (⟨·, "int"⟩) }

/-- A given name, a reserved one and one that is left out. -/
theorem parameterNames_distinct_sample :
    ∃ ds, Sample.context.headerParameters (Sample.resizing ["width", "type", ""]) = .ok ds ∧
      ds.map Declared.name = ["ptr", "width", "type_", "v2"] ∧ (ds.map Declared.name).Nodup := by
  have hds : (Sample.context.headerParameters (Sample.resizing ["width", "type", ""])).toOption.any
      (fun ds => decide (ds.map Declared.name = ["ptr", "width", "type_", "v2"])) = true := by
    decide +kernel
  obtain ⟨ds, hds, hsame⟩ := any_toOption_iff.1 hds
  have hapart : ¬NamesMeet (Sample.resizing ["width", "type", ""]).method.parameters := by
    rw [← nodup_cleanNames_iff (by decide)]
    decide
  exact ⟨ds, hds, of_decide_eq_true hsame,
    (Context.parameterNames_distinct_iff (by decide) hds).2 (.inr hapart)⟩

/-- The name that is made for an unnamed parameter is that which the other was given: the C function
has two parameters of one name. -/
theorem parameterNames_repeated :
    (((Sample.resizing ["", "v0"]).method.parameters.map Parameter.name).filter (· ≠ "")).Nodup ∧
      ∃ ds, Sample.context.headerParameters (Sample.resizing ["", "v0"]) = .ok ds ∧
        ds.map Declared.name = ["ptr", "v0", "v0"] ∧ ¬(ds.map Declared.name).Nodup := by
  have hds : (Sample.context.headerParameters (Sample.resizing ["", "v0"])).toOption.any
      (fun ds => decide (ds.map Declared.name = ["ptr", "v0", "v0"])) = true := by
    decide +kernel
  obtain ⟨ds, hds, hsame⟩ := any_toOption_iff.1 hds
  have hsame := of_decide_eq_true hsame
  exact ⟨by decide, ds, hds, hsame, by rw [hsame]; decide⟩

end Bindery
