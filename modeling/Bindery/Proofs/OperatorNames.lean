import Mathlib.Tactic.Lemma
import Mathlib.Data.List.Basic
import Bindery.Proofs.Checks

/-!
# Names of operators

A view whose name is that of an operator is refused, and the name of a view depends on more than the
name of its method: a direction puts its tag in front, a default its word behind.  So one method is
checked under several names.  This file compares them.  The tag of a direction makes no difference
(`namesOperator_toward_iff`), and whoever may be called as a default may be called as such
(`namesOperator_of_forwardDefault`).

The characters of operators occur in no tag.  The word that marks operators could lie across a seam
of the name, but not where the tags are put in: it has neither the underscore that comes before a
tag nor a digit, and its own first letter is in no tag.
-/

namespace Bindery

lemma namesOperator_eq_false_iff {name : String} :
    namesOperator name = false ↔ (∀ c ∈ name.toList, c ∉ operatorChars) ∧
      ¬"Operator".toList <:+: name.toList := by
  rw [namesOperator, Bool.or_eq_false_iff, Text.contains, ← Bool.not_eq_true
    (Text.containsChars _ _), Text.containsChars_iff]
  simp [List.any_eq_false]

/-- Leaving a tag out of a name makes no operator of it, as the word that marks operators cannot lie
across the underscore before the tag. -/
lemma namesOperator_of_tagged {lead tag rest : String} (hlead : lead = "" ∨ ∃ s, lead = s ++ "_")
    (h : namesOperator (lead ++ (tag ++ rest)) = false) : namesOperator (lead ++ rest) = false := by
  rw [namesOperator_eq_false_iff] at h ⊢
  simp only [String.toList_append] at h ⊢
  obtain ⟨hchars, hword⟩ := h
  constructor
  · intro c hc
    refine hchars c ?_
    rcases List.mem_append.1 hc with hc | hc
    · exact List.mem_append_left _ hc
    · exact List.mem_append_right _ (List.mem_append_right _ hc)
  · intro hinfix
    have hsides : "Operator".toList <:+: lead.toList ∨ "Operator".toList <:+: rest.toList := by
      rcases hlead with rfl | ⟨s, rfl⟩
      · exact .inr hinfix
      · rw [String.toList_append] at hinfix ⊢
        exact infix_of_infix_append (by decide) hinfix
    rcases hsides with hleft | hright
    · exact hword (hleft.trans (List.prefix_append _ _).isInfix)
    · refine hword (hright.trans ?_)
      exact ((List.suffix_append _ _).trans (List.suffix_append _ _)).isInfix

/-- Putting a tag into a name makes no operator of it either, if the tag has no character of
operators and not the letter that the word begins with. -/
lemma namesOperator_tagged {lead tag rest : String} (hlead : lead = "" ∨ ∃ s, lead = s ++ "_")
    (htag : ∀ c ∈ tag.toList, c ∉ operatorChars) (hletter : 'O' ∉ tag.toList)
    (h : namesOperator (lead ++ rest) = false) : namesOperator (lead ++ (tag ++ rest)) = false := by
  rw [namesOperator_eq_false_iff] at h ⊢
  simp only [String.toList_append] at h ⊢
  obtain ⟨hchars, hword⟩ := h
  constructor
  · intro c hc
    rcases List.mem_append.1 hc with hc | hc
    · exact hchars c (List.mem_append_left _ hc)
    rcases List.mem_append.1 hc with hc | hc
    · exact htag c hc
    · exact hchars c (List.mem_append_right _ hc)
  · intro hinfix
    have hsides : "Operator".toList <:+: lead.toList ∨
        "Operator".toList <:+: tag.toList ++ rest.toList := by
      rcases hlead with rfl | ⟨s, rfl⟩
      · exact .inr hinfix
      · rw [String.toList_append] at hinfix ⊢
        exact infix_of_infix_append (by decide) hinfix
    rcases hsides with hleft | hright
    · exact hword (hleft.trans (List.prefix_append _ _).isInfix)
    · exact hword ((infix_of_head_not_mem hletter hright).trans (List.suffix_append _ _).isInfix)

/-- Leaving out what stands before the last characters of a name makes no operator of it, if the
word cannot end in them. -/
lemma namesOperator_of_inserted {lead part rest : String} (hletter : 'r' ∉ rest.toList)
    (h : namesOperator (lead ++ (part ++ rest)) = false) :
    namesOperator (lead ++ rest) = false := by
  rw [namesOperator_eq_false_iff] at h ⊢
  simp only [String.toList_append] at h ⊢
  obtain ⟨hchars, hword⟩ := h
  constructor
  · intro c hc
    refine hchars c ?_
    rcases List.mem_append.1 hc with hc | hc
    · exact List.mem_append_left _ hc
    · exact List.mem_append_right _ (List.mem_append_right _ hc)
  · intro hinfix
    have hsplit : "Operator".toList = "Operato".toList ++ ['r'] := rfl
    rw [hsplit] at hinfix hword
    exact hword ((infix_of_last_not_mem hletter hinfix).trans (List.prefix_append _ _).isInfix)

/-! ## Managed names -/

lemma Method.not_mem_overloadSuffix {m : Method} {c : Char} (hc : c.isDigit = false) :
    c ∉ m.overloadSuffix.toList := by
  unfold overloadSuffix
  cases m.overload with
  | none => simp
  | some n =>
    intro hmem
    have hdigit : c.isDigit = true :=
      Nat.isDigit_of_mem_toDigits (by omega) (by omega) (Nat.toList_repr ▸ hmem)
    rw [hc] at hdigit
    cases hdigit

namespace View

variable {v : View} {d : Direction}

/-- What the managed name of a static method begins with. -/
def managedLead (v : View) : String :=
  if v.method.isStatic then v.owner ++ "_" else ""

lemma managedLead_cases (v : View) : v.managedLead = "" ∨ ∃ s, v.managedLead = s ++ "_" := by
  unfold managedLead
  cases v.method.isStatic with
  | true => exact .inr ⟨v.owner, rfl⟩
  | false => exact .inl rfl

/-- What the managed name has in common in all directions, but for the overload index. -/
def managedStem (v : View) : String :=
  titleCase v.name ++ (if v.forwardsDefault then "Default" else "")
    ++ v.instantiation.elim "" Instantiation.tag

lemma rawManagedName_toward (hstructor : v.role.isStructor = false) (hd : d ≠ .callback) :
    (v.toward d).rawManagedName =
      v.managedLead ++ (d.tag ++ (v.managedStem ++ v.method.overloadSuffix)) := by
  have hempty : (v.toward d).rolePrefix = "" := rolePrefix_eq_empty hstructor
  have hdirection : ((v.toward d).direction == .callback) = false := by
    simpa [View.toward] using hd
  unfold rawManagedName managedStem managedLead
  rw [hempty, hdirection]
  simp only [View.toward, View.name, String.append_assoc, Bool.false_eq_true, if_false,
    String.empty_append]
  rfl

lemma rawManagedName_eq (hstructor : v.role.isStructor = false) (hd : v.direction ≠ .callback) :
    v.rawManagedName =
      v.managedLead ++ (v.direction.tag ++ (v.managedStem ++ v.method.overloadSuffix)) :=
  rawManagedName_toward hstructor hd

/-- A view is refused as an operator in every direction from outside, or in none. -/
theorem namesOperator_toward_iff (hstructor : v.role.isStructor = false) (hd : d.isHook = true) :
    namesOperator (v.toward d).rawManagedName = false ↔
      namesOperator (v.toward .plain).rawManagedName = false := by
  have hhook : d ≠ .callback := fun h => by simp [h, Direction.isHook] at hd
  have htag : (∀ c ∈ d.tag.toList, c ∉ operatorChars) ∧ 'O' ∉ d.tag.toList := by
    cases d with
    | plain | callback => simp [Direction.isHook] at hd
    | connect | disconnect => simp [Direction.tag, operatorChars]
  have hempty : Direction.plain.tag = "" := rfl
  rw [rawManagedName_toward hstructor hhook, rawManagedName_toward hstructor (by simp), hempty,
    String.empty_append]
  exact ⟨namesOperator_of_tagged v.managedLead_cases,
    namesOperator_tagged v.managedLead_cases htag.1 htag.2⟩

theorem namesOperator_of_forwardDefault (hstructor : v.role.isStructor = false)
    (hd : v.direction ≠ .callback) (hinstantiation : v.instantiation = none)
    (h : namesOperator v.forwardDefault.rawManagedName = false) :
    namesOperator v.rawManagedName = false := by
  by_cases hdefault : v.forwardsDefault = true
  · have hsame : v.forwardDefault = v := by
      unfold forwardDefault
      rw [← hdefault]
    rwa [hsame] at h
  have hdefault : v.forwardsDefault = false := by simpa using hdefault
  have hname : v.rawManagedName = v.managedLead ++ (v.direction.tag ++ titleCase v.name) ++
      v.method.overloadSuffix := by
    rw [rawManagedName_eq hstructor hd]
    simp [managedStem, hdefault, hinstantiation, String.append_assoc]
  have hdefaultName : v.forwardDefault.rawManagedName =
      v.managedLead ++ (v.direction.tag ++ titleCase v.name) ++
        ("Default" ++ v.method.overloadSuffix) := by
    have hlead : v.forwardDefault.managedLead = v.managedLead := rfl
    have hstructor' : v.forwardDefault.role.isStructor = false := hstructor
    rw [rawManagedName_eq hstructor' hd, hlead]
    simp [managedStem, forwardDefault, View.name, hinstantiation, String.append_assoc]
  rw [hdefaultName] at h
  rw [hname]
  exact namesOperator_of_inserted (Method.not_mem_overloadSuffix rfl) h

end View

/-- The check of a default is that of its method, under a longer name. -/
lemma Context.checkMethod_of_forwardDefault {ctx : Context} {c : Class} {v : View}
    (hstructor : v.role.isStructor = false) (hd : v.direction ≠ .callback)
    (hinstantiation : v.instantiation = none)
    (h : ctx.checkMethod c v.forwardDefault = .ok ()) : ctx.checkMethod c v = .ok () := by
  have hcarries {p : Parameter × ℕ} : ctx.Carries v.forwardDefault p ↔ ctx.Carries v p :=
    carries_congr rfl rfl
  have hresolve : ctx.resolve? v.forwardDefault = ctx.resolve? v := resolve?_congr rfl rfl
  rw [checkMethod_eq_ok_iff, checkHook_eq_ok_iff, prototype_isOk_iff, hresolve] at h
  rw [checkMethod_eq_ok_iff, checkHook_eq_ok_iff, prototype_isOk_iff]
  simp only [hcarries] at h
  obtain ⟨hallowed, hconstructor, hhook, hname, houtput, hparameters⟩ := h
  have hname : namesOperator v.rawManagedName = false :=
    View.namesOperator_of_forwardDefault hstructor hd hinstantiation hname
  exact ⟨hallowed, hconstructor, hhook, hname, houtput, hparameters⟩

end Bindery
