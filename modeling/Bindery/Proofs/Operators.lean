import Mathlib.Tactic.Lemma
import Bindery.Proofs.Accounting
import Bindery.Proofs.OperatorNames
import Bindery.Proofs.Provenance
import Bindery.Proofs.Sample

/-!
# Operators

The name of an operator is the word `operator` and its sign, or a type.  Nothing asks a method
whether it is one.  What keeps operators out is that no emitted name can be made of theirs: the word
begins every such name, is capitalized like any other, and then stands in each name that a view
gets, whatever is put before and behind it (`View.namesOperator_rawManagedName`,
`View.namesOperator_rawCallbackName`).

So no view of an operator passes a check, and nothing is emitted for it.  Nor is its key ever
settled, so that each overload is tried and leaves its own entry in the ledger
(`operators_recorded`).
-/

namespace Bindery

/-- Whether the name of a method begins as those of operators do. -/
def Method.isOperator (m : Method) : Bool :=
  Text.startsWith m.name "operator"

/-! ## Names -/

/-- The letters of the word belong to one word, whose first letter is capitalized. -/
lemma titleChars_operator (rest : List Char) :
    titleChars true ("operator".toList ++ rest) = "Operator".toList ++ titleChars false rest := by
  rfl

lemma titleCase_operator {name : String} (h : Text.startsWith name "operator" = true) :
    ∃ rest, (titleCase name).toList = "Operator".toList ++ rest := by
  obtain ⟨rest, hrest⟩ := List.isPrefixOf_iff_prefix.1 h
  refine ⟨titleChars false rest, ?_⟩
  rw [titleCase, ← hrest, String.toList_ofList, titleChars_operator]

lemma namesOperator_of_infix {name : String} (h : "Operator".toList <:+: name.toList) :
    namesOperator name = true := by
  by_contra hname
  exact (namesOperator_eq_false_iff.1 (by simpa using hname)).2 h

namespace View

variable {v : View}

lemma namesOperator_rawCallbackName (h : v.method.isOperator = true) :
    namesOperator v.rawCallbackName = true := by
  obtain ⟨rest, hrest⟩ := titleCase_operator h
  have hspelled : (spellTilde (titleCase v.name)).toList =
      "Operator".toList ++ (spellTilde (String.ofList rest)).toList := by
    -- there is no tilde in the word
    have hword : ("Operator".toList.flatMap fun c => if c = '~' then "Destroy".toList else [c]) =
        "Operator".toList := rfl
    rw [spellTilde, View.name, hrest, List.flatMap_append, hword, spellTilde]
    simp only [String.toList_ofList]
  refine namesOperator_of_infix ?_
  rw [rawCallbackName]
  simp only [String.toList_append, hspelled, List.append_assoc]
  exact (List.infix_append' _ _ _).trans ((List.suffix_append _ _).isInfix)

lemma namesOperator_rawManagedName (h : v.method.isOperator = true) :
    namesOperator v.rawManagedName = true := by
  unfold rawManagedName
  split
  · exact namesOperator_rawCallbackName h
  · obtain ⟨rest, hrest⟩ := titleCase_operator h
    refine namesOperator_of_infix ?_
    simp only [String.toList_append, View.name, hrest, List.append_assoc]
    exact (((List.prefix_append _ _).isInfix.trans (List.suffix_append _ _).isInfix).trans
      (List.suffix_append _ _).isInfix).trans (List.suffix_append _ _).isInfix

end View

namespace Context

variable {ctx : Context} {main : Bool} {c subject : Class} {v : View} {m : Method}

/-! ## Nothing is emitted -/

lemma linkageSymbol_of_isOperator (h : v.method.isOperator = true) :
    v.linkageSymbol = .error .identifier := by
  unfold View.linkageSymbol View.managedName identifier
  rw [View.namesOperator_rawManagedName h]
  rfl

lemma not_isOperator_of_check (hcheck : ctx.checkMethod subject v = .ok ()) :
    v.method.isOperator = false := by
  obtain ⟨-, -, -, hprototype⟩ := checkMethod_eq_ok_iff.1 hcheck
  obtain ⟨hname, -, -⟩ := prototype_isOk_iff.1 hprototype
  by_contra h
  rw [View.namesOperator_rawManagedName (by simpa using h)] at hname
  cases hname

lemma ListsCallback.not_isOperator (h : ctx.ListsCallback main c v) :
    v.method.isOperator = false := by
  cases h with
  | signal hm hrole hvoid hcheck => exact not_isOperator_of_check hcheck
  | override hm hrole himpure hstructor hvoid hfree hcheck => exact not_isOperator_of_check hcheck
  | inherited hbase hm hinherit hcheck hfree => exact not_isOperator_of_check hcheck
  | slot hmain hm hrole hcheck => exact not_isOperator_of_check hcheck

lemma Forwards.not_isOperator (h : ctx.Forwards main c v) : v.method.isOperator = false := by
  cases h with
  | signal hm hrole hvoid hcheck => exact not_isOperator_of_check hcheck
  | override hv =>
    obtain ⟨⟨subject, hcheck⟩, -⟩ := hv.exists_check
    exact not_isOperator_of_check hcheck
  | slot hmain hm hrole hcheck => exact not_isOperator_of_check hcheck

lemma not_isOperator_of_mem_classContract {e : ContractEntry}
    (he : e ∈ ctx.classContract main c) : e.view.method.isOperator = false := by
  cases hrole : e.role with
  | wrapper =>
    obtain ⟨-, subject, -, hcheck⟩ := candidate_of_mem_classContract he hrole
    exact not_isOperator_of_check hcheck
  | hook =>
    obtain ⟨-, v, d, hv, -, -, hview⟩ := isPair_of_mem he hrole
    rw [hview]
    exact hv.not_isOperator
  | callback => exact (listsCallback_of_mem he hrole).2.1.not_isOperator

/-- Nothing is emitted of an operator, be it for its own class or for a derived one. -/
theorem not_isOperator_of_emits (hmain : main = ctx.isMain c) (h : ctx.Emits main c v) :
    v.method.isOperator = false := by
  cases h with
  | declared hd =>
    obtain ⟨-, subject, -, hcheck, -⟩ := declares_of_mem_declared hd
    exact not_isOperator_of_check hcheck
  | defined hb =>
    obtain ⟨-, subject, -, hcheck, -⟩ := defines_of_mem_defined hb
    exact not_isOperator_of_check hcheck
  | forwarded ht =>
    obtain ⟨-, hforwards, -⟩ := isTrampoline_of_mem hmain ht
    exact hforwards.not_isOperator
  | listed he hs => exact not_isOperator_of_mem_classContract he

/-! ## Every operator is recorded -/

/-- A plain call of an operator is refused for its name, if nothing else is to be said against
it. -/
lemma checkMethod_operator (h : v.method.isOperator = true)
    (hallowed : ctx.excludes c v.method = false) (hrole : v.method.role ≠ .constructor)
    (hdirection : v.direction = .plain) : ctx.checkMethod c v = .error .identifier := by
  have hmember : (v.method.role == .constructor && c.isAbstract) = false := by
    simp [hrole]
  have hhook : ctx.checkHook c v = .ok () :=
    checkHook_eq_ok_iff.2 fun h => by rw [hdirection] at h; cases h
  unfold checkMethod prototype
  rw [hallowed, hmember, hhook, linkageSymbol_of_isOperator h]
  rfl

lemma declare_operator (h : v.method.isOperator = true)
    (hallowed : ctx.excludes c v.method = false) (hrole : v.method.role ≠ .constructor)
    (hdirection : v.direction = .plain) (w : Walk Declaration) :
    ctx.declare c v w = (w.skip v .identifier, false) := by
  unfold declare declaration
  rw [checkMethod_operator h hallowed hrole hdirection]
  rfl

/-- A walk has skipped a method under the class that it belongs to, as one whose name is that of an
operator. -/
def RefusesName (w : Walk Declaration) (m : Method) : Prop :=
  ∃ v, v.method = m ∧ v.owner = m.owner ∧ v.direction = .plain ∧
    .skipped v .identifier ∈ w.outcomes

lemma RefusesName.mono {w w' : Walk Declaration} (hle : w.Le w') (h : RefusesName w m) :
    RefusesName w' m := by
  obtain ⟨v, hv, howner, hdirection, ho⟩ := h
  exact ⟨v, hv, howner, hdirection, hle.outcomes _ ho⟩

lemma refusesName_skip {w : Walk Declaration} (hv : v.method = m) (howner : v.owner = m.owner)
    (hdirection : v.direction = .plain) : RefusesName (w.skip v .identifier) m :=
  ⟨v, hv, howner, hdirection, List.mem_append_right _ (List.mem_singleton_self _)⟩

/-- Where the walk comes to an operator of the class, it refuses the name, unless the key is
settled. -/
lemma refusesName_declareOwn (h : m.isOperator = true) (hallowed : ctx.excludes c m = false)
    (hrole : m.role ≠ .constructor) (hsignal : m.role ≠ .signal) (w : Walk Declaration) :
    w.isSettled (View.of m).key = true ∨ RefusesName (ctx.declareOwn main c w m) m := by
  have hdeclare {v : View} (hv : v.method = m) (hdirection : v.direction = .plain)
      (w : Walk Declaration) : ctx.declare c v w = (w.skip v .identifier, false) := by
    subst hv
    exact declare_operator h hallowed hrole hdirection w
  have hsignal' : (m.role == .signal) = false := by simpa using hsignal
  cases hsettled : w.isSettled (View.of m).key with
  | true => exact .inl rfl
  | false =>
    refine .inr ?_
    have hkey : w.isSettled (View.of m).plain.key = false := hsettled
    unfold declareOwn
    simp only [hsignal', hsettled, Bool.false_eq_true, if_false]
    split
    · rw [declareVirtual]
      simp only [hkey, Bool.false_eq_true, if_false]
      rw [hdeclare rfl rfl]
      exact refusesName_skip rfl rfl rfl
    split
    next hgeneric =>
      -- one refused instantiation is enough, as no later attempt takes an outcome back
      obtain ⟨i, hi⟩ : ∃ i, i ∈ m.instantiations := by
        refine List.exists_mem_of_ne_nil _ fun hnone => ?_
        simp [Method.isGeneric, hnone] at hgeneric
      refine foldl_visits (P := fun w => RefusesName w m) hi (fun w => ?_) (fun j _ w hw => ?_) w
      · rw [hdeclare rfl rfl]
        exact refusesName_skip rfl rfl rfl
      · exact hw.mono (le_declare c _ w)
    · rw [declareSettling, hdeclare rfl rfl]
      exact refusesName_skip rfl rfl rfl

/-- The key of an operator is never settled. -/
lemma not_isSettled_operator (h : m.isOperator = true) :
    (ctx.declarationWalk main c).isSettled (View.of m).key = false := by
  have hsame {m' : Method} (hkey : (View.of m').key = (View.of m).key) : m'.isOperator = true := by
    have hname : m'.name = m.name := congrArg Prod.fst hkey
    rw [Method.isOperator, hname]
    exact h
  by_contra hsettled
  rw [Bool.not_eq_false, declarationWalk_eq] at hsettled
  rcases inheritedAccounted_foldl main c (ctx.inheritedMethods c) _ hsettled with
    ⟨m', -, hkey, d, hd, hmethod, -⟩ | ⟨⟨base, m'⟩, -, hkey, -, hcheck⟩
  · rw [← declarationWalk_eq] at hd
    have hdeclares : ctx.Declares main c d := declares_of_mem hd
    obtain ⟨subject, -, hcheck, -⟩ := hdeclares
    have hnot := not_isOperator_of_check hcheck
    rw [hmethod, hsame hkey] at hnot
    cases hnot
  · have hnot := not_isOperator_of_check hcheck
    have hoperator : (inheritedView c m').method.isOperator = true := hsame hkey
    rw [hoperator] at hnot
    cases hnot

/-- The walk over a class refuses the name of every operator of the class that is a plain method or
a slot and is not excluded. -/
theorem refusesName_of_own (main : Bool) (hm : m ∈ c.methods) (h : m.isOperator = true)
    (hallowed : ctx.excludes c m = false) (hrole : m.role = .plain ∨ m.role = .slot) :
    RefusesName (ctx.declarationWalk main c) m := by
  have hconstructor : m.role ≠ .constructor := by
    rcases hrole with hrole | hrole <;> simp [hrole]
  have hsignal : m.role ≠ .signal := by
    rcases hrole with hrole | hrole <;> simp [hrole]
  have hend : (ctx.declarationWalk main c).isSettled (View.of m).key = true ∨
      RefusesName (ctx.declarationWalk main c) m := by
    have hmono {w w' : Walk Declaration} (hle : w.Le w')
        (hw : w.isSettled (View.of m).key = true ∨ RefusesName w m) :
        w'.isSettled (View.of m).key = true ∨ RefusesName w' m :=
      hw.imp (hle.isSettled _) (·.mono hle)
    refine walk_own (P := fun w => w.isSettled (View.of m).key = true ∨ RefusesName w m) hm
      (fun w => ?_) (fun m' _ w hw => ?_) (fun base _ m' _ w hw => ?_) _
    · have hle : w.Le (ctx.declareOwn main c w m) := (contributes_declareOwn main c m w).le
      exact (refusesName_declareOwn h hallowed hconstructor hsignal w).imp_left (hle.isSettled _)
    · exact hmono (contributes_declareOwn main c m' w).le hw
    · exact hmono (inherits_declareInherited ctx c base m' w).le hw
  refine hend.resolve_left fun hsettled => ?_
  rw [not_isSettled_operator h] at hsettled
  cases hsettled

/-! ## Modules -/

/-- Whatever is generated for a module, nothing is emitted of an operator: no wrapper is declared,
no body and no trampoline is defined, and no signature is listed for any view of it.  Each overload
of an operator that a supported class declares as a plain method or as a slot, and that is not
excluded, has an entry in the ledger that says so. -/
theorem operators_recorded {ctx : Context} {module : String} {a : Artifacts}
    (ha : ctx.generate module = .ok a) :
    ∃ entries, ctx.contract module = .ok entries ∧
      ctx.signatures module = .ok (entries.filterMap ContractEntry.signature) ∧
      (∀ v, v.method.isOperator = true → ¬a.Emits entries v) ∧
      ∀ c ∈ ctx.registry.classesIn module, ctx.supports c = true → ∀ m ∈ c.methods,
        (m.role = .plain ∨ m.role = .slot) → m.isOperator = true → ctx.excludes c m = false →
        ∃ s ∈ a.ledger.entries, s.owner = m.owner ∧ s.method = m.name ∧
          s.overload = m.overload ∧ s.direction = .plain ∧
          s.obstacle.marker = "unsupported_identifier" := by
  obtain ⟨classes, hclasses, -⟩ := generate_eq_ok_iff.1 ha
  have hcontract : ctx.contract module =
      .ok (classes.flatMap (ctx.classContract (ctx.config.isMain module))) :=
    contract_eq_ok_iff.2 ⟨classes, hclasses, rfl⟩
  refine ⟨_, hcontract, by rw [signatures, hcontract]; rfl, fun v hv hemits => ?_, ?_⟩
  · obtain ⟨c, hc, hemits⟩ := (emits_iff ha hcontract).1 hemits
    have hnot := not_isOperator_of_emits (isMain_of_mem_classesIn hc) hemits
    rw [hv] at hnot
    cases hnot
  · intro c hc hsupports m hm hrole hoperator hallowed
    obtain ⟨v, hmethod, howner, hdirection, ho⟩ :=
      refusesName_of_own (ctx.config.isMain module) hm hoperator hallowed hrole
    refine ⟨.ofView v .identifier, (classHeader_of_generate ha hc).2 _ ?_, ?_⟩
    · rw [(declared_of_supports _ hsupports).2]
      exact List.mem_filterMap.2 ⟨_, ho, rfl⟩
    · rw [Skipped.ofView, hmethod]
      exact ⟨howner, rfl, rfl, hdirection, rfl⟩

end Context

/-- The sample has an operator, which is left out and recorded. -/
theorem operators_recorded_sample :
    ∃ a entries, Sample.context.generate "QtCore" = .ok a ∧
      Sample.context.contract "QtCore" = .ok entries ∧
      (∀ v, v.method.isOperator = true → ¬a.Emits entries v) ∧
      ∃ s ∈ a.ledger.entries, s.owner = "QTimer" ∧ s.method = "operator==" ∧
        s.obstacle.marker = "unsupported_identifier" := by
  have hok : (Sample.context.generate "QtCore").isOk = true := by decide +kernel
  obtain ⟨a, ha⟩ := isOk_iff_exists.1 hok
  obtain ⟨entries, hcontract, -, hnone, hrecorded⟩ := Context.operators_recorded ha
  obtain ⟨m, hm, hname, howner, hrole, hallowed⟩ : ∃ m ∈ Sample.timer.methods,
      m.name = "operator==" ∧ m.owner = "QTimer" ∧ m.role = .plain ∧
      Sample.context.excludes Sample.timer m = false := by
    decide +kernel
  have htimer : Sample.timer ∈ Sample.context.registry.classesIn "QtCore" := by decide +kernel
  have hoperator : m.isOperator = true := by
    rw [Method.isOperator, hname]
    decide
  obtain ⟨s, hs, hsowner, hmethod, -, -, hmarker⟩ :=
    hrecorded Sample.timer htimer (by decide +kernel) m hm (.inl hrole) hoperator hallowed
  exact ⟨a, entries, ha, hcontract, hnone, s, hs, hsowner.trans howner, hmethod.trans hname,
    hmarker⟩

end Bindery
