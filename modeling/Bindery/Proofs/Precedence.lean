import Mathlib.Tactic.Lemma
import Mathlib.Data.List.Basic
import Mathlib.Data.Set.Finite.Basic
import Mathlib.Data.Set.Finite.List
import Mathlib.Logic.Relation
import Mathlib.Order.WellFounded
import Bindery.Proofs.Checks
import Bindery.Proofs.Order
import Bindery.Proofs.Sample

/-!
# Bases before derived classes

The classes of the main module are ordered by passes over those that are left, until none is left or
a pass takes none.  `Registry.OrderRun` is that loop without a bound on the number of passes;
`orderRun_orderPasses` says that it ends, and with the result of `Registry.orderPasses`.

A pass takes a class only when its bases in the module are placed.  Two invariants follow
(`Registry.Progress`): every class of the module is placed or left, and no class that is placed has
a chain of bases that ends in a cycle.  Where a pass takes nothing, each class that is left has a
base that is left, and as the module is finite, such a chain of bases runs into a cycle
(`leadsToCycle_of_stuck`).
-/

namespace Bindery

namespace Registry

variable {r : Registry} {module : String} {placed : List String} {b c : Class}
  {pending taken left ordered : List Class}

/-! ## Bases in a module -/

/-- `b` is a base of `c`, and both are classes of the module. -/
def Extends (r : Registry) (module : String) (c b : Class) : Prop :=
  c ∈ r.classesIn module ∧ b ∈ r.classesIn module ∧ b.name ∈ c.bases

/-- A chain of bases in the module leads from the class to one that is among its own direct or
indirect bases. -/
def LeadsToCycle (r : Registry) (module : String) (c : Class) : Prop :=
  ∃ b, Relation.ReflTransGen (r.Extends module) c b ∧ Relation.TransGen (r.Extends module) b b

/-- Every base in the module stands before the class. -/
def BasesFirst (r : Registry) (module : String) (ordered : List Class) : Prop :=
  ∀ before c after, ordered = before ++ c :: after → ∀ b, r.Extends module c b → b ∈ before

lemma moduleOf?_eq_some_iff {name : String} :
    r.moduleOf? name = some module ↔ ∃ b ∈ r.classesIn module, b.name = name := by
  simp only [moduleOf?, Option.map_eq_some_iff, find?_eq_some_iff, mem_classesIn]
  constructor
  · rintro ⟨b, ⟨hb, hname⟩, hmodule⟩
    exact ⟨b, ⟨hb, hmodule⟩, hname⟩
  · rintro ⟨b, ⟨hb, hmodule⟩, hname⟩
    exact ⟨b, ⟨hb, hname⟩, hmodule⟩

lemma isReady_iff (hc : c ∈ r.classesIn module) :
    r.isReady module placed c = true ↔ ∀ b, r.Extends module c b → b.name ∈ placed := by
  simp only [isReady, List.all_eq_true, Bool.or_eq_true, bne_iff_ne, ne_eq, List.contains_eq_mem,
    decide_eq_true_eq, moduleOf?_eq_some_iff]
  constructor
  · rintro h b ⟨-, hb, hbase⟩
    exact (h b.name hbase).resolve_left fun hforeign => hforeign ⟨b, hb, rfl⟩
  · intro h base hbase
    by_cases hmodule : ∃ b ∈ r.classesIn module, b.name = base
    · obtain ⟨b, hb, rfl⟩ := hmodule
      exact .inr (h b ⟨hc, hb, hbase⟩)
    · exact .inl hmodule

lemma LeadsToCycle.exists_base (h : r.LeadsToCycle module c) :
    ∃ b, r.Extends module c b ∧ r.LeadsToCycle module b := by
  obtain ⟨d, hchain, hcycle⟩ := h
  rcases hchain.cases_head with rfl | ⟨b, hbase, hrest⟩
  · obtain ⟨b, hbase, hrest⟩ := Relation.TransGen.head'_iff.1 hcycle
    exact ⟨b, hbase, c, hrest, hcycle⟩
  · exact ⟨b, hbase, d, hrest, hcycle⟩

/-- Where every class of a finite collection has a base in it, the chains of bases run into
cycles. -/
lemma leadsToCycle_of_stuck (hstuck : ∀ x ∈ left, ∃ y ∈ left, r.Extends module x y)
    (hc : c ∈ left) : r.LeadsToCycle module c := by
  by_contra hno
  -- the classes that `c` reaches inside the collection, ordered by being a base
  let Reached := { x : Class // x ∈ left ∧ Relation.ReflTransGen (r.Extends module) c x }
  have hfinite : Finite Reached := (List.finite_toSet left).subset fun _ hx => hx.1
  let above : Reached → Reached → Prop := fun x y => Relation.TransGen (r.Extends module) y.1 x.1
  have htrans : IsTrans Reached above := ⟨fun _ _ _ hxy hyz => hyz.trans hxy⟩
  have hirrefl : Std.Irrefl above := ⟨fun x hx => hno ⟨x.1, x.2.2, hx⟩⟩
  have hwf : WellFounded above := Finite.wellFounded_of_trans_of_irrefl above
  obtain ⟨last, -, hlast⟩ := hwf.has_min Set.univ ⟨⟨c, hc, .refl⟩, trivial⟩
  obtain ⟨y, hy, hbase⟩ := hstuck last.1 last.2.1
  exact hlast ⟨y, hy, last.2.2.tail hbase⟩ trivial (.single hbase)

/-! ## One pass -/

lemma left_sublist_of_orderPass (h : r.orderPass module placed pending = (taken, left)) :
    left.Sublist pending := by
  induction pending generalizing placed taken left with
  | nil => simp_all [orderPass]
  | cons c rest ih =>
    rw [orderPass] at h
    split at h
    · simp only [Prod.mk.injEq] at h
      obtain ⟨-, rfl⟩ := h
      exact (ih rfl).cons c
    · simp only [Prod.mk.injEq] at h
      obtain ⟨-, rfl⟩ := h
      exact (ih rfl).cons_cons c

/-- A class is taken when its bases in the module are placed or were taken before it. -/
lemma isReady_of_orderPass (h : r.orderPass module placed pending = (taken, left))
    {before after : List Class} (hsplit : taken = before ++ c :: after) :
    r.isReady module (before.map Class.name ++ placed) c = true := by
  -- `placed` grows with every class that the pass takes
  induction pending generalizing placed taken left before with
  | nil =>
    simp only [orderPass, Prod.mk.injEq] at h
    simp [← h.1] at hsplit
  | cons d rest ih =>
    rw [orderPass] at h
    split at h
    next hready =>
      simp only [Prod.mk.injEq] at h
      obtain ⟨htaken, -⟩ := h
      rw [hsplit] at htaken
      cases before with
      | nil =>
        simp only [List.nil_append, List.cons.injEq] at htaken
        exact htaken.1 ▸ hready
      | cons d' before =>
        simp only [List.cons_append, List.cons.injEq] at htaken
        obtain ⟨rfl, hrest⟩ := htaken
        have hrec : r.isReady module (before.map Class.name ++ d.name :: placed) c = true :=
          ih rfl hrest
        have hperm : (before.map Class.name ++ d.name :: placed).Perm
            ((d :: before).map Class.name ++ placed) := List.perm_middle
        unfold isReady at hrec ⊢
        simpa only [List.contains_eq_mem, hperm.mem_iff] using hrec
    · simp only [Prod.mk.injEq] at h
      obtain ⟨rfl, -⟩ := h
      exact ih rfl hsplit

lemma not_isReady_of_orderPass (h : r.orderPass module placed pending = ([], left)) :
    left = pending ∧ ∀ c ∈ pending, r.isReady module placed c = false := by
  induction pending generalizing left with
  | nil => simp_all [orderPass]
  | cons c rest ih =>
    rw [orderPass] at h
    split at h
    · simp at h
    next hready =>
      simp only [Prod.mk.injEq] at h
      obtain ⟨htaken, rfl⟩ := h
      obtain ⟨hleft, hrest⟩ := ih (Prod.ext htaken rfl)
      refine ⟨congrArg (c :: ·) hleft, ?_⟩
      exact List.forall_mem_cons.2 ⟨by simpa using hready, hrest⟩

/-! ## The loop -/

/-- The loop over the classes that are left: it ends in order when there are none, it gives up when
a pass takes none, and it goes on with what a pass leaves. -/
inductive OrderRun (r : Registry) (module : String) :
    List String → List Class → Except (List Class) (List Class) → Prop
  | done {placed : List String} : OrderRun r module placed [] (.ok [])
  | stuck {placed : List String} {pending left : List Class} (hpending : pending ≠ [])
      (hpass : r.orderPass module placed pending = ([], left)) :
      OrderRun r module placed pending (.error left)
  | pass {placed : List String} {pending taken left : List Class}
      {result : Except (List Class) (List Class)} (htaken : taken ≠ [])
      (hpass : r.orderPass module placed pending = (taken, left))
      (hrest : OrderRun r module (taken.map Class.name ++ placed) left result) :
      OrderRun r module placed pending (result.map (taken ++ ·))

/-- The loop ends, and as many passes as there are classes are enough for it. -/
theorem orderRun_orderPasses {passes : ℕ} (hpasses : pending.length ≤ passes) :
    r.OrderRun module placed pending (r.orderPasses module passes placed pending) := by
  induction passes generalizing placed pending with
  | zero =>
    obtain rfl : pending = [] := List.length_eq_zero_iff.1 (Nat.le_zero.1 hpasses)
    exact .done
  | succ passes ih =>
    cases pending with
    | nil => exact .done
    | cons c rest =>
      cases hpass : r.orderPass module placed (c :: rest) with
      | mk taken left =>
        simp only [orderPasses, hpass]
        by_cases htaken : taken = []
        · subst htaken
          exact .stuck (List.cons_ne_nil c rest) hpass
        · have hlength : taken.length + left.length = rest.length + 1 := by
            simpa using (perm_of_orderPass hpass).length_eq
          have hpositive : 0 < taken.length := List.length_pos_iff.2 htaken
          -- a pass that takes something leaves fewer classes, so the bound lasts
          have hfewer : left.length ≤ passes := by
            simp only [List.length_cons] at hpasses
            omega
          have hempty : taken.isEmpty = false := by simpa using htaken
          simp only [hempty, Bool.false_eq_true, if_false]
          exact .pass htaken hpass (ih hfewer)

/-! ## What the loop keeps -/

/-- Between two passes every class of the module is placed or left, and none that is placed leads to
a cycle. -/
structure Progress (r : Registry) (module : String) (placed : List String)
    (pending : List Class) : Prop where
  pending_subset : ∀ c ∈ pending, c ∈ r.classesIn module
  covers : ∀ c ∈ r.classesIn module, c.name ∈ placed ∨ c ∈ pending
  acyclic : ∀ c ∈ r.classesIn module, c.name ∈ placed → ¬r.LeadsToCycle module c

lemma Progress.start : r.Progress module [] (r.classesIn module) :=
  ⟨fun _ hc => hc, fun _ hc => .inr hc, fun _ _ hplaced => absurd hplaced List.not_mem_nil⟩

/-- What a pass takes leads to no cycle, as all its bases in the module lead to none. -/
lemma Progress.acyclic_taken (h : r.Progress module placed pending)
    (hpass : r.orderPass module placed pending = (taken, left)) :
    ∀ c ∈ taken, ¬r.LeadsToCycle module c := by
  have hmem : ∀ c ∈ taken, c ∈ r.classesIn module := fun c hc =>
    h.pending_subset c ((perm_of_orderPass hpass).subset (List.mem_append_left left hc))
  -- by the order in which the pass takes them
  suffices hprefix : ∀ before after, taken = before ++ after →
      ∀ c ∈ before, ¬r.LeadsToCycle module c by
    exact hprefix taken [] (List.append_nil taken).symm
  intro before
  induction before using List.reverseRecOn with
  | nil => exact fun _ _ c hc => absurd hc List.not_mem_nil
  | append_singleton before d ih =>
    intro after hsplit c hc
    rw [List.append_assoc, List.singleton_append] at hsplit
    have hbefore := ih (d :: after) hsplit
    rcases List.mem_append.1 hc with hc | hc
    · exact hbefore c hc
    obtain rfl : c = d := List.mem_singleton.1 hc
    have hc' : c ∈ r.classesIn module := hmem c (by rw [hsplit]; simp)
    have hready := (isReady_iff hc').1 (isReady_of_orderPass hpass hsplit)
    intro hcycle
    obtain ⟨b, hbase, hb⟩ := hcycle.exists_base
    rcases List.mem_append.1 (hready b hbase) with hname | hname
    · obtain ⟨b', hb', hsame⟩ := List.mem_map.1 hname
      have hb'' : b' ∈ r.classesIn module := hmem b' (by rw [hsplit]; simp [hb'])
      obtain rfl := eq_of_name_eq hb'' hbase.2.1 hsame
      exact hbefore b' hb' hb
    · exact h.acyclic b hbase.2.1 hname hb

lemma Progress.pass (h : r.Progress module placed pending)
    (hpass : r.orderPass module placed pending = (taken, left)) :
    r.Progress module (taken.map Class.name ++ placed) left where
  pending_subset c hc :=
    h.pending_subset c ((left_sublist_of_orderPass hpass).subset hc)
  covers c hc := by
    rcases h.covers c hc with hplaced | hpending
    · exact .inl (List.mem_append_right _ hplaced)
    · rcases List.mem_append.1 ((perm_of_orderPass hpass).mem_iff.2 hpending) with htaken | hleft
      · exact .inl (List.mem_append_left _ (List.mem_map_of_mem htaken))
      · exact .inr hleft
  acyclic c hc hname := by
    rcases List.mem_append.1 hname with hname | hname
    · obtain ⟨c', hc', hsame⟩ := List.mem_map.1 hname
      have hmem : c' ∈ r.classesIn module :=
        h.pending_subset c' ((perm_of_orderPass hpass).subset (List.mem_append_left left hc'))
      obtain rfl := eq_of_name_eq hmem hc hsame
      exact h.acyclic_taken hpass c' hc'
    · exact h.acyclic c hc hname

/-! ## What the loop answers -/

lemma OrderRun.acyclic {result : Except (List Class) (List Class)}
    (h : r.OrderRun module placed pending result) (hprogress : r.Progress module placed pending)
    (hresult : result = .ok ordered) : ∀ c ∈ r.classesIn module, ¬r.LeadsToCycle module c := by
  induction h generalizing ordered with
  | done =>
    intro c hc
    exact hprogress.acyclic c hc ((hprogress.covers c hc).resolve_right List.not_mem_nil)
  | stuck hpending hpass => cases hresult
  | @pass placed pending taken left result htaken hpass hrest ih =>
    cases result with
    | error e => cases hresult
    | ok rest => exact ih (hprogress.pass hpass) rfl

lemma OrderRun.basesFirst {result : Except (List Class) (List Class)}
    (h : r.OrderRun module placed pending result) (hprogress : r.Progress module placed pending)
    (hresult : result = .ok ordered) {before after : List Class}
    (hsplit : ordered = before ++ c :: after) (hbase : r.Extends module c b) :
    b.name ∈ before.map Class.name ++ placed := by
  induction h generalizing ordered before with
  | done =>
    cases hresult
    simp at hsplit
  | stuck hpending hpass => cases hresult
  | @pass placed pending taken left result htaken hpass hrest ih =>
    cases result with
    | error e => cases hresult
    | ok rest =>
      obtain rfl : taken ++ rest = ordered := Except.ok.inj hresult
      rcases List.append_eq_append_iff.1 hsplit with
        ⟨first, hbefore, hrest'⟩ | ⟨last, htaken', hlast⟩
      · -- the class is placed by a later pass
        have hlater := ih (hprogress.pass hpass) rfl hrest'
        rw [hbefore, List.map_append]
        simp only [List.mem_append] at hlater ⊢
        tauto
      · cases last with
        | nil =>
          have hlater : b.name ∈ [].map Class.name ++ (taken.map Class.name ++ placed) :=
            ih (hprogress.pass hpass) rfl hlast.symm
          rw [htaken', List.append_nil] at hlater
          exact hlater
        | cons d last =>
          obtain ⟨rfl, -⟩ := List.cons_eq_cons.1 hlast
          exact (isReady_iff hbase.1).1 (isReady_of_orderPass hpass htaken') b hbase

/-- Where the loop gives up, the classes that are left are those that lead to a cycle, in the order
in which they were left. -/
lemma OrderRun.leadsToCycle {result : Except (List Class) (List Class)}
    (h : r.OrderRun module placed pending result) (hprogress : r.Progress module placed pending)
    (hresult : result = .error left) :
    left ≠ [] ∧ left.Sublist pending ∧
      ∀ c ∈ r.classesIn module, c ∈ left ↔ r.LeadsToCycle module c := by
  induction h with
  | done => cases hresult
  | @stuck placed pending left' hpending hpass =>
    obtain rfl : left' = left := Except.error.inj hresult
    obtain ⟨rfl, hblocked⟩ := not_isReady_of_orderPass hpass
    -- a class that is not ready has a base that is not placed, so one that is left
    have hstuck : ∀ x ∈ left', ∃ y ∈ left', r.Extends module x y := by
      intro x hx
      have hnot := hblocked x hx
      rw [← Bool.not_eq_true, isReady_iff (hprogress.pending_subset x hx)] at hnot
      push Not at hnot
      obtain ⟨y, hbase, hy⟩ := hnot
      exact ⟨y, (hprogress.covers y hbase.2.1).resolve_left hy, hbase⟩
    refine ⟨hpending, List.Sublist.refl _, fun c hc => ?_⟩
    constructor
    · exact leadsToCycle_of_stuck hstuck
    · intro hcycle
      refine (hprogress.covers c hc).resolve_left fun hplaced => ?_
      exact hprogress.acyclic c hc hplaced hcycle
  | @pass placed pending taken left' result htaken hpass hrest ih =>
    cases result with
    | ok rest => cases hresult
    | error e =>
      obtain rfl : e = left := Except.error.inj hresult
      obtain ⟨hne, hsublist, hiff⟩ := ih (hprogress.pass hpass) rfl
      exact ⟨hne, hsublist.trans (left_sublist_of_orderPass hpass), hiff⟩

lemma basesFirst_of_orderPasses
    (h : r.orderPasses module (r.classesIn module).length [] (r.classesIn module) = .ok ordered) :
    r.BasesFirst module ordered := by
  intro before c after hsplit b hbase
  have hrun : r.OrderRun module [] (r.classesIn module) (.ok ordered) :=
    h ▸ orderRun_orderPasses le_rfl
  have hbefore := hrun.basesFirst Progress.start rfl hsplit hbase
  rw [List.append_nil] at hbefore
  obtain ⟨b', hb', hsame⟩ := List.mem_map.1 hbefore
  have hmem : b' ∈ r.classesIn module :=
    (perm_of_orderPasses h).subset (hsplit ▸ List.mem_append_left _ hb')
  exact eq_of_name_eq hmem hbase.2.1 hsame ▸ hb'

end Registry

namespace Context

variable {ctx : Context} {module : String}

/-- The order of the main module is what the loop over its classes comes to. -/
lemma orderedClasses_eq (hmain : ctx.config.isMain module = true) :
    ctx.orderedClasses module = (ctx.registry.orderPasses module
      (ctx.registry.classesIn module).length [] (ctx.registry.classesIn module)).mapError
        fun left => .dependencyCycle module (left.map Class.name) := by
  unfold orderedClasses
  rw [hmain]
  rfl

lemma basesFirst_of_emittedClasses {classes : List Class} (hmain : ctx.config.isMain module = true)
    (h : ctx.emittedClasses module = .ok classes) : ctx.registry.BasesFirst module classes := by
  unfold emittedClasses at h
  split at h
  · cases h
  rw [orderedClasses_eq hmain] at h
  cases hresult : ctx.registry.orderPasses module (ctx.registry.classesIn module).length []
      (ctx.registry.classesIn module) with
  | error left => simp [hresult, Except.mapError] at h
  | ok ordered =>
    rw [hresult] at h
    obtain rfl : ordered = classes := Except.ok.inj h
    exact Registry.basesFirst_of_orderPasses hresult

/-- The loop over the classes of the main module ends.  It ends in order exactly if no class of the
module is a direct or indirect base of itself; then it has placed the classes of the module with the
bases first.  Otherwise the error names, in model order and once each, the classes of the module
from which a chain of bases leads to a cycle, and there are such classes. -/
theorem orderedClasses_basesFirst_or_cycle (hmain : ctx.config.isMain module = true) :
    (∃ result, ctx.registry.OrderRun module [] (ctx.registry.classesIn module) result ∧
      ctx.orderedClasses module =
        result.mapError fun left => .dependencyCycle module (left.map Class.name)) ∧
    ((∃ ordered, ctx.orderedClasses module = .ok ordered) ↔
      ∀ c, ¬Relation.TransGen (ctx.registry.Extends module) c c) ∧
    (∀ ordered, ctx.orderedClasses module = .ok ordered →
      ordered.Perm (ctx.registry.classesIn module) ∧ ctx.registry.BasesFirst module ordered) ∧
    ∀ e, ctx.orderedClasses module = .error e →
      ∃ left, e = .dependencyCycle module (left.map Class.name) ∧ left ≠ [] ∧
        left.Sublist (ctx.registry.classesIn module) ∧ (left.map Class.name).Nodup ∧
        ∀ c ∈ ctx.registry.classesIn module, c ∈ left ↔ ctx.registry.LeadsToCycle module c := by
  have hrun : ctx.registry.OrderRun module [] (ctx.registry.classesIn module)
      (ctx.registry.orderPasses module (ctx.registry.classesIn module).length []
        (ctx.registry.classesIn module)) := Registry.orderRun_orderPasses le_rfl
  have hprogress : ctx.registry.Progress module [] (ctx.registry.classesIn module) := .start
  rw [orderedClasses_eq hmain]
  cases hresult : ctx.registry.orderPasses module (ctx.registry.classesIn module).length []
      (ctx.registry.classesIn module) with
  | ok ordered =>
    rw [hresult] at hrun
    have hacyclic := hrun.acyclic hprogress rfl
    refine ⟨⟨_, hrun, rfl⟩, iff_of_true ⟨ordered, rfl⟩ ?_, ?_, nofun⟩
    · intro c hcycle
      obtain ⟨b, hbase, -⟩ := Relation.TransGen.head'_iff.1 hcycle
      exact hacyclic c hbase.1 ⟨c, .refl, hcycle⟩
    · rintro _ ⟨⟩
      exact ⟨Registry.perm_of_orderPasses hresult, Registry.basesFirst_of_orderPasses hresult⟩
  | error left =>
    rw [hresult] at hrun
    obtain ⟨hne, hsublist, hiff⟩ := hrun.leadsToCycle hprogress rfl
    refine ⟨⟨_, hrun, rfl⟩, iff_of_false nofun ?_, nofun, ?_⟩
    · intro hacyclic
      obtain ⟨c, hc⟩ := List.exists_mem_of_ne_nil left hne
      obtain ⟨b, -, hcycle⟩ := (hiff c (hsublist.subset hc)).1 hc
      exact hacyclic b hcycle
    · rintro _ ⟨⟩
      have hnames : ((ctx.registry.classesIn module).map Class.name).Nodup :=
        ctx.registry.distinct.sublist (List.filter_sublist.map _)
      exact ⟨left, rfl, hne, hsublist, hnames.sublist (hsublist.map _), hiff⟩

end Context

/-- Main-module classes with these names and bases. -/
def Sample.derivation (classes : List (String × List String))
    (distinct : (classes.map Prod.fst).Nodup) : Context where
  registry := {
    classes := classes.map fun (name, bases) => { name, module := "main", bases }
    distinct := by rwa [List.map_map] }
  config := {}

/-- Bases that stand after the class, belong to no class or belong to the class itself. -/
theorem orderedClasses_basesFirst_or_cycle_sample :
    let tower := Sample.derivation [("Fancy", ["Button"]), ("Button", ["Widget", "External"]),
      ("Widget", ["QObject"])] (by decide)
    let circle := Sample.derivation [("Root", ["QObject"]), ("Above", ["Odd", "Root"]),
      ("Odd", ["Even"]), ("Even", ["Odd"]), ("Own", ["Own"])] (by decide)
    (∃ ordered, tower.orderedClasses "main" = .ok ordered ∧
      ordered.map Class.name = ["Widget", "Button", "Fancy"] ∧
      tower.registry.BasesFirst "main" ordered) ∧
    ∃ left : List Class, circle.orderedClasses "main" =
        .error (.dependencyCycle "main" ["Above", "Odd", "Even", "Own"]) ∧
      left.map Class.name = ["Above", "Odd", "Even", "Own"] ∧
      ∀ c ∈ left, circle.registry.LeadsToCycle "main" c := by
  intro tower circle
  have hmain : ∀ ctx : Context, ctx.config = {} → ctx.config.isMain "main" = true := by
    intro ctx hconfig
    rw [hconfig]
    rfl
  constructor
  · have hok : (tower.orderedClasses "main").toOption.any
        (fun ordered => ordered.map Class.name == ["Widget", "Button", "Fancy"]) = true := by
      decide +kernel
    obtain ⟨ordered, hordered, hnames⟩ := any_toOption_iff.1 hok
    obtain ⟨-, -, hfirst, -⟩ := Context.orderedClasses_basesFirst_or_cycle (hmain tower rfl)
    exact ⟨ordered, hordered, by simpa using hnames, (hfirst ordered hordered).2⟩
  · have herror : circle.orderedClasses "main" =
        .error (.dependencyCycle "main" ["Above", "Odd", "Even", "Own"]) := by
      decide +kernel
    obtain ⟨-, -, -, hleft⟩ := Context.orderedClasses_basesFirst_or_cycle (hmain circle rfl)
    obtain ⟨left, heq, -, hsublist, -, hiff⟩ := hleft _ herror
    obtain ⟨-, hnames⟩ := GenerationError.dependencyCycle.inj heq
    exact ⟨left, herror, hnames.symm, fun c hc => (hiff c (hsublist.subset hc)).1 hc⟩

end Bindery
