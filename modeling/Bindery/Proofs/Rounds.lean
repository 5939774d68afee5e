import Mathlib.Tactic.Lemma
import Mathlib.Data.List.Basic
import Mathlib.Data.List.Nodup
import Mathlib.Data.Prod.Lex
import Mathlib.Order.Lattice.Nat
import Mathlib.Order.Bounds.Basic
import Bindery.Proofs.Precedence

/-!
# Rounds

The order of the main module, told from the model alone.  A pass takes the classes that it can in
model order, so a base that stands before a class holds it up no longer than the base itself, and
one that stands after it costs a pass more.  The pass in which a class is placed is therefore its
round: the largest number of steps to a later class on a chain of its bases (`Registry.round`).

Where all bases stand before the classes derived from them, no chain has such a step, and one pass
takes everything (`orderPasses_of_basesFirst`).
-/

namespace Bindery

namespace Registry

variable {r : Registry} {module : String} {placed : List String} {b c : Class}
  {pending taken left ordered before rest : List Class} {k : ℕ}

/-! ## Positions -/

/-- Where a class stands in the model. -/
def position (r : Registry) (c : Class) : ℕ :=
  r.classes.idxOf c

lemma pairwise_position (r : Registry) (module : String) :
    (r.classesIn module).Pairwise fun b c => r.position b < r.position c := by
  have hnodup : r.classes.Nodup := r.distinct.of_map
  have hall : r.classes.Pairwise fun b c => r.position b < r.position c := by
    rw [List.pairwise_iff_getElem]
    intro i j hi hj hij
    simp only [position, hnodup.idxOf_getElem]
    exact hij
  exact hall.sublist List.filter_sublist

lemma mem_before_iff (hsplit : r.classesIn module = before ++ c :: rest)
    (hb : b ∈ r.classesIn module) : b ∈ before ↔ r.position b < r.position c := by
  have hordered := r.pairwise_position module
  rw [hsplit, List.pairwise_append, List.pairwise_cons] at hordered
  obtain ⟨-, ⟨hafter, -⟩, hbefore⟩ := hordered
  constructor
  · exact fun h => hbefore b h c List.mem_cons_self
  · intro hlt
    rw [hsplit, List.mem_append, List.mem_cons] at hb
    rcases hb with hb | rfl | hb
    · exact hb
    · exact absurd hlt (lt_irrefl _)
    · exact absurd (hafter b hb) hlt.asymm

/-! ## Rounds -/

/-- What a step from a class to one of its bases counts: one if the base stands later. -/
def stepTo (r : Registry) (c b : Class) : ℕ :=
  if r.position c < r.position b then 1 else 0

/-- How many steps of a chain that starts from a class go to a class that stands later. -/
def forwardSteps (r : Registry) : Class → List Class → ℕ
  | _, [] => 0
  | c, b :: chain => r.stepTo c b + r.forwardSteps b chain

/-- The numbers of steps to a later class on the chains of bases in the module that start from a
class. -/
def chainSteps (r : Registry) (module : String) (c : Class) : Set ℕ :=
  { n | ∃ chain, List.IsChain (r.Extends module) (c :: chain) ∧ r.forwardSteps c chain = n }

/-- The largest of these numbers, where the chains have an end. -/
noncomputable def round (r : Registry) (module : String) (c : Class) : ℕ :=
  sSup (r.chainSteps module c)

lemma zero_mem_chainSteps : 0 ∈ r.chainSteps module c :=
  ⟨[], .singleton c, rfl⟩

lemma add_mem_chainSteps (hbase : r.Extends module c b) {n : ℕ} (hn : n ∈ r.chainSteps module b) :
    r.stepTo c b + n ∈ r.chainSteps module c := by
  obtain ⟨chain, hchain, rfl⟩ := hn
  exact ⟨b :: chain, .cons_cons hbase hchain, rfl⟩

lemma chainSteps_cases {n : ℕ} (hn : n ∈ r.chainSteps module c) :
    n = 0 ∨ ∃ b, r.Extends module c b ∧ ∃ m ∈ r.chainSteps module b, n = r.stepTo c b + m := by
  obtain ⟨chain, hchain, rfl⟩ := hn
  cases chain with
  | nil => exact .inl rfl
  | cons b chain =>
    obtain ⟨hbase, hrest⟩ := List.isChain_cons_cons.1 hchain
    exact .inr ⟨b, hbase, _, ⟨chain, hrest, rfl⟩, rfl⟩

/-! ## Orders with the bases first -/

section
variable (hperm : ordered.Perm (r.classesIn module)) (hfirst : r.BasesFirst module ordered)
include hperm hfirst

/-- In an order with the bases first, a base has a lower place than the class. -/
lemma idxOf_lt_of_extends (hbase : r.Extends module c b) : ordered.idxOf b < ordered.idxOf c := by
  have hnodup : ordered.Nodup :=
    hperm.nodup_iff.2 (r.distinct.of_map.sublist List.filter_sublist)
  obtain ⟨before, after, hsplit⟩ := List.append_of_mem (hperm.mem_iff.2 hbase.1)
  have hb : b ∈ before := hfirst before c after hsplit b hbase
  rw [hsplit, List.nodup_append] at hnodup
  have hc : c ∉ before := fun hc => hnodup.2.2 c hc c List.mem_cons_self rfl
  rw [hsplit, List.idxOf_append_of_mem hb, List.idxOf_append_of_notMem hc, List.idxOf_cons_self,
    Nat.add_zero]
  exact List.idxOf_lt_length_of_mem hb

/-- The place of a class bounds the steps of its chains. -/
lemma chainSteps_le_idxOf {n : ℕ} (hn : n ∈ r.chainSteps module c) : n ≤ ordered.idxOf c := by
  obtain ⟨chain, hchain, rfl⟩ := hn
  induction chain generalizing c with
  | nil => exact Nat.zero_le _
  | cons b chain ih =>
    obtain ⟨hbase, hrest⟩ := List.isChain_cons_cons.1 hchain
    have hb := ih hrest
    have hlt := idxOf_lt_of_extends hperm hfirst hbase
    simp only [forwardSteps, stepTo]
    split <;> omega

/-- A class that can be ordered has a round. -/
theorem isGreatest_round (c : Class) :
    IsGreatest (r.chainSteps module c) (r.round module c) := by
  have hbounded : BddAbove (r.chainSteps module c) :=
    ⟨ordered.idxOf c, fun _ hn => chainSteps_le_idxOf hperm hfirst hn⟩
  exact ⟨Nat.sSup_mem ⟨0, zero_mem_chainSteps⟩ hbounded, fun n hn => le_csSup hbounded hn⟩

/-- A round is made of those of the bases. -/
lemma round_le_iff : r.round module c ≤ k ↔
    ∀ b, r.Extends module c b → r.stepTo c b + r.round module b ≤ k := by
  have hround := isGreatest_round hperm hfirst
  constructor
  · intro hle b hbase
    exact ((hround c).2 (add_mem_chainSteps hbase (hround b).1)).trans hle
  · intro hbases
    rcases chainSteps_cases (hround c).1 with hzero | ⟨b, hbase, n, hn, heq⟩
    · exact hzero ▸ Nat.zero_le k
    · have hbound := hbases b hbase
      have hle := (hround b).2 hn
      omega

/-! ## The passes -/

/-- In round `k`, a class is ready exactly if it is of this round or a lower one.  Placed are then
the classes of lower rounds and, of this round, those that stand before the class. -/
lemma isReady_round (hsplit : r.classesIn module = before ++ c :: rest)
    (hplaced : ∀ b ∈ r.classesIn module, b.name ∈ placed ↔
      r.round module b < k ∨ b ∈ before ∧ r.round module b = k) :
    r.isReady module placed c = true ↔ r.round module c ≤ k := by
  have hc : c ∈ r.classesIn module := by simp [hsplit]
  rw [isReady_iff hc, round_le_iff hperm hfirst]
  refine forall_congr' fun b => imp_congr_right fun hbase => ?_
  have hne : r.position b ≠ r.position c := by
    intro hsame
    obtain rfl := (List.idxOf_inj (mem_classesIn.1 hbase.2.1).1).1 hsame
    exact lt_irrefl _ (idxOf_lt_of_extends hperm hfirst hbase)
  rw [hplaced b hbase.2.1, mem_before_iff hsplit hbase.2.1, stepTo]
  split <;> omega

/-- A pass takes, of the classes that are left, those of its round. -/
lemma orderPass_round (hsplit : r.classesIn module = before ++ rest)
    (hplaced : ∀ b ∈ r.classesIn module, b.name ∈ placed ↔
      r.round module b < k ∨ b ∈ before ∧ r.round module b = k) :
    r.orderPass module placed (rest.filter fun c => k ≤ r.round module c) =
      (rest.filter fun c => r.round module c = k,
        rest.filter fun c => k + 1 ≤ r.round module c) := by
  -- over the classes that are left: each taken one is placed for those behind it, so `before` grows
  induction rest generalizing before placed with
  | nil => rfl
  | cons c rest ih =>
    have hready := isReady_round hperm hfirst hsplit hplaced
    have hc : c ∈ r.classesIn module := by simp [hsplit]
    have hsplit' : r.classesIn module = (before ++ [c]) ++ rest := by simp [hsplit]
    by_cases hk : r.round module c = k
    · have hplaced' : ∀ b ∈ r.classesIn module, b.name ∈ c.name :: placed ↔
          r.round module b < k ∨ b ∈ before ++ [c] ∧ r.round module b = k := by
        intro b hb
        have hname : b.name = c.name ↔ b = c := ⟨eq_of_name_eq hb hc, congrArg Class.name⟩
        rw [List.mem_cons, hname, hplaced b hb, List.mem_append, List.mem_singleton]
        constructor
        · rintro (rfl | hlt | ⟨hmem, heq⟩)
          · exact .inr ⟨.inr rfl, hk⟩
          · exact .inl hlt
          · exact .inr ⟨.inl hmem, heq⟩
        · rintro (hlt | ⟨hmem | rfl, heq⟩)
          · exact .inr (.inl hlt)
          · exact .inr (.inr ⟨hmem, heq⟩)
          · exact .inl rfl
      have hfilter : ¬k + 1 ≤ r.round module c := by omega
      rw [List.filter_cons_of_pos (by simp [hk]), List.filter_cons_of_pos (by simp [hk]),
        List.filter_cons_of_neg (by simpa using hfilter), orderPass, if_pos (hready.2 hk.le),
        ih hsplit' hplaced']
    · have hplaced' : ∀ b ∈ r.classesIn module, b.name ∈ placed ↔
          r.round module b < k ∨ b ∈ before ++ [c] ∧ r.round module b = k := by
        intro b hb
        rw [hplaced b hb, List.mem_append, List.mem_singleton]
        refine or_congr_right (and_congr_left fun heq => ?_)
        have hne : b ≠ c := fun hbc => hk (hbc ▸ heq)
        simp [hne]
      have hnot : ¬decide (r.round module c = k) = true := by simpa using hk
      rw [List.filter_cons_of_neg (p := fun c => decide (r.round module c = k)) hnot]
      by_cases hle : k ≤ r.round module c
      · have hlater : k + 1 ≤ r.round module c := by omega
        have hwaits : ¬r.isReady module placed c = true := fun h =>
          hk (le_antisymm (hready.1 h) hle)
        rw [List.filter_cons_of_pos (by simpa using hle),
          List.filter_cons_of_pos (by simpa using hlater), orderPass, if_neg hwaits,
          ih hsplit' hplaced']
      · have hearlier : ¬k + 1 ≤ r.round module c := by omega
        rw [List.filter_cons_of_neg (by simpa using hle),
          List.filter_cons_of_neg (by simpa using hearlier), ih hsplit' hplaced']

/-- The loop from round `k` on: it places the classes that are left by their rounds, and those of a
round in model order. -/
lemma OrderRun.sorted {result : Except (List Class) (List Class)} {last : List Class}
    (h : r.OrderRun module placed pending result) (hresult : result = .ok last)
    (hpending : pending = (r.classesIn module).filter fun c => k ≤ r.round module c)
    (hplaced : ∀ b ∈ r.classesIn module, b.name ∈ placed ↔ r.round module b < k) :
    (∀ c ∈ last, k ≤ r.round module c) ∧
      last.Pairwise fun b c => toLex (r.round module b, r.position b) <
        toLex (r.round module c, r.position c) := by
  induction h generalizing k last with
  | done =>
    obtain rfl : [] = last := Except.ok.inj hresult
    exact ⟨nofun, .nil⟩
  | stuck hne hpass => cases hresult
  | @pass placed pending taken left result htaken hpass hrest ih =>
    cases result with
    | error e => cases hresult
    | ok later =>
      obtain rfl : taken ++ later = last := Except.ok.inj hresult
      have hround : r.orderPass module placed pending =
          ((r.classesIn module).filter fun c => r.round module c = k,
            (r.classesIn module).filter fun c => k + 1 ≤ r.round module c) := by
        rw [hpending]
        refine orderPass_round hperm hfirst (List.nil_append _).symm fun b hb => ?_
        simpa using hplaced b hb
      rw [hround] at hpass
      obtain ⟨rfl, rfl⟩ := Prod.mk.inj hpass
      have hplaced' : ∀ b ∈ r.classesIn module,
          b.name ∈ ((r.classesIn module).filter fun c => r.round module c = k).map Class.name ++
            placed ↔ r.round module b < k + 1 := by
        intro b hb
        rw [List.mem_append, hplaced b hb, List.mem_map, Nat.lt_succ_iff_lt_or_eq, or_comm]
        refine or_congr_right ?_
        constructor
        · rintro ⟨c, hc, hname⟩
          obtain ⟨hc, hk⟩ := List.mem_filter.1 hc
          obtain rfl := eq_of_name_eq hc hb hname
          simpa using hk
        · exact fun hk => ⟨b, List.mem_filter.2 ⟨hb, by simpa using hk⟩, rfl⟩
      -- the rest of the loop starts in round `k + 1`
      obtain ⟨hlower, hsorted⟩ := ih rfl rfl hplaced'
      have hsame : ∀ c ∈ (r.classesIn module).filter fun c => r.round module c = k,
          r.round module c = k := fun c hc => by simpa using (List.mem_filter.1 hc).2
      constructor
      · intro c hc
        rcases List.mem_append.1 hc with hc | hc
        · exact (hsame c hc).ge
        · exact (Nat.le_succ k).trans (hlower c hc)
      · refine List.pairwise_append.2 ⟨?_, hsorted, ?_⟩
        · have hpositions := (r.pairwise_position module).sublist
            (List.filter_sublist (p := fun c => r.round module c = k))
          refine hpositions.imp_of_mem fun {b c} hb hc hlt => ?_
          rw [Prod.Lex.toLex_lt_toLex, hsame b hb, hsame c hc]
          exact .inr ⟨rfl, hlt⟩
        · intro b hb c hc
          rw [Prod.Lex.toLex_lt_toLex, hsame b hb]
          exact .inl (hlower c hc)

end

/-! ## Bases that stand first -/

/-- Where the bases in the module stand before the classes derived from them, one pass takes
everything. -/
lemma orderPass_of_basesFirst (hfirst : r.BasesFirst module (r.classesIn module))
    (hsplit : r.classesIn module = before ++ rest) (hplaced : ∀ b ∈ before, b.name ∈ placed) :
    r.orderPass module placed rest = (rest, []) := by
  induction rest generalizing before placed with
  | nil => rfl
  | cons c rest ih =>
    have hc : c ∈ r.classesIn module := by simp [hsplit]
    have hready : r.isReady module placed c = true :=
      (isReady_iff hc).2 fun b hbase => hplaced b (hfirst before c rest hsplit b hbase)
    have hrest : r.orderPass module (c.name :: placed) rest = (rest, []) := by
      have hsplit' : r.classesIn module = (before ++ [c]) ++ rest := by simp [hsplit]
      refine ih hsplit' fun b hb => ?_
      rcases List.mem_append.1 hb with hb | hb
      · exact List.mem_cons_of_mem _ (hplaced b hb)
      · rw [List.mem_singleton.1 hb]
        exact List.mem_cons_self
    rw [orderPass, if_pos hready, hrest]

theorem orderPasses_of_basesFirst (hfirst : r.BasesFirst module (r.classesIn module)) :
    r.orderPasses module (r.classesIn module).length [] (r.classesIn module) =
      .ok (r.classesIn module) := by
  have hpass : r.orderPass module [] (r.classesIn module) = (r.classesIn module, []) :=
    orderPass_of_basesFirst hfirst (List.nil_append _).symm nofun
  cases hclasses : r.classesIn module with
  | nil => rfl
  | cons c rest =>
    rw [hclasses] at hpass
    have hend (placed : List String) : r.orderPasses module rest.length placed [] = .ok [] := by
      cases rest.length <;> rfl
    simp only [List.length_cons, orderPasses, hpass, hend, List.isEmpty_cons, Bool.false_eq_true,
      if_false, Except.map, List.append_nil]

lemma extends_congr {r' : Registry} (hperm : (r'.classesIn module).Perm (r.classesIn module)) :
    r'.Extends module = r.Extends module := by
  funext c b
  unfold Extends
  rw [hperm.mem_iff, hperm.mem_iff]

end Registry

namespace Context

variable {ctx : Context} {module : String} {ordered : List Class}

/-- Whenever the classes of the main module can be ordered, each has a round, the largest number of
steps to a class that stands later in the model on a chain of its bases in the module, and the order
is the one of their rounds and then of their positions in the model.  So a model with the bases
first keeps its order, and a model in which the classes of the module stand as they were ordered is
ordered as it stands. -/
theorem orderedClasses_byRound (hmain : ctx.config.isMain module = true)
    (h : ctx.orderedClasses module = .ok ordered) :
    (∀ c, IsGreatest (ctx.registry.chainSteps module c) (ctx.registry.round module c)) ∧
    ordered.Perm (ctx.registry.classesIn module) ∧
    (ordered.Pairwise fun b c =>
      toLex (ctx.registry.round module b, ctx.registry.position b) <
        toLex (ctx.registry.round module c, ctx.registry.position c)) ∧
    (ctx.registry.BasesFirst module (ctx.registry.classesIn module) →
      ordered = ctx.registry.classesIn module) ∧
    ∀ r : Registry, r.classesIn module = ordered →
      ({ ctx with registry := r } : Context).orderedClasses module = .ok ordered := by
  rw [orderedClasses_eq hmain] at h
  cases hresult : ctx.registry.orderPasses module (ctx.registry.classesIn module).length []
      (ctx.registry.classesIn module) with
  | error left => simp [hresult, Except.mapError] at h
  | ok last =>
  rw [hresult] at h
  obtain rfl : last = ordered := Except.ok.inj h
  have hperm := Registry.perm_of_orderPasses hresult
  have hfirst := Registry.basesFirst_of_orderPasses hresult
  have hrun : ctx.registry.OrderRun module [] (ctx.registry.classesIn module) (.ok last) :=
    hresult ▸ Registry.orderRun_orderPasses le_rfl
  have hsorted := hrun.sorted hperm hfirst (k := 0) rfl (by simp) (by simp)
  refine ⟨Registry.isGreatest_round hperm hfirst, hperm, hsorted.2, fun hmodel => ?_,
    fun r hstand => ?_⟩
  · rw [Registry.orderPasses_of_basesFirst hmodel] at hresult
    exact (Except.ok.inj hresult).symm
  · have hextends : r.Extends module = ctx.registry.Extends module :=
      Registry.extends_congr (hstand ▸ hperm)
    have hkept : r.BasesFirst module (r.classesIn module) := by
      unfold Registry.BasesFirst
      rw [hstand, hextends]
      exact hfirst
    have hagain : r.orderPasses module (r.classesIn module).length [] (r.classesIn module) =
        .ok (r.classesIn module) := Registry.orderPasses_of_basesFirst hkept
    have hmain' : ({ ctx with registry := r } : Context).config.isMain module = true := hmain
    rw [orderedClasses_eq hmain']
    simp only [hagain]
    rw [hstand]
    rfl

end Context

/-- A tower that the model lists from its top, and a class beside it. -/
theorem orderedClasses_byRound_sample :
    let falling := Sample.derivation [("Fancy", ["Button"]), ("Button", ["Widget"]),
      ("Widget", ["QObject"]), ("Plugin", ["QExternal"])] (by decide)
    let rising := Sample.derivation [("Widget", ["QObject"]), ("Plugin", ["QExternal"]),
      ("Button", ["Widget"]), ("Fancy", ["Button"])] (by decide)
    let ordered := rising.registry.classesIn "main"
    falling.orderedClasses "main" = .ok ordered ∧
      (ordered.Pairwise fun b c =>
        toLex (falling.registry.round "main" b, falling.registry.position b) <
          toLex (falling.registry.round "main" c, falling.registry.position c)) ∧
      rising.orderedClasses "main" = .ok ordered := by
  intro falling rising ordered
  have hmain : falling.config.isMain "main" = true := rfl
  have hordered : falling.orderedClasses "main" = .ok ordered := by decide +kernel
  obtain ⟨-, -, hsorted, -, hagain⟩ := Context.orderedClasses_byRound hmain hordered
  exact ⟨hordered, hsorted, hagain rising.registry rfl⟩

end Bindery
