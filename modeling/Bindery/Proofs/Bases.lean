import Mathlib.Tactic.Lemma
import Mathlib.Data.Finset.Card
import Mathlib.Data.Finset.SDiff
import Mathlib.Logic.Relation
import Bindery.Support

/-!
# Transitive bases

`Registry.walkBases` collects names on a walk into the bases of each new class, with a bound on how
deep it may go.  That the bound is never met follows from counting the classes that are not found
yet, and what holds of a walk without a bound can then be shown step by step
(`HoldsOfWalks.walkBases`).  What a walk adds to the names found before is described by
`Registry.Explores`.

The bases of a class are then the names that a chain of declared bases reaches
(`mem_allBases_iff`), whatever the hierarchy looks like: cycles, repetitions and names that mean no
class included.
-/

namespace Bindery

namespace Registry

variable {r : Registry} {found middle result bases more : List String} {name base : String}
  {c : Class}

/-- A class of this name declares the base. -/
def HasBase (r : Registry) (name base : String) : Prop :=
  ∃ c, r.find? name = some c ∧ base ∈ c.bases

/-- What a walk through `bases` that begins with the names `found` comes back with: it loses no
name, repeats none, adds those that the bases reach and no others, and with each of them its own
bases. -/
structure Explores (r : Registry) (found bases result : List String) : Prop where
  found_subset : found ⊆ result
  bases_subset : bases ⊆ result
  closed : ∀ x ∈ result, x ∉ found → ∀ y, r.HasBase x y → y ∈ result
  reached : ∀ x ∈ result, x ∉ found → ∃ b ∈ bases, Relation.ReflTransGen r.HasBase b x
  nodup : found.Nodup → result.Nodup

/-- The bases that a name declares: those of its class, or none if it means no class. -/
def basesOf (r : Registry) (name : String) : List String :=
  (r.find? name).elim [] Class.bases

lemma basesOf_of_known (hknown : r.find? name = some c) : r.basesOf name = c.bases := by
  simp [basesOf, hknown]

lemma basesOf_of_unknown (hunknown : r.find? name = none) : r.basesOf name = [] := by
  simp [basesOf, hunknown]

lemma hasBase_iff : r.HasBase name base ↔ base ∈ r.basesOf name := by
  cases hfind : r.find? name with
  | none => simp [HasBase, basesOf_of_unknown hfind, hfind]
  | some c => simp [HasBase, basesOf_of_known hfind, hfind]

namespace Explores

lemma nil (found : List String) : r.Explores found [] found where
  found_subset _ hx := hx
  bases_subset := List.nil_subset found
  closed _ hx hnew := absurd hx hnew
  reached _ hx hnew := absurd hx hnew
  nodup h := h

lemma append (h : r.Explores found bases middle) (h' : r.Explores middle more result) :
    r.Explores found (bases ++ more) result where
  found_subset := List.Subset.trans h.found_subset h'.found_subset
  bases_subset := List.append_subset.2
    ⟨List.Subset.trans h.bases_subset h'.found_subset, h'.bases_subset⟩
  closed x hx hnew y hy := by
    by_cases hmiddle : x ∈ middle
    · exact h'.found_subset (h.closed x hmiddle hnew y hy)
    · exact h'.closed x hx hmiddle y hy
  reached x hx hnew := by
    by_cases hmiddle : x ∈ middle
    · obtain ⟨b, hb, hchain⟩ := h.reached x hmiddle hnew
      exact ⟨b, List.mem_append_left more hb, hchain⟩
    · obtain ⟨b, hb, hchain⟩ := h'.reached x hx hmiddle
      exact ⟨b, List.mem_append_right bases hb, hchain⟩
  nodup hfound := h'.nodup (h.nodup hfound)

lemma known (hbase : base ∈ found) : r.Explores found [base] found where
  found_subset _ hx := hx
  bases_subset := List.cons_subset.2 ⟨hbase, List.nil_subset found⟩
  closed _ hx hnew := absurd hx hnew
  reached _ hx hnew := absurd hx hnew
  nodup h := h

lemma enter (hbase : base ∉ found)
    (h : r.Explores (found ++ [base]) (r.basesOf base) result) :
    r.Explores found [base] result where
  found_subset := List.Subset.trans (List.subset_append_left _ _) h.found_subset
  bases_subset := List.Subset.trans (List.subset_append_right _ _) h.found_subset
  closed x hx hnew y hy := by
    by_cases hself : x = base
    · exact h.bases_subset (hasBase_iff.1 (hself ▸ hy))
    · exact h.closed x hx (by simp [hnew, hself]) y hy
  reached x hx hnew := by
    by_cases hself : x = base
    · exact ⟨base, List.mem_singleton_self base, hself ▸ .refl⟩
    · obtain ⟨b, hb, hchain⟩ := h.reached x hx (by simp [hnew, hself])
      exact ⟨base, List.mem_singleton_self base, .head (hasBase_iff.2 hb) hchain⟩
  nodup hfound := by
    refine h.nodup (List.nodup_append.2 ⟨hfound, List.pairwise_singleton _ base, ?_⟩)
    intro x hx y hy hsame
    exact hbase (List.mem_singleton.1 hy ▸ hsame ▸ hx)

end Explores

/-! ## The bound on the depth -/

/-- How many classes a walk has not found yet. -/
def unfound (r : Registry) (found : List String) : ℕ :=
  (r.names.toFinset \ found.toFinset).card

lemma unfound_mono (h : found ⊆ result) : r.unfound result ≤ r.unfound found := by
  have hsubset : found.toFinset ⊆ result.toFinset := fun x hx => by
    rw [List.mem_toFinset] at hx ⊢
    exact h hx
  exact Finset.card_le_card (Finset.sdiff_subset_sdiff subset_rfl hsubset)

lemma unfound_append_lt (hbase : base ∉ found) (hknown : r.find? base = some c) :
    r.unfound (found ++ [base]) < r.unfound found := by
  have hmem : base ∈ r.names := by
    obtain ⟨hc, rfl⟩ := find?_eq_some_iff.1 hknown
    exact List.mem_map_of_mem hc
  refine Finset.card_lt_card ((Finset.ssubset_iff_of_subset ?_).2 ⟨base, ?_, ?_⟩)
  · intro x hx
    simp only [Finset.mem_sdiff, List.mem_toFinset, List.mem_append, not_or] at hx ⊢
    exact ⟨hx.1, hx.2.1⟩
  · simp [hmem, hbase]
  · simp

lemma unfound_le_size (found : List String) : r.unfound found ≤ r.size := by
  have hnames : r.names.length = r.size := List.length_map _
  calc r.unfound found ≤ r.names.toFinset.card := Finset.card_le_card Finset.sdiff_subset
    _ ≤ r.names.length := List.toFinset_card_le r.names
    _ = r.size := hnames

/-! ## What holds of every walk -/

/-- A relation between the names found before a walk, the bases that it goes through and the names
found after it, which holds of walks through no bases and of walks to one base, known or entered,
and of two walks together if it holds of both. -/
structure HoldsOfWalks (r : Registry) (P : List String → List String → List String → Prop) :
    Prop where
  nil : ∀ found, P found [] found
  append : ∀ {found bases middle more result}, P found bases middle → P middle more result →
    P found (bases ++ more) result
  known : ∀ {found base}, base ∈ found → P found [base] found
  enter : ∀ {found base result}, base ∉ found → P (found ++ [base]) (r.basesOf base) result →
    P found [base] result

namespace HoldsOfWalks

variable {P : List String → List String → List String → Prop}

lemma enter_unknown (h : r.HoldsOfWalks P) (hbase : base ∉ found) (hunknown : r.find? base = none) :
    P found [base] (found ++ [base]) := by
  refine h.enter hbase ?_
  rw [basesOf_of_unknown hunknown]
  exact h.nil _

/-- A fold is a walk if each of its steps is one, at whatever names are found by then. -/
lemma foldl (h : r.HoldsOfWalks P) {f : List String → String → List String} {limit : ℕ}
    (step : ∀ found base, r.unfound found ≤ limit →
      P found [base] (f found base) ∧ found ⊆ f found base)
    (hlimit : r.unfound found ≤ limit) :
    P found bases (bases.foldl f found) ∧ found ⊆ bases.foldl f found := by
  induction bases generalizing found with
  | nil => exact ⟨h.nil found, List.Subset.refl found⟩
  | cons base rest ih =>
    obtain ⟨hfirst, hsubset⟩ := step found base hlimit
    obtain ⟨hrest, hsubset'⟩ := ih (Nat.le_trans (unfound_mono hsubset) hlimit)
    exact ⟨h.append hfirst hrest, List.Subset.trans hsubset hsubset'⟩

/-- As deep as there are classes that are not found yet, a walk is never cut off. -/
theorem walkBases (h : r.HoldsOfWalks P) {depth : ℕ} (hdepth : r.unfound found ≤ depth) :
    P found bases (r.walkBases depth found bases) ∧ found ⊆ r.walkBases depth found bases := by
  induction depth generalizing found bases with
  | zero =>
    refine h.foldl (fun found base hlimit => ?_) hdepth
    split
    next hbase => exact ⟨h.known hbase, List.Subset.refl found⟩
    next hbase =>
      -- no class is left to be found, so the name that is new belongs to none
      have hunknown : r.find? base = none := by
        cases hfind : r.find? base with
        | none => rfl
        | some c =>
          have hlt := unfound_append_lt hbase hfind
          omega
      exact ⟨h.enter_unknown hbase hunknown, List.subset_append_left _ _⟩
  | succ depth ih =>
    refine h.foldl (fun found base hlimit => ?_) hdepth
    split
    next hbase => exact ⟨h.known hbase, List.Subset.refl found⟩
    next hbase =>
      split
      next hunknown => exact ⟨h.enter_unknown hbase hunknown, List.subset_append_left _ _⟩
      next c hknown =>
        have hlt := unfound_append_lt hbase hknown
        rw [← basesOf_of_known hknown]
        -- the class is found now, which pays for the step down
        have hinner : P (found ++ [base]) (r.basesOf base) _ ∧ _ := ih (by omega)
        exact ⟨h.enter hbase hinner.1,
          List.Subset.trans (List.subset_append_left _ _) hinner.2⟩

end HoldsOfWalks

lemma holdsOfWalks_explores : r.HoldsOfWalks r.Explores where
  nil := .nil
  append := .append
  known := .known
  enter := .enter

/-! ## Bases and reachability -/

/-- The bases of a class are the other names that a chain of declared bases leads to. -/
theorem mem_allBases_iff :
    base ∈ r.allBases name ↔ base ≠ name ∧ Relation.TransGen r.HasBase name base := by
  unfold allBases
  cases hfind : r.find? name with
  | none =>
    refine iff_of_false List.not_mem_nil ?_
    rintro ⟨-, hchain⟩
    obtain ⟨b, hbase, -⟩ := Relation.TransGen.head'_iff.1 hchain
    simp [hasBase_iff, basesOf_of_unknown hfind] at hbase
  | some c =>
    have hexplores : r.Explores [] c.bases (r.walkBases r.size [] c.bases) :=
      (holdsOfWalks_explores.walkBases (r.unfound_le_size [])).1
    rw [(hexplores.nodup List.nodup_nil).mem_erase_iff, and_congr_right_iff]
    rintro -
    constructor
    · intro hbase
      obtain ⟨b, hb, hchain⟩ := hexplores.reached base hbase List.not_mem_nil
      exact Relation.TransGen.head' ⟨c, hfind, hb⟩ hchain
    · intro hchain
      induction hchain with
      | single hfirst =>
        obtain ⟨c', hc', hb⟩ := hfirst
        obtain rfl : c = c' := Option.some.inj (hfind.symm.trans hc')
        exact hexplores.bases_subset hb
      | tail _ hlast ih => exact hexplores.closed _ ih List.not_mem_nil _ hlast

end Registry

theorem Context.mem_supportedBases_iff {ctx : Context} {c base : Class} :
    base ∈ ctx.supportedBases c ↔ base ∈ ctx.registry.classes ∧ ctx.supports base = true ∧
      base.name ≠ c.name ∧ Relation.TransGen ctx.registry.HasBase c.name base.name := by
  simp only [supportedBases, Registry.knownBases, List.mem_filter, List.mem_filterMap,
    Registry.find?_eq_some_iff, Registry.mem_allBases_iff]
  constructor
  · rintro ⟨⟨_, hchain, hbase, rfl⟩, hsupports⟩
    exact ⟨hbase, hsupports, hchain⟩
  · rintro ⟨hbase, hsupports, hchain⟩
    exact ⟨⟨_, hchain, hbase, rfl⟩, hsupports⟩

end Bindery
