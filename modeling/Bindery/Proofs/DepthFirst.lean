import Bindery.Proofs.Bases

/-!
# The order of transitive bases

`Registry.DepthFirst` is the walk that `Registry.walkBases` takes, without a bound and without a
list to collect names in: it comes to names one after the other, and the bases of a name that is new
are gone to before anything that was ahead.  The walk from a class ends, on hierarchies with cycles
too, and there is only one (`existsUnique_depthFirst`).

The transitive bases of a class are what this walk comes to, each at its first visit.  The class
itself is no exception on the way; only the finished list is without it (`allBases_firstVisits`).
-/

namespace Bindery

namespace Registry

variable {r : Registry} {found visited ahead visits : List String} {name base : String}

/-- The visits of a depth-first walk, repeated ones included, that goes to the names `ahead` and has
been to the names `visited`. -/
inductive DepthFirst (r : Registry) : (visited ahead visits : List String) → Prop
  | done (visited : List String) : DepthFirst r visited [] []
  /-- Where the walk has been before it turns back at once. -/
  | again {base : String} {visited ahead visits : List String} (hbase : base ∈ visited)
    (h : DepthFirst r visited ahead visits) : DepthFirst r visited (base :: ahead) (base :: visits)
  /-- From a new name it goes on to the bases that the name declares. -/
  | enter {base : String} {visited ahead visits : List String} (hbase : base ∉ visited)
    (h : DepthFirst r (visited ++ [base]) (r.basesOf base ++ ahead) visits) :
    DepthFirst r visited (base :: ahead) (base :: visits)

/-- The walk has no choice. -/
lemma DepthFirst.unique {visits' : List String} (h : r.DepthFirst visited ahead visits)
    (h' : r.DepthFirst visited ahead visits') : visits = visits' := by
  induction h generalizing visits' with
  | done => cases h'; rfl
  | again hbase _ ih =>
    cases h' with
    | again _ h' => rw [ih h']
    | enter hnew _ => exact absurd hbase hnew
  | enter hbase _ ih =>
    cases h' with
    | again hold _ => exact absurd hold hbase
    | enter _ h' => rw [ih h']

/-! ## First visits -/

/-- The names that were met, after a visit to one more. -/
def meet (found : List String) (base : String) : List String :=
  if base ∈ found then found else found ++ [base]

lemma meet_of_mem (hbase : base ∈ found) : meet found base = found :=
  if_pos hbase

lemma meet_of_not_mem (hbase : base ∉ found) : meet found base = found ++ [base] :=
  if_neg hbase

/-- What is met on visits is their list without repetitions, in the order of the first ones. -/
lemma foldl_meet (visits : List String) : visits.foldl meet [] = visits.eraseDups := by
  induction visits using List.reverseRecOn with
  | nil => rfl
  | append_singleton visits base ih =>
    rw [List.foldl_append, ih, List.foldl_cons, List.foldl_nil, List.eraseDups_append]
    by_cases hbase : base ∈ visits
    · rw [meet_of_mem (List.mem_eraseDups.2 hbase)]
      simp [List.removeAll, hbase]
    · rw [meet_of_not_mem (mt List.mem_eraseDups.1 hbase)]
      simp [List.removeAll, hbase, List.eraseDups_cons]

/-- A depth-first walk that goes to `bases` next meets on the way what makes `result` of `found`,
before it goes on to whatever else is ahead. -/
def PassesThrough (r : Registry) (found bases result : List String) : Prop :=
  ∃ visits, result = visits.foldl meet found ∧ ∀ ahead later, r.DepthFirst result ahead later →
    r.DepthFirst found (bases ++ ahead) (visits ++ later)

lemma holdsOfWalks_passesThrough : r.HoldsOfWalks r.PassesThrough where
  nil _ := ⟨[], rfl, fun _ _ h => h⟩
  append := by
    rintro found bases middle more result ⟨visits, rfl, hfirst⟩ ⟨visits', rfl, hsecond⟩
    refine ⟨visits ++ visits', by rw [List.foldl_append], fun ahead later h => ?_⟩
    rw [List.append_assoc, List.append_assoc]
    exact hfirst _ _ (hsecond _ _ h)
  known hbase := ⟨[_], (meet_of_mem hbase).symm, fun _ _ h => .again hbase h⟩
  enter := by
    rintro found base result hbase ⟨visits, rfl, hinner⟩
    refine ⟨base :: visits, ?_, fun ahead later h => .enter hbase (hinner ahead later h)⟩
    rw [List.foldl_cons, meet_of_not_mem hbase]

/-- The walk from a class comes to an end, and it is what `walkBases` meets. -/
lemma exists_depthFirst (r : Registry) (bases : List String) :
    ∃ visits, r.DepthFirst [] bases visits ∧ r.walkBases r.size [] bases = visits.eraseDups := by
  have hpasses : r.PassesThrough [] bases (r.walkBases r.size [] bases) :=
    (holdsOfWalks_passesThrough.walkBases (r.unfound_le_size [])).1
  obtain ⟨visits, hresult, hwalk⟩ := hpasses
  refine ⟨visits, ?_, hresult.trans (foldl_meet visits)⟩
  simpa using hwalk [] [] (.done _)

theorem existsUnique_depthFirst (r : Registry) (name : String) :
    ∃! visits, r.DepthFirst [] (r.basesOf name) visits := by
  obtain ⟨visits, hwalk, -⟩ := r.exists_depthFirst (r.basesOf name)
  exact ⟨visits, hwalk, fun _ h => h.unique hwalk⟩

/-- The bases of a class are listed in the order of the first visits. -/
theorem allBases_firstVisits (h : r.DepthFirst [] (r.basesOf name) visits) :
    r.allBases name = visits.eraseDups.erase name := by
  obtain ⟨visits', hwalk, hresult⟩ := r.exists_depthFirst (r.basesOf name)
  rw [h.unique hwalk, ← hresult, allBases]
  cases hfind : r.find? name with
  | none =>
    have hnone : r.walkBases r.size [] [] = [] := by
      cases r.size <;> rfl
    rw [basesOf_of_unknown hfind, hnone]
    rfl
  | some c => rw [basesOf_of_known hfind]

/-! ## Bases and chains -/

lemma nodup_allBases (r : Registry) (name : String) : (r.allBases name).Nodup := by
  unfold allBases
  split
  next c _ =>
    have hexplores : r.Explores [] c.bases (r.walkBases r.size [] c.bases) :=
      (holdsOfWalks_explores.walkBases (r.unfound_le_size [])).1
    exact (hexplores.nodup List.nodup_nil).erase name
  next => exact List.nodup_nil

/-- A class derives from itself and from what a chain of declared bases leads to. -/
lemma derivesFrom_iff {root : String} :
    r.derivesFrom name root = true ↔ Relation.ReflTransGen r.HasBase name root := by
  rw [derivesFrom, Bool.or_eq_true, beq_iff_eq, List.contains_iff_mem, mem_allBases_iff,
    Relation.reflTransGen_iff_eq_or_transGen]
  by_cases hself : root = name
  · simp [hself]
  · simp [hself, Ne.symm hself]

/-- Whatever the hierarchy, the walk into the bases of a name ends.  It lists no name twice, never
the one it began with, and of the others those that a chain of declared bases leads to, in the order
in which a depth-first walk first comes to them; and to derive from a class is to be led to it by
such a chain or to be it. -/
theorem allBases_reached_in_order (r : Registry) (name : String) :
    (∃! visits, r.DepthFirst [] (r.basesOf name) visits) ∧
    (∀ visits, r.DepthFirst [] (r.basesOf name) visits →
      r.allBases name = visits.eraseDups.erase name) ∧
    (r.allBases name).Nodup ∧ name ∉ r.allBases name ∧
    (∀ base, base ≠ name → (base ∈ r.allBases name ↔ Relation.TransGen r.HasBase name base)) ∧
    ∀ root, r.derivesFrom name root = true ↔ Relation.ReflTransGen r.HasBase name root := by
  refine ⟨r.existsUnique_depthFirst name, fun _ => allBases_firstVisits, r.nodup_allBases name,
    fun hself => (mem_allBases_iff.1 hself).1 rfl, fun base hne => ?_, fun _ => derivesFrom_iff⟩
  rw [mem_allBases_iff]
  exact and_iff_right hne

end Registry

/-- A class that is among its own bases: it is entered like any other, and left out. -/
example :
    let r : Registry := {
      classes := [
        { name := "A", module := "main", bases := ["B", "C"] },
        { name := "B", module := "main", bases := ["A", "D"] },
        { name := "C", module := "main", bases := ["C", "B"] }]
      distinct := by decide }
    r.allBases "A" = ["B", "C", "D"] := by
  decide +kernel

end Bindery
