import Mathlib.Tactic.Lemma
import Bindery.Emission.Walk
import Bindery.Proofs.Lists
import Bindery.Support

/-!
# Walks over one class

The header, the wrapper bodies, the generated subclass and the managed contract of a class are each
the outcomes of a walk: over the methods of the class, then over those of its supported bases.
`Context.walk` is that shape, written once.  Each emitter is an instance of it by definition, so
that an induction over a class is done here and nowhere else:

* `walk_rel` compares two walks step by step,
* `walk_induction` carries an invariant through one walk,
* `walk_own` and `walk_inherited` find again, at the end, what the step of one method has done.

`Walk.AllWritten` says something of everything a walk has written.  `Walk.Le` orders the states of a
walk: what is settled stays settled, and no outcome is taken back.
-/

namespace Bindery

/-! ## Outcomes -/

/-- An outcome with the written item seen through `f`. -/
def Outcome.map {α β : Type} (f : α → β) : Outcome α → Outcome β
  | .written a => .written (f a)
  | .skipped v o => .skipped v o

/-- The view that was skipped and the obstacle it met. -/
def Outcome.refusal? {α : Type} : Outcome α → Option (View × Obstacle)
  | .written _ => none
  | .skipped v o => some (v, o)

/-- The views that were skipped, each with the obstacle it met. -/
def refusals {α : Type} (outcomes : List (Outcome α)) : List (View × Obstacle) :=
  outcomes.filterMap Outcome.refusal?

section
variable {α β : Type}

@[simp] lemma writtenItems_nil : writtenItems ([] : List (Outcome α)) = [] := rfl

@[simp] lemma writtenItems_written (a : α) (outcomes : List (Outcome α)) :
    writtenItems (.written a :: outcomes) = a :: writtenItems outcomes := rfl

@[simp] lemma writtenItems_skipped (v : View) (o : Obstacle) (outcomes : List (Outcome α)) :
    writtenItems (.skipped v o :: outcomes) = writtenItems outcomes := rfl

lemma mem_writtenItems {a : α} {outcomes : List (Outcome α)} :
    a ∈ writtenItems outcomes ↔ .written a ∈ outcomes := by
  simp only [writtenItems, List.mem_filterMap]
  constructor
  · rintro ⟨o, ho, hitem⟩
    cases o with
    | written b => exact Option.some.inj hitem ▸ ho
    | skipped v o => cases hitem
  · intro h
    exact ⟨_, h, rfl⟩

lemma writtenItems_map (f : α → β) (outcomes : List (Outcome α)) :
    writtenItems (outcomes.map (Outcome.map f)) = (writtenItems outcomes).map f := by
  induction outcomes with
  | nil => rfl
  | cons o outcomes ih =>
    cases o with
    | written a => simp [Outcome.map, ih]
    | skipped v o => simp [Outcome.map, ih]

lemma refusals_map (f : α → β) (outcomes : List (Outcome α)) :
    refusals (outcomes.map (Outcome.map f)) = refusals outcomes := by
  have h : (Outcome.refusal? ∘ Outcome.map f : Outcome α → Option (View × Obstacle)) =
      Outcome.refusal? := by
    funext o
    cases o <;> rfl
  rw [refusals, refusals, List.filterMap_map, h]

end

namespace Walk

variable {α β : Type}

/-- The walk with its written items seen through `f`. -/
def map (f : α → β) (w : Walk α) : Walk β where
  symbols := w.symbols
  keys := w.keys
  outcomes := w.outcomes.map (Outcome.map f)

@[simp] lemma symbols_map (f : α → β) (w : Walk α) : (w.map f).symbols = w.symbols := rfl

@[simp] lemma isSettled_map (f : α → β) (w : Walk α) (key : String × Option UInt32) :
    (w.map f).isSettled key = w.isSettled key := rfl

@[simp] lemma map_settle (f : α → β) (w : Walk α) (key : String × Option UInt32) :
    (w.settle key).map f = (w.map f).settle key := rfl

@[simp] lemma map_skip (f : α → β) (w : Walk α) (v : View) (o : Obstacle) :
    (w.skip v o).map f = (w.map f).skip v o := by
  simp [map, skip, Outcome.map]

@[simp] lemma map_claim (f : α → β) (w : Walk α) (symbol : String) (a : α) :
    (w.claim symbol a).map f = (w.map f).claim symbol (f a) := by
  simp [map, claim, write, Outcome.map]

/-! ## What was written -/

/-- Everything that a walk has written satisfies `Q`. -/
def AllWritten (Q : α → Prop) (w : Walk α) : Prop :=
  ∀ a ∈ writtenItems w.outcomes, Q a

variable {Q : α → Prop} {w : Walk α}

lemma allWritten_start : (start : Walk α).AllWritten Q := by
  simp [AllWritten, start, writtenItems]

@[simp] lemma allWritten_settle {key : String × Option UInt32} :
    (w.settle key).AllWritten Q ↔ w.AllWritten Q := Iff.rfl

@[simp] lemma allWritten_skip {v : View} {o : Obstacle} :
    (w.skip v o).AllWritten Q ↔ w.AllWritten Q := by
  simp [AllWritten]

@[simp] lemma allWritten_write {a : α} :
    (w.write a).AllWritten Q ↔ w.AllWritten Q ∧ Q a := by
  simp [AllWritten, write, or_imp, forall_and]

@[simp] lemma allWritten_claim {symbol : String} {a : α} :
    (w.claim symbol a).AllWritten Q ↔ w.AllWritten Q ∧ Q a := by
  simp [AllWritten, or_imp, forall_and]

/-! ## Later states -/

/-- `w'` is a later state of the walk than `w`: nothing is unsettled and nothing taken back. -/
structure Le (w w' : Walk α) : Prop where
  isSettled : ∀ key, w.isSettled key = true → w'.isSettled key = true
  outcomes : ∀ o ∈ w.outcomes, o ∈ w'.outcomes

variable {w₁ w₂ w₃ : Walk α}

lemma Le.refl (w : Walk α) : w.Le w :=
  ⟨fun _ h => h, fun _ h => h⟩

lemma Le.trans (h₁ : w₁.Le w₂) (h₂ : w₂.Le w₃) : w₁.Le w₃ :=
  ⟨fun key h => h₂.isSettled key (h₁.isSettled key h), fun o h => h₂.outcomes o (h₁.outcomes o h)⟩

lemma le_settle (w : Walk α) (key : String × Option UInt32) : w.Le (w.settle key) :=
  ⟨fun _ h => (isSettled_settle ..).2 (.inr h), fun _ h => h⟩

lemma le_skip (w : Walk α) (v : View) (o : Obstacle) : w.Le (w.skip v o) :=
  ⟨fun _ h => h, fun _ h => List.mem_append_left _ h⟩

lemma le_write (w : Walk α) (a : α) : w.Le (w.write a) :=
  ⟨fun _ h => h, fun _ h => List.mem_append_left _ h⟩

lemma le_claim (w : Walk α) (symbol : String) (a : α) : w.Le (w.claim symbol a) :=
  ⟨fun _ h => h, fun _ h => List.mem_append_left _ h⟩

lemma Le.written (h : w₁.Le w₂) {a : α} (ha : a ∈ writtenItems w₁.outcomes) :
    a ∈ writtenItems w₂.outcomes :=
  mem_writtenItems.2 (h.outcomes _ (mem_writtenItems.1 ha))

end Walk

/-! ## The shape of a walk -/

namespace Context

/-- A walk over a class: over its own methods, then over those of its supported bases. -/
def walk {σ : Type} (ctx : Context) (c : Class) (own : σ → Method → σ)
    (inherited : Class → σ → Method → σ) (s : σ) : σ :=
  (ctx.supportedBases c).foldl (fun s base => base.methods.foldl (inherited base) s)
    (c.methods.foldl own s)

variable {ctx : Context} {c : Class} {σ τ : Type}

/-- Two walks over the same class agree in what each pair of steps preserves. -/
theorem walk_rel {R : σ → τ → Prop} {own : σ → Method → σ} {own' : τ → Method → τ}
    {inherited : Class → σ → Method → σ} {inherited' : Class → τ → Method → τ} {s : σ} {t : τ}
    (start : R s t)
    (stepOwn : ∀ m ∈ c.methods, ∀ s t, R s t → R (own s m) (own' t m))
    (stepInherited : ∀ base ∈ ctx.supportedBases c, ∀ m ∈ base.methods, ∀ s t, R s t →
      R (inherited base s m) (inherited' base t m)) :
    R (ctx.walk c own inherited s) (ctx.walk c own' inherited' t) := by
  refine List.foldl_rel (List.foldl_rel start stepOwn) fun base hbase s t hst => ?_
  exact List.foldl_rel hst (stepInherited base hbase)

theorem walk_induction {P : σ → Prop} {own : σ → Method → σ}
    {inherited : Class → σ → Method → σ} {s : σ} (start : P s)
    (stepOwn : ∀ m ∈ c.methods, ∀ s, P s → P (own s m))
    (stepInherited : ∀ base ∈ ctx.supportedBases c, ∀ m ∈ base.methods, ∀ s, P s →
      P (inherited base s m)) :
    P (ctx.walk c own inherited s) := by
  refine List.foldlRecOn _ _ (List.foldlRecOn _ _ start fun s hs m hm => stepOwn m hm s hs) ?_
  intro s hs base hbase
  exact List.foldlRecOn _ _ hs fun s hs m hm => stepInherited base hbase m hm s hs

/-- What the step of an own method establishes and no other step undoes holds after the walk. -/
theorem walk_own {P : σ → Prop} {own : σ → Method → σ} {inherited : Class → σ → Method → σ}
    {m : Method} (hm : m ∈ c.methods) (hit : ∀ s, P (own s m))
    (stepOwn : ∀ m ∈ c.methods, ∀ s, P s → P (own s m))
    (stepInherited : ∀ base ∈ ctx.supportedBases c, ∀ m ∈ base.methods, ∀ s, P s →
      P (inherited base s m)) (s : σ) :
    P (ctx.walk c own inherited s) := by
  refine List.foldlRecOn _ _ (foldl_visits hm hit stepOwn s) fun s hs base hbase => ?_
  exact List.foldlRecOn _ _ hs fun s hs m hm => stepInherited base hbase m hm s hs

theorem walk_inherited {P : σ → Prop} {own : σ → Method → σ} {inherited : Class → σ → Method → σ}
    {base : Class} {m : Method} (hbase : base ∈ ctx.supportedBases c) (hm : m ∈ base.methods)
    (hit : ∀ s, P (inherited base s m))
    (stepInherited : ∀ base ∈ ctx.supportedBases c, ∀ m ∈ base.methods, ∀ s, P s →
      P (inherited base s m)) (s : σ) :
    P (ctx.walk c own inherited s) := by
  refine foldl_visits hbase (fun s => ?_) (fun base hbase s hs => ?_) _
  · exact foldl_visits hm hit (stepInherited base hbase) s
  · exact List.foldlRecOn _ _ hs fun s hs m hm => stepInherited base hbase m hm s hs

end Context

end Bindery
