import Mathlib.Data.List.DropRight
import Mathlib.Data.List.Forall2
import Mathlib.Data.List.Sort
import Mathlib.Tactic.Lemma
import Bindery.Text.Basic

/-!
# Lists

Facts about lists and joined texts that do not depend on what stands in them: what a fold visits and
keeps, what is found under its key, where a part of a list can lie, what stands behind the last
occurrence of an element, and the order of sorted texts.
-/

namespace Bindery

section
variable {α β κ σ : Type} {p : α → Bool} {x : α} {xs l : List α}

/-! ## Elements -/

/-- What an element of the list establishes and no other undoes holds after a fold. -/
lemma foldl_visits {P : σ → Prop} {f : σ → α → σ} {a : α} (ha : a ∈ l)
    (hit : ∀ s, P (f s a)) (stays : ∀ b ∈ l, ∀ s, P s → P (f s b)) (s : σ) : P (l.foldl f s) := by
  obtain ⟨before, after, rfl⟩ := List.append_of_mem ha
  rw [List.foldl_append, List.foldl_cons]
  refine List.foldlRecOn _ _ (hit _) fun s hs b hb => stays b ?_ s hs
  exact List.mem_append_right _ (List.mem_cons_of_mem _ hb)

lemma exists_mem_of_forall₂ {R : α → β → Prop} {as : List α} {bs : List β}
    (h : List.Forall₂ R as bs) {a : α} (ha : a ∈ as) : ∃ b ∈ bs, R a b := by
  induction h with
  | nil => cases ha
  | cons hab h ih =>
    rcases List.mem_cons.1 ha with rfl | ha
    · exact ⟨_, List.mem_cons_self, hab⟩
    · obtain ⟨b, hb, hr⟩ := ih ha
      exact ⟨b, List.mem_cons_of_mem _ hb, hr⟩

/-- Among distinct keys, a member is found under its own. -/
lemma lookup_eq_some_of_mem [BEq κ] [LawfulBEq κ] {members : List (κ × β)} {key : κ} {b : β}
    (hdistinct : (members.map Prod.fst).Nodup) (h : (key, b) ∈ members) :
    members.lookup key = some b := by
  obtain ⟨before, after, rfl⟩ := List.append_of_mem h
  refine List.lookup_eq_some_iff.2 ⟨before, after, rfl, fun m hm => ?_⟩
  rw [List.map_append, List.nodup_append] at hdistinct
  have hne := hdistinct.2.2 m.1 (List.mem_map_of_mem hm) key (by simp)
  simpa using hne.symm

lemma eq_of_getElem?_nodup {i j : Nat} (hnodup : l.Nodup) (hi : l[i]? = some x)
    (hj : l[j]? = some x) : i = j := by
  obtain ⟨hlt, -⟩ := List.getElem?_eq_some_iff.1 hi
  exact (List.getElem?_inj hlt hnodup).1 (hi.trans hj.symm)

lemma nodup_eraseDups [BEq α] [LawfulBEq α] : ∀ l : List α, l.eraseDups.Nodup
  | [] => by simp
  | a :: l => by
    rw [List.eraseDups_cons, List.nodup_cons]
    constructor
    · simp
    · exact nodup_eraseDups (l.filter fun b => !b == a)
termination_by l => l.length
decreasing_by exact Nat.lt_succ_of_le (List.length_filter_le _ _)

lemma sublist_keys_filterMap {f : α → Option β} {key : α → κ} {key' : β → κ}
    (h : ∀ a b, f a = some b → key' b = key a) (l : List α) :
    ((l.filterMap f).map key').Sublist (l.map key) := by
  induction l with
  | nil => simp
  | cons a l ih =>
    cases hf : f a with
    | none =>
      rw [List.filterMap_cons_none hf]
      exact ih.cons _
    | some b =>
      rw [List.filterMap_cons_some hf, List.map_cons, List.map_cons, h a b hf]
      exact ih.cons_cons _

/-! ## Parts across a seam -/

lemma infix_of_infix_append {part before after : List α} (hx : x ∉ part)
    (h : part <:+: (before ++ [x]) ++ after) : part <:+: before ++ [x] ∨ part <:+: after := by
  rcases List.infix_append_iff.1 h with h | h | ⟨first, second, rfl, hfirst, hsecond⟩
  · exact .inl h
  · exact .inr h
  rcases List.eq_nil_or_concat' first with rfl | ⟨first', y, rfl⟩
  · exact .inr hsecond.isInfix
  · obtain ⟨start, hstart⟩ := hfirst
    have hlast : y = x := by
      rw [← List.append_assoc] at hstart
      exact List.singleton_inj.1 (List.append_inj' hstart rfl).2
    have hmem : x ∈ [y] := List.mem_singleton.2 hlast.symm
    exact absurd (List.mem_append_left _ (List.mem_append_right _ hmem)) hx

/-- A part does not begin where its first element does not occur. -/
lemma infix_of_head_not_mem {part before after : List α} (hx : x ∉ before)
    (h : x :: part <:+: before ++ after) : x :: part <:+: after := by
  rcases List.infix_append_iff.1 h with h | h | ⟨first, second, hsplit, hfirst, hsecond⟩
  · exact absurd (h.subset List.mem_cons_self) hx
  · exact h
  cases first with
  | nil =>
    rw [List.nil_append] at hsplit
    exact hsplit ▸ hsecond.isInfix
  | cons y first =>
    obtain ⟨rfl, -⟩ := List.cons.inj hsplit
    exact absurd (hfirst.subset List.mem_cons_self) hx

/-- Nor does it end where its last element does not occur. -/
lemma infix_of_last_not_mem {part before after : List α} (hx : x ∉ after)
    (h : part ++ [x] <:+: before ++ after) : part ++ [x] <:+: before := by
  rw [← List.reverse_infix] at h ⊢
  rw [List.reverse_append, List.reverse_append] at h
  rw [List.reverse_append]
  exact infix_of_head_not_mem (by simpa using hx) h

/-! ## What stands last -/

lemma rtakeWhile_append_cons (ys : List α) (hx : p x = false) :
    (ys ++ x :: xs).rtakeWhile p = xs.rtakeWhile p := by
  have htake (zs : List α) : (zs ++ x :: ys.reverse).takeWhile p = zs.takeWhile p := by
    induction zs with
    | nil => simp [hx]
    | cons z zs ih => simp [List.takeWhile_cons, ih]
  simp [List.rtakeWhile, htake]

lemma rtakeWhile_append_of_mem (ys : List α) (hmem : x ∈ xs) (hx : p x = false) :
    (ys ++ xs).rtakeWhile p = xs.rtakeWhile p := by
  obtain ⟨front, back, rfl⟩ := List.append_of_mem hmem
  rw [← List.append_assoc, rtakeWhile_append_cons _ hx, rtakeWhile_append_cons _ hx]

lemma rtakeWhile_ne_of_not_mem [DecidableEq α] (h : x ∉ xs) : xs.rtakeWhile (· ≠ x) = xs :=
  List.rtakeWhile_eq_self_iff.2 fun y hy => by simpa using fun heq : y = x => h (heq ▸ hy)

/-! ## Joined lists -/

lemma filter_intercalate_singleton (hx : p x = false) (parts : List (List α)) :
    ([x].intercalate parts).filter p = (parts.map (List.filter p)).flatten := by
  induction parts with
  | nil => rfl
  | cons part parts ih =>
    cases parts with
    | nil => simp
    | cons part' parts =>
      rw [List.intercalate_cons_cons, List.filter_append, List.filter_append, ih]
      simp [hx]

end

namespace Text

variable {c : Char} {sep part : String} {parts texts : List String}

lemma mem_intercalate_of_mem (hpart : part ∈ parts) (hc : c ∈ part.toList) :
    c ∈ (sep.intercalate parts).toList := by
  rw [String.toList_intercalate]
  induction parts with
  | nil => cases hpart
  | cons first rest ih =>
    cases rest with
    | nil =>
      obtain rfl := List.mem_singleton.1 hpart
      simpa using hc
    | cons second rest =>
      rw [List.map_cons, List.map_cons, List.intercalate_cons_cons]
      rcases List.mem_cons.1 hpart with rfl | hpart
      · exact List.mem_append_left _ (List.mem_append_left _ hc)
      · exact List.mem_append_right _ (ih hpart)

lemma mem_of_mem_intercalate (hc : c ∈ (sep.intercalate parts).toList) :
    c ∈ sep.toList ∨ ∃ part ∈ parts, c ∈ part.toList := by
  rw [String.toList_intercalate] at hc
  induction parts with
  | nil => simp at hc
  | cons first rest ih =>
    cases rest with
    | nil => exact .inr ⟨first, List.mem_singleton_self _, by simpa using hc⟩
    | cons second rest =>
      rw [List.map_cons, List.map_cons, List.intercalate_cons_cons] at hc
      rcases List.mem_append.1 hc with hc | hc
      · rcases List.mem_append.1 hc with hc | hc
        · exact .inr ⟨first, List.mem_cons_self, hc⟩
        · exact .inl hc
      · rcases ih hc with hsep | ⟨part, hpart, hc⟩
        · exact .inl hsep
        · exact .inr ⟨part, List.mem_cons_of_mem _ hpart, hc⟩

/-! ## Sorted texts -/

lemma mem_sorted {s : String} : s ∈ sorted texts ↔ s ∈ texts :=
  List.mem_mergeSort

lemma pairwise_le_mergeSort {α : Type} (key : α → String) (l : List α) :
    (l.mergeSort fun a b => decide (key a ≤ key b)).Pairwise fun a b => key a ≤ key b := by
  have h : (l.mergeSort fun a b => decide (key a ≤ key b)).Pairwise
      fun a b => decide (key a ≤ key b) = true := by
    apply List.pairwise_mergeSort
    · intro a b c hab hbc
      rw [decide_eq_true_eq] at hab hbc ⊢
      exact String.le_trans hab hbc
    · intro a b
      rw [Bool.or_eq_true, decide_eq_true_eq, decide_eq_true_eq]
      exact String.le_total (key a) (key b)
  simpa using h

/-- Texts that do not repeat are sorted strictly. -/
lemma pairwise_lt_sorted (hnodup : texts.Nodup) : (sorted texts).Pairwise (· < ·) := by
  have hsorted : (sorted texts).Nodup := (List.mergeSort_perm _ _).nodup_iff.2 hnodup
  refine (pairwise_le_mergeSort id texts).imp₂ ?_ hsorted
  intro s t hle hne
  by_contra hlt
  exact hne (String.le_antisymm hle (String.not_lt.1 hlt))

end Text

end Bindery
