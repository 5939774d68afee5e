import Mathlib.Tactic.Lemma
import Mathlib.Algebra.GroupWithZero.Nat
import Mathlib.Data.List.TakeWhile
import Bindery.Context
import Bindery.Proofs.Lists

/-!
# Type tokens without brackets

A token is read with an eye on its brackets: marks inside them belong to the base.  But a token with
a bracket means nothing at the boundary, and one without can be read without minding brackets
(`TypeToken.flat`): its marks are counted wherever they stand, and what they leave is cut into
words.  `parse_eq_flat` says so of every token that opens no bracket; closing ones change nothing.

A character that is neither blank nor a mark stays in the base, unless it stands in the word `const`
(`mem_base`), so a token with a bracket has one in its base.

Texts put together are read together: the words stand one after the other and the marks add up.  So
a text that is followed by the qualifiers of a token spells that token with the text in the place of
its base (`parse_qualified`).
-/

namespace Bindery

open Unicode

namespace Text

variable {c : Char} {cs xs ys ws : List Char}

/-! ## Words -/

lemma wordsChars_ne_nil (h : startsBlank cs = false) : wordsChars cs ≠ [] := by
  cases cs with
  | nil => cases h
  | cons c cs =>
    have hc : isWhiteSpace c = false := h
    simp only [wordsChars, hc, Bool.false_eq_true, if_false]
    split
    · exact List.cons_ne_nil _ _
    · cases wordsChars cs <;> exact List.cons_ne_nil _ _

lemma consFirst_append {ws vs : List (List Char)} (h : ws ≠ []) :
    consFirst c (ws ++ vs) = consFirst c ws ++ vs := by
  cases ws with
  | nil => exact absurd rfl h
  | cons w ws => rfl

theorem wordsChars_append_blank (hc : isWhiteSpace c = true) :
    wordsChars (xs ++ c :: ys) = wordsChars xs ++ wordsChars ys := by
  induction xs with
  | nil => simp [wordsChars, hc]
  | cons x xs ih =>
    cases hx : isWhiteSpace x with
    | true => simpa [wordsChars, hx] using ih
    | false =>
      cases xs with
      | nil =>
        have hend : startsBlank (c :: ys) = true := hc
        simp [wordsChars, hx, hc, startsBlank]
      | cons x' xs =>
        have hgo (zs : List Char) : wordsChars (x :: x' :: zs) =
            if isWhiteSpace x' then [x] :: wordsChars (x' :: zs)
            else consFirst x (wordsChars (x' :: zs)) := by
          rw [wordsChars, if_neg (by simp [hx])]
          rfl
        simp only [List.cons_append] at ih ⊢
        rw [hgo, hgo, ih]
        cases hx' : isWhiteSpace x' with
        | true => rfl
        | false =>
          have hwords : wordsChars (x' :: xs) ≠ [] := wordsChars_ne_nil hx'
          simpa using consFirst_append hwords

lemma wordsChars_blanks_append (hws : ∀ c ∈ ws, isWhiteSpace c = true) :
    wordsChars (ws ++ cs) = wordsChars cs := by
  induction ws with
  | nil => rfl
  | cons w ws ih =>
    obtain ⟨hw, hws⟩ := List.forall_mem_cons.1 hws
    simpa [wordsChars, hw] using ih hws

lemma wordsChars_append_blanks (hws : ∀ c ∈ ws, isWhiteSpace c = true) :
    wordsChars (cs ++ ws) = wordsChars cs := by
  cases ws with
  | nil => rw [List.append_nil]
  | cons w ws =>
    obtain ⟨hw, hws⟩ := List.forall_mem_cons.1 hws
    have hnone : wordsChars (ws ++ []) = [] := wordsChars_blanks_append hws
    rw [List.append_nil] at hnone
    rw [wordsChars_append_blank hw, hnone, List.append_nil]

lemma exists_mem_wordsChars (hmem : c ∈ cs) (hc : isWhiteSpace c = false) :
    ∃ w ∈ wordsChars cs, c ∈ w := by
  induction cs with
  | nil => cases hmem
  | cons d cs ih =>
    rw [wordsChars]
    split
    next hd =>
      rcases List.mem_cons.1 hmem with rfl | hmem
      · rw [hc] at hd
        cases hd
      · exact ih hmem
    split
    · rcases List.mem_cons.1 hmem with rfl | hmem
      · exact ⟨_, List.mem_cons_self, List.mem_singleton_self _⟩
      · obtain ⟨w, hw, hcw⟩ := ih hmem
        exact ⟨w, List.mem_cons_of_mem _ hw, hcw⟩
    · cases hwords : wordsChars cs with
      | nil =>
        rcases List.mem_cons.1 hmem with rfl | hmem
        · exact ⟨_, List.mem_singleton_self _, List.mem_singleton_self _⟩
        · obtain ⟨w, hw, -⟩ := ih hmem
          rw [hwords] at hw
          cases hw
      | cons w ws =>
        rcases List.mem_cons.1 hmem with rfl | hmem
        · exact ⟨_, List.mem_cons_self, List.mem_cons_self⟩
        · obtain ⟨w', hw', hcw⟩ := ih hmem
          rw [hwords] at hw'
          rcases List.mem_cons.1 hw' with rfl | hw'
          · exact ⟨_, List.mem_cons_self, List.mem_cons_of_mem _ hcw⟩
          · exact ⟨w', List.mem_cons_of_mem _ hw', hcw⟩

lemma mem_of_mem_wordsChars {w : List Char} (hw : w ∈ wordsChars cs) (hc : c ∈ w) : c ∈ cs := by
  induction cs generalizing w with
  | nil => cases hw
  | cons d cs ih =>
    rw [wordsChars] at hw
    split at hw
    · exact List.mem_cons_of_mem _ (ih hw hc)
    split at hw
    · rcases List.mem_cons.1 hw with rfl | hw
      · obtain rfl := List.mem_singleton.1 hc
        exact List.mem_cons_self
      · exact List.mem_cons_of_mem _ (ih hw hc)
    · cases hwords : wordsChars cs with
      | nil =>
        rw [hwords] at hw
        obtain rfl := List.mem_singleton.1 hw
        obtain rfl := List.mem_singleton.1 hc
        exact List.mem_cons_self
      | cons first rest =>
        rw [hwords] at hw ih
        rcases List.mem_cons.1 hw with rfl | hw
        · rcases List.mem_cons.1 hc with rfl | hc
          · exact List.mem_cons_self
          · exact List.mem_cons_of_mem _ (ih List.mem_cons_self hc)
        · exact List.mem_cons_of_mem _ (ih (List.mem_cons_of_mem _ hw) hc)

/-! ## Trimming -/

/-- Whether a text is nothing but white space. -/
def IsBlank (s : String) : Prop :=
  ∀ c ∈ s.toList, isWhiteSpace c = true

lemma exists_suffix_trimEndWhile (p : Char → Bool) (cs : List Char) :
    ∃ suffix, (∀ c ∈ suffix, p c = true) ∧ cs = trimEndWhile p cs ++ suffix := by
  refine ⟨(cs.reverse.takeWhile p).reverse, fun c hc => ?_, ?_⟩
  · exact List.mem_takeWhile_imp (List.mem_reverse.1 hc)
  · rw [trimEndWhile, ← List.reverse_append, List.takeWhile_append_dropWhile, List.reverse_reverse]

/-- What trimming takes away are blanks at either end. -/
lemma exists_blanks_trimChars (cs : List Char) :
    ∃ front back, cs = front ++ (trimChars cs ++ back) ∧
      (∀ c ∈ front, isWhiteSpace c = true) ∧ ∀ c ∈ back, isWhiteSpace c = true := by
  obtain ⟨back, hback, hend⟩ := exists_suffix_trimEndWhile isWhiteSpace (trimStartChars cs)
  refine ⟨cs.takeWhile isWhiteSpace, back, ?_, fun c hc => List.mem_takeWhile_imp hc, hback⟩
  rw [trimChars, ← hend, trimStartChars, List.takeWhile_append_dropWhile]

lemma not_isBlank_of_mem {s : String} (hmem : c ∈ s.toList) (hc : isWhiteSpace c = false) :
    ¬IsBlank s := by
  intro hblank
  rw [hblank c hmem] at hc
  cases hc

lemma trim_eq_empty_iff {s : String} : trim s = "" ↔ IsBlank s := by
  obtain ⟨front, back, hsplit, hfront, hback⟩ := exists_blanks_trimChars s.toList
  rw [trim, ← String.toList_inj, String.toList_ofList]
  constructor
  · intro hnone
    rw [IsBlank, hsplit, hnone]
    simpa [or_imp, forall_and] using ⟨hfront, hback⟩
  · intro hblank
    have hstart : trimStartChars s.toList = [] := List.dropWhile_eq_nil_iff.2 hblank
    rw [trimChars, hstart]
    rfl

end Text

namespace TypeToken

variable {c : Char} {cs ws xs ys : List Char} {s q : String} {t : TypeToken} {depth : ℕ}

/-! ## Marks -/

/-- Blanks in front of a token stay in front of what it leaves without its marks. -/
lemma unmark_blanks_append (hws : ∀ c ∈ ws, isWhiteSpace c = true) :
    unmark depth (ws ++ cs) =
      { unmark depth cs with chars := ws ++ (unmark depth cs).chars } := by
  induction ws with
  | nil => rfl
  | cons w ws ih =>
    obtain ⟨hw, hws⟩ := List.forall_mem_cons.1 hws
    have hplain : w ≠ '<' ∧ w ≠ '>' ∧ w ≠ '*' ∧ w ≠ '&' := by
      refine ⟨?_, ?_, ?_, ?_⟩ <;> rintro rfl <;> revert hw <;> decide
    simp [unmark, hplain, ih hws]

lemma unmark_append_blanks (hws : ∀ c ∈ ws, isWhiteSpace c = true) :
    unmark depth (cs ++ ws) =
      { unmark depth cs with chars := (unmark depth cs).chars ++ ws } := by
  induction cs generalizing depth with
  | nil =>
    have hblank : unmark depth (ws ++ []) = _ := unmark_blanks_append hws
    simpa [unmark] using hblank
  | cons c cs ih =>
    simp only [List.cons_append, unmark, ih]
    split
    · rfl
    split
    · rfl
    split
    · rfl
    split <;> rfl

/-- A token is read without the blanks at its ends. -/
theorem parse_trim (s : String) : parse (Text.trim s) = parse s := by
  obtain ⟨front, back, hsplit, hfront, hback⟩ := Text.exists_blanks_trimChars s.toList
  have hmarks : unmark 0 s.toList = { unmark 0 (Text.trimChars s.toList) with
      chars := front ++ ((unmark 0 (Text.trimChars s.toList)).chars ++ back) } := by
    rw [congrArg (unmark 0) hsplit, unmark_blanks_append hfront, unmark_append_blanks hback]
  simp only [parse, Text.trim, String.toList_ofList, hmarks,
    Text.wordsChars_blanks_append hfront, Text.wordsChars_append_blanks hback]

lemma mem_unmark (hmem : c ∈ cs) (hc : c ≠ '*' ∧ c ≠ '&') : c ∈ (unmark depth cs).chars := by
  induction cs generalizing depth with
  | nil => cases hmem
  | cons d cs ih =>
    rcases List.mem_cons.1 hmem with rfl | hmem
    · simp only [unmark, hc.1, hc.2, false_and, if_false]
      split
      · exact List.mem_cons_self
      split <;> exact List.mem_cons_self
    · simp only [unmark]
      split
      · exact List.mem_cons_of_mem _ (ih hmem)
      split
      · exact List.mem_cons_of_mem _ (ih hmem)
      split
      · exact List.mem_cons_of_mem _ (ih hmem)
      split <;> exact List.mem_cons_of_mem _ (ih hmem)

/-- A character that is neither blank nor a mark stays in the base, unless it stands in `const`. -/
theorem mem_base (hmem : c ∈ s.toList) (hsolid : isWhiteSpace c = false)
    (hc : c ≠ '*' ∧ c ≠ '&') (hconst : c ∉ "const".toList) : c ∈ (parse s).base.toList := by
  have hunmarked : c ∈ (unmark 0 s.toList).chars := mem_unmark hmem hc
  obtain ⟨w, hw, hcw⟩ := Text.exists_mem_wordsChars hunmarked hsolid
  have hcw' : c ∈ (String.ofList w).toList := by rwa [String.toList_ofList]
  refine Text.mem_intercalate_of_mem (List.mem_filter.2 ⟨List.mem_map_of_mem hw, ?_⟩) hcw'
  simpa using fun heq : String.ofList w = "const" => hconst (heq ▸ hcw')

lemma forall_bracket {P : Char → Prop} (angle : P '<') (round : P '(') (square : P '[') :
    ∀ c ∈ ['<', '(', '['], P c := by
  simp only [List.forall_mem_cons]
  exact ⟨angle, round, square, nofun⟩

/-- The base of a token with an opening bracket has one. -/
lemma isCompound_base (hc : c ∈ ['<', '(', '[']) (hmem : c ∈ s.toList) :
    Context.isCompound (parse s).base = true := by
  have hclass : ∀ c ∈ ['<', '(', '['], isWhiteSpace c = false ∧ (c ≠ '*' ∧ c ≠ '&') ∧
      c ∉ "const".toList := forall_bracket (by decide) (by decide) (by decide)
  obtain ⟨hsolid, hmark, hconst⟩ := hclass c hc
  exact List.any_eq_true.2 ⟨c, mem_base hmem hsolid hmark hconst, by simpa using hc⟩

/-! ## The flat reading -/

/-- A blank in the place of a mark. -/
def unmarked (c : Char) : Char :=
  if c = '*' ∨ c = '&' then ' ' else c

/-- The token that a text spells if brackets are no matter. -/
def flat (s : String) : TypeToken :=
  let words := Text.words (s.map unmarked)
  { base := " ".intercalate (words.filter (· ≠ "const"))
    isConst := words.contains "const"
    pointers := s.toList.count '*'
    references := s.toList.count '&' }

/-- As long as no bracket is opened, every mark counts. -/
lemma unmark_append (h : '<' ∉ xs) : unmark 0 (xs ++ ys) =
    ⟨xs.map unmarked ++ (unmark 0 ys).chars, xs.count '*' + (unmark 0 ys).pointers,
      xs.count '&' + (unmark 0 ys).references⟩ := by
  induction xs with
  | nil => simp
  | cons c xs ih =>
    obtain ⟨hc, h⟩ := not_or.1 (mt List.mem_cons.2 h)
    simp only [List.cons_append, unmark, ih h, Ne.symm hc, if_false, and_true]
    split
    next hclose => simp [hclose, unmarked]
    split
    next hpointer => simp [hpointer, unmarked, Nat.add_right_comm]
    split
    next hreference => simp [hreference, unmarked, Nat.add_right_comm]
    next => simp_all [unmarked]

lemma unmark_eq (h : '<' ∉ cs) :
    unmark 0 cs = ⟨cs.map unmarked, cs.count '*', cs.count '&'⟩ := by
  have happend : unmark 0 (cs ++ []) = _ := unmark_append h
  simpa [unmark] using happend

theorem parse_eq_flat (h : '<' ∉ s.toList) : parse s = flat s := by
  simp only [parse, flat, unmark_eq h, Text.words, String.toList_map]

lemma isCompound_base_flat (h : ∀ c ∈ ['<', '(', '['], c ∉ s.toList) :
    Context.isCompound (flat s).base = false := by
  refine List.any_eq_false.2 fun c hc hbracket => ?_
  have hbracket : c ∈ ['<', '(', '['] := by simpa using hbracket
  have hsolid : c ≠ ' ' := by
    rintro rfl
    revert hbracket
    decide
  rcases Text.mem_of_mem_intercalate hc with hblank | ⟨part, hpart, hc⟩
  · exact hsolid (by simpa using hblank)
  obtain ⟨w, hw, rfl⟩ := List.mem_map.1 (List.mem_filter.1 hpart).1
  rw [String.toList_map] at hw
  obtain ⟨d, hd, hcd⟩ := List.mem_map.1
    (Text.mem_of_mem_wordsChars hw (by rwa [String.toList_ofList] at hc))
  unfold unmarked at hcd
  split at hcd
  · exact hsolid hcd.symm
  · exact h c hbracket (hcd ▸ hd)

/-! ## Texts with qualifiers -/

/-- The qualifiers of a token, one by one. -/
def qualifiers (t : TypeToken) : List String :=
  (if t.isConst then ["const"] else []) ++ List.replicate t.pointers "*" ++
    List.replicate t.references "&"

/-- A text followed by the qualifiers of a token. -/
def qualified (s : String) (t : TypeToken) : String :=
  " ".intercalate (s :: t.qualifiers)

/-! ## The flat reading of texts put together -/

/-- The words of a text without its marks. -/
def flatWords (s : String) : List String :=
  Text.words (s.map unmarked)

lemma flatWords_append : flatWords (s ++ " " ++ q) = flatWords s ++ flatWords q := by
  have hblank : Text.wordsChars ((s.toList.map unmarked) ++ ' ' :: (q.toList.map unmarked)) =
      Text.wordsChars (s.toList.map unmarked) ++ Text.wordsChars (q.toList.map unmarked) :=
    Text.wordsChars_append_blank rfl
  simp only [flatWords, Text.words, String.toList_map, String.toList_append, List.map_append]
  simpa [unmarked] using congrArg (List.map String.ofList) hblank

lemma flatWords_intercalate (s : String) (parts : List String) :
    flatWords (" ".intercalate (s :: parts)) = flatWords s ++ parts.flatMap flatWords := by
  induction parts generalizing s with
  | nil => simp
  | cons q parts ih =>
    rw [String.intercalate_cons_cons, flatWords_append, ih, List.flatMap_cons]

lemma count_intercalate (hc : c ≠ ' ') (s : String) (parts : List String) :
    (" ".intercalate (s :: parts)).toList.count c =
      s.toList.count c + (parts.map fun q => q.toList.count c).sum := by
  induction parts generalizing s with
  | nil => simp
  | cons q parts ih =>
    have hblank : " ".toList.count c = 0 := by simp [Ne.symm hc]
    rw [String.intercalate_cons_cons, String.toList_append, String.toList_append,
      List.count_append, List.count_append, ih, hblank, List.map_cons, List.sum_cons, Nat.add_zero]

/-- Of the qualifiers of a token, only `const` is a word. -/
lemma flatWords_qualifiers (t : TypeToken) :
    t.qualifiers.flatMap flatWords = if t.isConst then ["const"] else [] := by
  have hmarks (n : ℕ) (mark : String) (hmark : flatWords mark = []) :
      (List.replicate n mark).flatMap flatWords = [] := by
    refine List.flatMap_eq_nil_iff.2 fun q hq => ?_
    rw [List.eq_of_mem_replicate hq, hmark]
  rw [qualifiers, List.flatMap_append, List.flatMap_append, hmarks _ "*" (by decide +kernel),
    hmarks _ "&" (by decide +kernel), List.append_nil, List.append_nil]
  cases t.isConst with
  | true => decide +kernel
  | false => rfl

lemma count_qualifiers (t : TypeToken) :
    (t.qualifiers.map fun q => q.toList.count '*').sum = t.pointers ∧
      (t.qualifiers.map fun q => q.toList.count '&').sum = t.references := by
  unfold qualifiers
  cases t.isConst <;> simp

lemma flat_qualified (s : String) (t : TypeToken) :
    flat (qualified s t) = t.substitute (flat s) := by
  have hwords : flatWords (qualified s t) =
      flatWords s ++ if t.isConst then ["const"] else [] := by
    rw [qualified, flatWords_intercalate, flatWords_qualifiers]
  have hpointers : (qualified s t).toList.count '*' = s.toList.count '*' + t.pointers := by
    rw [qualified, count_intercalate (by decide), (count_qualifiers t).1]
  have hreferences : (qualified s t).toList.count '&' = s.toList.count '&' + t.references := by
    rw [qualified, count_intercalate (by decide), (count_qualifiers t).2]
  have hbase : (flatWords (qualified s t)).filter (· ≠ "const") =
      (flatWords s).filter (· ≠ "const") := by
    rw [hwords, List.filter_append]
    cases t.isConst <;> simp
  have hconst : (flatWords (qualified s t)).contains "const" =
      (t.isConst || (flatWords s).contains "const") := by
    rw [hwords]
    cases t.isConst <;> simp
  unfold flatWords at hbase hconst
  simp only [flat, substitute, hbase, hconst, hpointers, hreferences, Nat.add_comm]

lemma mem_qualified (hc : c ∈ s.toList) : c ∈ (qualified s t).toList :=
  Text.mem_intercalate_of_mem List.mem_cons_self hc

lemma open_not_mem_qualified (h : '<' ∉ s.toList) : '<' ∉ (qualified s t).toList := by
  have hparts : (t.qualifiers.map fun q => q.toList.count '<').sum = 0 := by
    unfold qualifiers
    cases t.isConst <;> simp
  rw [← List.count_eq_zero] at h ⊢
  rw [qualified, count_intercalate (by decide), hparts, h]

/-- Read one after the other, a text without brackets and the qualifiers of a token are the token
with the text in the place of its base. -/
theorem parse_qualified (h : '<' ∉ s.toList) (t : TypeToken) :
    parse (qualified s t) = t.substitute (parse s) := by
  rw [parse_eq_flat h, parse_eq_flat (open_not_mem_qualified h), flat_qualified]

end TypeToken

end Bindery
