import Mathlib.Data.List.Chain
import Mathlib.Tactic.Lemma
import Bindery.Proofs.Tokens

/-!
# The normal form of type tokens

A token that was read can be written down again: `const` if it has it, its marks, its base.  Reading
that text gives the token back (`parse_normal`), however malformed the text was that it came from.

Two things have to survive.  The words of the base are found again because the base is these words
with single blanks between them (`Text.IsTight`); none of them is `const`.  And no mark of the base
is taken for one of the token, because a mark that stays stands inside brackets, and whether it does
is decided by the marks and brackets before it alone (`marksInside_filter`).  Neither blanks nor the
word `const` are among these, so taking them out of the base opens and closes nothing.
-/

namespace Bindery

open Unicode

namespace Text

variable {c d : Char} {cs w xs ys : List Char} {ws : List (List Char)}

/-! ## Words with single blanks between them -/

/-- A word: it is not empty and holds no white space. -/
def IsWord (w : List Char) : Prop :=
  w ≠ [] ∧ ∀ c ∈ w, isWhiteSpace c = false

/-- Characters without white space at either end and without two white spaces in a row, and with no
white space but blanks. -/
structure IsTight (cs : List Char) : Prop where
  head : ∀ c ∈ cs.head?, isWhiteSpace c = false
  last : ∀ c ∈ cs.getLast?, isWhiteSpace c = false
  single : cs.IsChain fun c d => isWhiteSpace c = false ∨ isWhiteSpace d = false
  plain : ∀ c ∈ cs, isWhiteSpace c = true → c = ' '

lemma wordsChars_cons_blank (hc : isWhiteSpace c = false) (hd : isWhiteSpace d = true) :
    wordsChars (c :: d :: cs) = [c] :: wordsChars (d :: cs) := by
  rw [wordsChars, if_neg (by simp [hc]), if_pos (by simpa [startsBlank] using hd)]

lemma wordsChars_cons_solid (hc : isWhiteSpace c = false) (hd : isWhiteSpace d = false) :
    wordsChars (c :: d :: cs) = consFirst c (wordsChars (d :: cs)) := by
  rw [wordsChars, if_neg (by simp [hc]), if_neg (by simp [startsBlank, hd])]

lemma intercalate_consFirst (h : ws ≠ []) :
    xs.intercalate (consFirst c ws) = c :: xs.intercalate ws := by
  obtain ⟨w, ws, rfl⟩ := List.exists_cons_of_ne_nil h
  cases ws with
  | nil => simp [consFirst]
  | cons w' ws => simp [consFirst, List.intercalate_cons_cons]

lemma wordsChars_word (hw : IsWord w) : wordsChars w = [w] := by
  obtain ⟨hne, hsolid⟩ := hw
  induction w with
  | nil => exact absurd rfl hne
  | cons c w ih =>
    obtain ⟨hc, hsolid⟩ := List.forall_mem_cons.1 hsolid
    cases w with
    | nil => simp [wordsChars, hc, startsBlank]
    | cons d w =>
      rw [wordsChars_cons_solid hc (hsolid d List.mem_cons_self),
        ih (List.cons_ne_nil _ _) hsolid, consFirst]

theorem wordsChars_intercalate (hws : ∀ w ∈ ws, IsWord w) :
    wordsChars ([' '].intercalate ws) = ws := by
  induction ws with
  | nil => rfl
  | cons w ws ih =>
    obtain ⟨hw, hws⟩ := List.forall_mem_cons.1 hws
    cases ws with
    | nil => simpa using wordsChars_word hw
    | cons w' ws =>
      rw [List.intercalate_cons_cons, List.append_assoc, List.singleton_append,
        wordsChars_append_blank (by decide), wordsChars_word hw, ih hws, List.singleton_append]

lemma isTight_word (hw : IsWord w) : IsTight w where
  head c hc := hw.2 c (List.mem_of_mem_head? hc)
  last c hc := hw.2 c (List.mem_of_mem_getLast? hc)
  single := (List.pairwise_of_forall_mem_list fun c hc _ _ => .inl (hw.2 c hc)).isChain
  plain c hc hblank := by simp [hw.2 c hc] at hblank

lemma IsTight.after_word (h : IsTight xs) (hne : xs ≠ []) (hw : IsWord w) :
    IsTight (w ++ ' ' :: xs) where
  head c hc := by
    rw [List.head?_append_of_ne_nil _ hw.1] at hc
    exact (isTight_word hw).head c hc
  last c hc := by
    rw [List.getLast?_append_of_ne_nil _ (List.cons_ne_nil _ _),
      List.getLast?_cons_of_ne_nil hne] at hc
    exact h.last c hc
  single := by
    have hblank : (' ' :: xs).IsChain fun c d => isWhiteSpace c = false ∨ isWhiteSpace d = false :=
      List.isChain_cons.2 ⟨fun c hc => .inr (h.head c hc), h.single⟩
    exact (isTight_word hw).single.append hblank fun c hc _ _ =>
      .inl (hw.2 c (List.mem_of_mem_getLast? hc))
  plain c hc hblank := by
    rcases List.mem_append.1 hc with hc | hc
    · exact (isTight_word hw).plain c hc hblank
    rcases List.mem_cons.1 hc with rfl | hc
    · rfl
    · exact h.plain c hc hblank

theorem isTight_intercalate (hws : ∀ w ∈ ws, IsWord w) : IsTight ([' '].intercalate ws) := by
  induction ws with
  | nil => exact ⟨by simp, by simp, by simp, by simp⟩
  | cons w ws ih =>
    obtain ⟨hw, hws⟩ := List.forall_mem_cons.1 hws
    cases ws with
    | nil => simpa using isTight_word hw
    | cons w' ws =>
      have hne : [' '].intercalate (w' :: ws) ≠ [] := by
        have hw' : w' ≠ [] := (hws w' List.mem_cons_self).1
        cases ws <;> simp [List.intercalate_cons_cons, hw']
      rw [List.intercalate_cons_cons, List.append_assoc, List.singleton_append]
      exact (ih hws).after_word hne hw

/-- If no two white spaces follow each other, none comes last, and all are blanks, then the words
with single blanks between them are the text, but for a blank at its front. -/
lemma intercalate_wordsChars (hlast : ∀ c ∈ cs.getLast?, isWhiteSpace c = false)
    (hsingle : cs.IsChain fun c d => isWhiteSpace c = false ∨ isWhiteSpace d = false)
    (hplain : ∀ c ∈ cs, isWhiteSpace c = true → c = ' ') :
    [' '].intercalate (wordsChars cs) = trimStartChars cs := by
  induction cs with
  | nil => rfl
  | cons c cs ih =>
    have hend : ∀ d ∈ cs.getLast?, isWhiteSpace d = false := by
      intro d hd
      have hne : cs ≠ [] := by rintro rfl; simp at hd
      exact hlast d (by rwa [List.getLast?_cons_of_ne_nil hne])
    obtain ⟨-, hplain⟩ := List.forall_mem_cons.1 hplain
    have ih := ih hend (List.isChain_cons.1 hsingle).2 hplain
    cases hc : isWhiteSpace c with
    | true => simpa [wordsChars, trimStartChars, hc] using ih
    | false =>
      have htrim : trimStartChars (c :: cs) = c :: cs := by simp [trimStartChars, hc]
      rw [htrim]
      cases cs with
      | nil => simp [wordsChars, hc, startsBlank]
      | cons d cs =>
        cases hd : isWhiteSpace d with
        | false =>
          have htrim' : trimStartChars (d :: cs) = d :: cs := by simp [trimStartChars, hd]
          have hne : wordsChars (d :: cs) ≠ [] := wordsChars_ne_nil hd
          rw [wordsChars_cons_solid hc hd, intercalate_consFirst hne, ih, htrim']
        | true =>
          obtain rfl := hplain d List.mem_cons_self hd
          cases cs with
          | nil => simp [hend ' ' rfl] at hd
          | cons e cs =>
            -- a word follows, as there is one blank only
            have he : isWhiteSpace e = false := by
              simpa [hd] using (List.isChain_cons_cons.1 (List.isChain_cons.1 hsingle).2).1
            have htrim' : trimStartChars (' ' :: e :: cs) = e :: cs := by
              simp [trimStartChars, hd, he]
            have hne : wordsChars (' ' :: e :: cs) ≠ [] := by
              rw [wordsChars, if_pos hd]
              exact wordsChars_ne_nil he
            obtain ⟨w, ws, hws⟩ := List.exists_cons_of_ne_nil hne
            rw [wordsChars_cons_blank hc hd, hws, List.intercalate_cons_cons, ← hws, ih, htrim']
            rfl

theorem IsTight.intercalate_wordsChars (h : IsTight cs) :
    [' '].intercalate (wordsChars cs) = cs := by
  rw [Text.intercalate_wordsChars h.last h.single h.plain]
  cases cs with
  | nil => rfl
  | cons c cs => simp [trimStartChars, h.head c rfl]

theorem flatten_wordsChars (cs : List Char) :
    (wordsChars cs).flatten = cs.filter fun c => !isWhiteSpace c := by
  induction cs with
  | nil => rfl
  | cons c cs ih =>
    have hconsFirst (ws : List (List Char)) : (consFirst c ws).flatten = c :: ws.flatten := by
      cases ws <;> rfl
    rw [wordsChars]
    split
    next hc => simpa [hc] using ih
    next hc =>
      rw [List.filter_cons_of_pos (by simpa using hc), ← ih]
      split
      · rfl
      · exact hconsFirst _

end Text

namespace TypeToken

variable {c : Char} {cs xs ys : List Char} {s : String} {t : TypeToken} {depth : ℕ}

/-! ## Marks inside brackets -/

/-- How many brackets are open after a character, if `depth` are open before it.  A closing one too
many is ignored. -/
def depthAfter (depth : ℕ) (c : Char) : ℕ :=
  if c = '<' then depth + 1 else if c = '>' then depth - 1 else depth

/-- Wherever a mark stands, a bracket is open; `depth` of them are from the beginning. -/
def MarksInside (depth : ℕ) (cs : List Char) : Prop :=
  ∀ before c after, cs = before ++ c :: after → c = '*' ∨ c = '&' →
    0 < before.foldl depthAfter depth

lemma marksInside_cons : MarksInside depth (c :: cs) ↔
    (c = '*' ∨ c = '&' → 0 < depth) ∧ MarksInside (depthAfter depth c) cs := by
  constructor
  · intro h
    refine ⟨h [] c cs rfl, fun before d after hcs hd => ?_⟩
    exact h (c :: before) d after (by rw [hcs, List.cons_append]) hd
  · rintro ⟨hc, h⟩ before d after hcs hd
    cases before with
    | nil =>
      obtain ⟨rfl, -⟩ := List.cons.inj hcs
      exact hc hd
    | cons b before =>
      obtain ⟨rfl, htail⟩ := List.cons.inj hcs
      exact h before d after htail hd

lemma depthAfter_of_ne (hc : c ≠ '<' ∧ c ≠ '>') : depthAfter depth c = depth := by
  rw [depthAfter, if_neg hc.1, if_neg hc.2]

/-- Marks inside brackets stay as they are. -/
lemma unmark_of_marksInside (h : MarksInside depth cs) : unmark depth cs = ⟨cs, 0, 0⟩ := by
  induction cs generalizing depth with
  | nil => rfl
  | cons c cs ih =>
    obtain ⟨hc, h⟩ := marksInside_cons.1 h
    have ih := ih h
    simp only [unmark]
    split
    next hopen => simp_all [depthAfter]
    split
    next hclose => simp_all [depthAfter]
    rw [depthAfter_of_ne ⟨‹_›, ‹_›⟩] at ih
    split
    next hmark => exact absurd hmark.2 (hc (.inl hmark.1)).ne'
    split
    next hmark => exact absurd hmark.2 (hc (.inr hmark.1)).ne'
    next => rw [ih]

lemma marksInside_unmark : MarksInside depth (unmark depth cs).chars := by
  induction cs generalizing depth with
  | nil => exact fun before c after h => by simp [unmark] at h
  | cons c cs ih =>
    simp only [unmark]
    split
    next hopen =>
      subst hopen
      exact marksInside_cons.2 ⟨by simp, ih⟩
    split
    next hclose =>
      subst hclose
      exact marksInside_cons.2 ⟨by simp, ih⟩
    split
    · exact marksInside_cons.2 ⟨by simp, ih⟩
    split
    · exact marksInside_cons.2 ⟨by simp, ih⟩
    next hopen hclose hpointer hreference =>
      refine marksInside_cons.2 ⟨?_, ?_⟩
      · rintro (rfl | rfl)
        · exact Nat.pos_of_ne_zero fun h => hpointer ⟨rfl, h⟩
        · exact Nat.pos_of_ne_zero fun h => hreference ⟨rfl, h⟩
      · rw [depthAfter_of_ne ⟨hopen, hclose⟩]
        exact ih

/-- Whether a character opens or closes a bracket or is a mark. -/
def isDelimiter (c : Char) : Bool :=
  c = '<' || c = '>' || c = '*' || c = '&'

/-- Where marks stand is a matter of marks and brackets alone. -/
theorem marksInside_filter : MarksInside depth (cs.filter isDelimiter) ↔ MarksInside depth cs := by
  induction cs generalizing depth with
  | nil => rfl
  | cons c cs ih =>
    rw [marksInside_cons]
    cases hc : isDelimiter c with
    | true => rw [List.filter_cons_of_pos hc, marksInside_cons, ih]
    | false =>
      have hother : ((c ≠ '<' ∧ c ≠ '>') ∧ c ≠ '*') ∧ c ≠ '&' := by
        simpa [isDelimiter] using hc
      rw [List.filter_cons_of_neg (by simp [hc]), ih, depthAfter_of_ne hother.1.1]
      simp [hother]

/-! ## The normal form -/

/-- A token as reading leaves it: its base is words with single blanks between them, none of them
`const`, and has no mark outside brackets. -/
structure IsNormal (t : TypeToken) : Prop where
  tight : Text.IsTight t.base.toList
  noConst : "const" ∉ Text.words t.base
  marksInside : MarksInside 0 t.base.toList

/-- The words of the base that a text spells. -/
def baseWords (s : String) : List (List Char) :=
  (Text.wordsChars (unmark 0 s.toList).chars).filter (· ≠ "const".toList)

lemma toList_base (s : String) : (parse s).base.toList = [' '].intercalate (baseWords s) := by
  have hword (w : List Char) : String.ofList w ≠ "const" ↔ w ≠ "const".toList := by
    rw [ne_eq, ← String.toList_inj, String.toList_ofList]
  simp only [parse, baseWords, String.toList_intercalate, List.filter_map, List.map_map]
  have hid : String.toList ∘ String.ofList = id := funext fun w => String.toList_ofList
  rw [hid, List.map_id]
  congr 2
  funext w
  simp only [Function.comp, hword]

lemma isWord_baseWords {w : List Char} (hw : w ∈ baseWords s) : Text.IsWord w :=
  Text.ne_nil_and_solid_of_mem_wordsChars (List.mem_of_mem_filter hw)

lemma words_base (s : String) : Text.words (parse s).base = (baseWords s).map String.ofList := by
  rw [Text.words, toList_base, Text.wordsChars_intercalate fun w hw => isWord_baseWords hw]

/-- The marks and brackets of the base are those that stay. -/
lemma filter_base (s : String) :
    (parse s).base.toList.filter isDelimiter = (unmark 0 s.toList).chars.filter isDelimiter := by
  have hdrop (ws : List (List Char)) :
      ((ws.filter (· ≠ "const".toList)).map (List.filter isDelimiter)).flatten =
        (ws.map (List.filter isDelimiter)).flatten := by
    induction ws with
    | nil => rfl
    | cons w ws ih =>
      by_cases hw : w = "const".toList
      · have hnone : "const".toList.filter isDelimiter = [] := by decide
        rw [List.filter_cons_of_neg (by simp [hw]), ih, List.map_cons, List.flatten_cons, hw, hnone,
          List.nil_append]
      · rw [List.filter_cons_of_pos (by simpa using hw), List.map_cons, List.map_cons,
          List.flatten_cons, List.flatten_cons, ih]
  have hsolid (c : Char) : (isDelimiter c && !isWhiteSpace c) = isDelimiter c := by
    cases hc : isDelimiter c with
    | false => rfl
    | true =>
      simp only [isDelimiter, Bool.or_eq_true, decide_eq_true_eq] at hc
      obtain ((rfl | rfl) | rfl) | rfl := hc <;> rfl
  rw [toList_base, filter_intercalate_singleton (by decide), baseWords, hdrop,
    ← List.filter_flatten, Text.flatten_wordsChars, List.filter_filter]
  simp only [hsolid]

lemma isNormal_parse (s : String) : (parse s).IsNormal where
  tight := by
    rw [toList_base]
    exact Text.isTight_intercalate fun w hw => isWord_baseWords hw
  noConst h := by
    rw [words_base] at h
    obtain ⟨w, hw, hconst⟩ := List.mem_map.1 h
    have hne : w ≠ "const".toList := by simpa using (List.mem_filter.1 hw).2
    exact hne (by rw [← hconst, String.toList_ofList])
  marksInside := by
    rw [← marksInside_filter, filter_base, marksInside_filter]
    exact marksInside_unmark

/-! ## Writing a token -/

/-- A token as text: its qualifiers, then its base. -/
def text (t : TypeToken) : String :=
  " ".intercalate (t.qualifiers ++ [t.base])

/-- What stands before the base, each part with a blank after it. -/
def lead (parts : List String) : List Char :=
  parts.flatMap fun q => q.toList ++ [' ']

lemma toList_text (t : TypeToken) : t.text.toList = lead t.qualifiers ++ t.base.toList := by
  have hparts (parts : List String) (last : String) :
      (" ".intercalate (parts ++ [last])).toList = lead parts ++ last.toList := by
    induction parts with
    | nil => simp [lead]
    | cons q parts ih =>
      obtain ⟨q', rest, hrest⟩ := List.exists_cons_of_ne_nil (List.append_ne_nil_of_right_ne_nil
        parts (List.cons_ne_nil last []))
      rw [hrest] at ih
      rw [List.cons_append, hrest, String.intercalate_cons_cons, String.toList_append,
        String.toList_append, ih]
      simp [lead]
  exact hparts t.qualifiers t.base

lemma count_lead (hc : c ≠ ' ') (parts : List String) :
    (lead parts).count c = (parts.map fun q => q.toList.count c).sum := by
  have hblank : [' '].count c = 0 := by simp [Ne.symm hc]
  induction parts with
  | nil => rfl
  | cons q parts ih =>
    rw [lead, List.flatMap_cons, List.count_append, List.count_append, hblank, List.map_cons,
      List.sum_cons, ← ih]
    rfl

lemma open_not_mem_lead (t : TypeToken) : '<' ∉ lead t.qualifiers := by
  have hparts : (t.qualifiers.map fun q => q.toList.count '<').sum = 0 := by
    unfold qualifiers
    cases t.isConst <;> simp
  rw [← List.count_eq_zero, count_lead (by decide), hparts]

lemma words_lead (parts : List String) :
    (Text.wordsChars ((lead parts).map unmarked ++ ys)).map String.ofList =
      parts.flatMap flatWords ++ (Text.wordsChars ys).map String.ofList := by
  induction parts with
  | nil => rfl
  | cons q parts ih =>
    have hsplit : (lead (q :: parts)).map unmarked ++ ys =
        q.toList.map unmarked ++ ' ' :: ((lead parts).map unmarked ++ ys) := by
      simp [lead, unmarked]
    rw [hsplit, Text.wordsChars_append_blank (by decide), List.map_append, ih, List.flatMap_cons,
      List.append_assoc, flatWords, Text.words, String.toList_map]

lemma IsNormal.intercalate_words (h : t.IsNormal) :
    " ".intercalate (Text.words t.base) = t.base := by
  have hid : String.toList ∘ String.ofList = id := funext fun w => String.toList_ofList
  rw [← String.toList_inj, String.toList_intercalate, Text.words, List.map_map, hid, List.map_id]
  exact h.tight.intercalate_wordsChars

theorem IsNormal.parse_text (h : t.IsNormal) : parse t.text = t := by
  have hmarks : unmark 0 t.text.toList =
      ⟨(lead t.qualifiers).map unmarked ++ t.base.toList, t.pointers, t.references⟩ := by
    rw [toList_text, unmark_append (open_not_mem_lead t), unmark_of_marksInside h.marksInside,
      count_lead (by decide), count_lead (by decide), (count_qualifiers t).1,
      (count_qualifiers t).2]
    rfl
  have hwords : (Text.wordsChars (unmark 0 t.text.toList).chars).map String.ofList =
      (if t.isConst then ["const"] else []) ++ Text.words t.base := by
    rw [hmarks, words_lead, flatWords_qualifiers, Text.words]
  have hbase : ((if t.isConst then ["const"] else []) ++ Text.words t.base).filter (· ≠ "const") =
      Text.words t.base := by
    have hkept : (Text.words t.base).filter (· ≠ "const") = Text.words t.base := by
      refine List.filter_eq_self.2 fun w hw => ?_
      simpa using fun hconst : w = "const" => h.noConst (hconst ▸ hw)
    rw [List.filter_append, hkept]
    cases t.isConst <;> simp
  have hconst : ((if t.isConst then ["const"] else []) ++ Text.words t.base).contains "const" =
      t.isConst := by
    cases t.isConst <;> simp [h.noConst]
  simp only [parse, hwords, hbase, hconst, h.intercalate_words]
  rw [hmarks]

/-- Whatever text a token is read from, it is normal and it is read from its own text; and no other
tokens are. -/
theorem parse_normal (s : String) : (parse s).IsNormal ∧ parse (parse s).text = parse s ∧
    ∀ t : TypeToken, t.IsNormal ↔ parse t.text = t := by
  refine ⟨isNormal_parse s, (isNormal_parse s).parse_text,
    fun t => ⟨IsNormal.parse_text, fun h => ?_⟩⟩
  rw [← h]
  exact isNormal_parse t.text

/-- A word `const` inside brackets counts as one of the token too, and is gone from its base. -/
example : parse "Pair<int *,  const char>\t*" = ⟨"Pair<int *, char>", true, 1, 0⟩ ∧
    text ⟨"Pair<int *, char>", true, 1, 0⟩ = "const * Pair<int *, char>" := by
  decide +kernel

end TypeToken

end Bindery
