import Mathlib.Data.List.DropRight
import Mathlib.Tactic.Lemma
import Bindery.Proofs.NormalTokens
import Bindery.Proofs.Sample
import Bindery.Proofs.Subclasses

/-!
# Constness

A signature is a parameter list in parentheses and the qualifiers after it.  A member that is to
override the method has to be const-qualified exactly if the method is; otherwise it overrides
nothing.

Signatures can be read in one way only (`HasQualifiers.unique`), because the parentheses inside the
list and inside the condition of a `noexcept` match.  `Method.isConst` does not read them: it looks
for the word `const` after the last closing parenthesis.  This parenthesis ends the parameter list
if no condition follows; otherwise it ends the last condition, and only the qualifiers behind that
are seen (`HasQualifiers.isConst_iff`).

`constness_kept_iff` says how far that goes: the method and its trampolines are const-qualified as
it was declared exactly if a `const` that it has stands behind every condition.
-/

namespace Bindery

open Unicode

namespace Text

variable {c : Char} {cs ds : List Char}

/-! ## What stands last -/

theorem map_snd_cutLastChars (c : Char) (cs : List Char) : (cutLastChars [c] cs).map Prod.snd =
    if c ∈ cs then some (cs.rtakeWhile (· ≠ c)) else none := by
  induction cs with
  | nil => simp [cutLastChars]
  | cons d cs ih =>
    by_cases hmem : c ∈ cs
    · have hlater : (d :: cs).rtakeWhile (· ≠ c) = cs.rtakeWhile (· ≠ c) :=
        rtakeWhile_append_of_mem [d] hmem (by simp)
      rw [if_pos hmem] at ih
      obtain ⟨⟨before, after⟩, hcut, hafter⟩ := Option.map_eq_some_iff.1 ih
      rw [cutLastChars, hcut, if_pos (List.mem_cons_of_mem d hmem), hlater, ← hafter]
      rfl
    · rw [if_neg hmem, Option.map_eq_none_iff] at ih
      rw [cutLastChars, ih]
      by_cases hd : c = d
      · subst hd
        have hrest : (c :: cs).rtakeWhile (· ≠ c) = cs :=
          (rtakeWhile_append_cons [] (by simp)).trans (rtakeWhile_ne_of_not_mem hmem)
        rw [if_pos List.mem_cons_self, hrest]
        simp
      · have hnone : c ∉ d :: cs := by simp [hd, hmem]
        simp [hd, hnone]

lemma wordsChars_append_of_startsBlank (h : startsBlank ds = true) :
    wordsChars (cs ++ ds) = wordsChars cs ++ wordsChars ds := by
  cases ds with
  | nil => simp [wordsChars]
  | cons d ds =>
    have hd : isWhiteSpace d = true := h
    rw [wordsChars_append_blank hd, wordsChars, if_pos hd]

/-! ## Matching parentheses -/

/-- Whether the parentheses of a text match when so many are open in front of it: none is closed
that is not open, and none is left open. -/
def closesAll : ℕ → List Char → Bool
  | depth, [] => depth == 0
  | depth, c :: cs =>
    if c = '(' then closesAll (depth + 1) cs
    else if c = ')' then depth != 0 && closesAll (depth - 1) cs
    else closesAll depth cs

/-- A closing parenthesis behind a text whose parentheses match closes none of them. -/
lemma not_closesAll_append_close {depth : ℕ} (h : closesAll depth cs = true) :
    closesAll depth (cs ++ ')' :: ds) = false := by
  induction cs generalizing depth with
  | nil =>
    obtain rfl : depth = 0 := by simpa [closesAll] using h
    simp [closesAll]
  | cons c cs ih =>
    rw [closesAll] at h
    rw [List.cons_append, closesAll]
    split at h
    · exact (if_pos ‹_›).trans (ih h)
    split at h
    · rw [Bool.and_eq_true] at h
      rw [if_neg ‹_›, if_pos ‹_›, ih h.2, Bool.and_false]
    · rw [if_neg ‹_›, if_neg ‹_›, ih h]

end Text

/-- A text whose parentheses match. -/
structure Balanced where
  chars : List Char
  closes : Text.closesAll 0 chars = true

namespace Balanced

lemma eq_of_append_close {a b : Balanced} {xs ys : List Char}
    (h : a.chars ++ ')' :: xs = b.chars ++ ')' :: ys) : a = b ∧ xs = ys := by
  rcases Text.append_cons_eq_iff.1 h with ⟨hchars, hrest⟩ | ⟨piece, hb, -⟩ | ⟨piece, ha, -⟩
  · cases a
    cases b
    exact ⟨by simpa using hchars, hrest⟩
  · have hopen : Text.closesAll 0 b.chars = false := hb ▸ Text.not_closesAll_append_close a.closes
    rw [b.closes] at hopen
    cases hopen
  · have hopen : Text.closesAll 0 a.chars = false := ha ▸ Text.not_closesAll_append_close b.closes
    rw [a.closes] at hopen
    cases hopen

end Balanced

/-! ## Qualifiers -/

/-- What can stand behind the parameter list of a member function. -/
inductive Qualifier
  | const
  | volatile
  | lvalue
  | rvalue
  | override
  | final
  | noexcept
  /-- `noexcept` under a condition. -/
  | noexceptIf (condition : Balanced)
  | pure

namespace Qualifier

variable {q q' : Qualifier} {qs qs' : List Qualifier} {cs xs ys : List Char}

/-- What a qualifier begins with. -/
def keyword : Qualifier → String
  | const => "const"
  | volatile => "volatile"
  | lvalue => "&"
  | rvalue => "&&"
  | override => "override"
  | final => "final"
  | noexcept | noexceptIf _ => "noexcept"
  | pure => "="

/-- What stands behind that. -/
def tail : Qualifier → List Char
  | noexceptIf condition => '(' :: (condition.chars ++ [')'])
  | pure => [' ', '0']
  | _ => []

/-- A qualifier as it is written. -/
def chars (q : Qualifier) : List Char :=
  q.keyword.toList ++ q.tail

/-- Whether a qualifier has a condition. -/
def isConditional : Qualifier → Bool
  | noexceptIf _ => true
  | _ => false

/-- No keyword holds a blank or a parenthesis. -/
lemma keyword_solid (q : Qualifier) :
    ∀ c ∈ q.keyword.toList, isWhiteSpace c = false ∧ c ≠ '(' ∧ c ≠ ')' := by
  have hall : q.keyword.toList.all (fun c => !isWhiteSpace c && (c != '(' && c != ')')) = true := by
    cases q <;> (rw [keyword]; decide)
  simpa using hall

lemma exists_chars_eq_cons (q : Qualifier) :
    ∃ c cs, q.chars = c :: cs ∧ isWhiteSpace c = false := by
  have hsome : q.keyword.toList ≠ [] := by cases q <;> simp [keyword]
  obtain ⟨c, cs, hkeyword⟩ := List.exists_cons_of_ne_nil hsome
  refine ⟨c, cs ++ q.tail, by rw [chars, hkeyword, List.cons_append], ?_⟩
  exact (keyword_solid q c (hkeyword ▸ List.mem_cons_self)).1

/-- A keyword ends before the first blank or opening parenthesis. -/
lemma takeWhile_chars (hxs : Text.startsBlank xs = true) :
    (q.chars ++ xs).takeWhile (fun c => !isWhiteSpace c && c != '(') = q.keyword.toList := by
  have hkeyword : ∀ c ∈ q.keyword.toList, (!isWhiteSpace c && c != '(') = true := fun c hc => by
    simp [(keyword_solid q c hc).1, (keyword_solid q c hc).2.1]
  have htail : (q.tail ++ xs).takeWhile (fun c => !isWhiteSpace c && c != '(') = [] := by
    cases q with
    | noexceptIf => simp [tail]
    | pure => simp [tail, show isWhiteSpace ' ' = true by decide]
    | _ =>
      cases xs with
      | nil => rfl
      | cons x xs =>
        have hx : isWhiteSpace x = true := hxs
        simp [tail, hx]
  rw [chars, List.append_assoc, List.takeWhile_append_of_pos hkeyword, htail, List.append_nil]

/-- A qualifier that ends the text, or that a blank follows, is read in one way. -/
lemma eq_of_append (hxs : Text.startsBlank xs = true) (hys : Text.startsBlank ys = true)
    (h : q.chars ++ xs = q'.chars ++ ys) : q = q' ∧ xs = ys := by
  have hkeyword : q.keyword = q'.keyword := by
    rw [← String.toList_inj, ← takeWhile_chars hxs, h, takeWhile_chars hys]
  have htail : q.tail ++ xs = q'.tail ++ ys := by
    simpa [chars, hkeyword] using h
  have hopen (cs : List Char) : Text.startsBlank ('(' :: cs) = false :=
    (by decide : isWhiteSpace '(' = false)
  -- qualifiers of one keyword are the same, unless they begin with `noexcept`
  cases q <;> cases q' <;> simp only [keyword, String.reduceEq] at hkeyword
  case noexcept.noexceptIf =>
    rw [show xs = _ from htail] at hxs
    cases (hopen _).symm.trans hxs
  case noexceptIf.noexcept =>
    rw [← show _ = ys from htail] at hys
    cases (hopen _).symm.trans hys
  case noexceptIf.noexceptIf a b =>
    have hclosed : a.chars ++ ')' :: xs = b.chars ++ ')' :: ys := by simpa [tail] using htail
    obtain ⟨rfl, hrest⟩ := Balanced.eq_of_append_close hclosed
    exact ⟨rfl, hrest⟩
  all_goals exact ⟨rfl, by simpa [tail] using htail⟩

lemma close_mem_chars_iff : ')' ∈ q.chars ↔ q.isConditional = true := by
  have hkeyword : ')' ∉ q.keyword.toList := fun h => (keyword_solid q _ h).2.2 rfl
  cases q <;> simp [chars, hkeyword, tail, isConditional]

/-- A condition is closed at the end. -/
lemma exists_chars_eq_append (q : Qualifier) (h : q.isConditional = true) :
    ∃ front, q.chars = front ++ [')'] := by
  cases q with
  | noexceptIf condition =>
    exact ⟨"noexcept".toList ++ '(' :: condition.chars, by simp [chars, keyword, tail]⟩
  | _ => cases h

lemma const_mem_words_iff (hplain : q.isConditional = false) :
    "const".toList ∈ Text.wordsChars q.chars ↔ q = const := by
  cases q with
  | noexceptIf => cases hplain
  | const => exact iff_of_true (by decide) rfl
  | _ => exact iff_of_false (by decide) (by simp)

end Qualifier

/-! ## Signatures -/

/-- Text that spells qualifiers one after the other, with blanks between them. -/
inductive Spells : List Qualifier → List Char → Prop
  | done {cs : List Char} (hcs : ∀ c ∈ cs, isWhiteSpace c = true) : Spells [] cs
  | next {q : Qualifier} {qs : List Qualifier} {blanks rest : List Char}
      (hblanks : ∀ c ∈ blanks, isWhiteSpace c = true) (hrest : Text.startsBlank rest = true)
      (h : Spells qs rest) : Spells (q :: qs) (blanks ++ (q.chars ++ rest))

namespace Spells

variable {q : Qualifier} {qs qs' : List Qualifier} {cs : List Char}

lemma nil : Spells [] [] :=
  .done fun _ hc => absurd hc List.not_mem_nil

lemma after_blank {rest : List Char} (hrest : Text.startsBlank rest = true) (h : Spells qs rest) :
    Spells (q :: qs) (' ' :: (q.chars ++ rest)) :=
  @next q qs [' '] rest (List.forall_mem_singleton.2 (by decide)) hrest h

lemma dropWhile_next {blanks rest : List Char} (hblanks : ∀ c ∈ blanks, isWhiteSpace c = true) :
    (blanks ++ (q.chars ++ rest)).dropWhile isWhiteSpace = q.chars ++ rest := by
  obtain ⟨c, cs, hchars, hc⟩ := q.exists_chars_eq_cons
  rw [List.dropWhile_append_of_pos hblanks, hchars, List.cons_append,
    List.dropWhile_cons_of_neg (by simp [hc])]

/-- A text spells qualifiers in one way. -/
theorem unique (h : Spells qs cs) (h' : Spells qs' cs) : qs = qs' := by
  induction h generalizing qs' with
  | @done cs hcs =>
    have hnone : cs.dropWhile isWhiteSpace = [] := List.dropWhile_eq_nil_iff.2 hcs
    cases h' with
    | done => rfl
    | @next q' qs' blanks rest hblanks =>
      obtain ⟨c, cs, hchars, -⟩ := q'.exists_chars_eq_cons
      rw [dropWhile_next hblanks, hchars] at hnone
      cases hnone
  | @next q qs blanks rest hblanks hrest h ih =>
    have hrest' : (blanks ++ (q.chars ++ rest)).dropWhile isWhiteSpace = q.chars ++ rest :=
      dropWhile_next hblanks
    generalize hcs : blanks ++ (q.chars ++ rest) = cs at h' hrest'
    cases h' with
    | done hnone =>
      obtain ⟨c, cs, hchars, -⟩ := q.exists_chars_eq_cons
      rw [List.dropWhile_eq_nil_iff.2 hnone, hchars] at hrest'
      cases hrest'
    | @next q' qs' blanks' rest' hblanks' hrest'' h' =>
      rw [dropWhile_next hblanks'] at hrest'
      obtain ⟨rfl, rfl⟩ := Qualifier.eq_of_append hrest'' hrest hrest'
      rw [ih h']

/-- The text holds a closing parenthesis exactly if a qualifier has a condition. -/
lemma close_mem_iff (h : Spells qs cs) : ')' ∈ cs ↔ ∃ q ∈ qs, q.isConditional = true := by
  have hblank {ws : List Char} (hws : ∀ c ∈ ws, isWhiteSpace c = true) : ')' ∉ ws := fun hmem =>
    absurd (hws _ hmem) (by decide)
  induction h with
  | done hcs => simp [hblank hcs]
  | next hblanks _ _ ih => simp [hblank hblanks, Qualifier.close_mem_chars_iff, ih]

lemma whole_of_plain (h : Spells qs cs) (hplain : ∀ q ∈ qs, q.isConditional = false) :
    qs.rtakeWhile (!·.isConditional) = qs ∧ cs.rtakeWhile (· ≠ ')') = cs := by
  have hopen : ')' ∉ cs := fun hclose => by
    obtain ⟨q, hq, hcondition⟩ := h.close_mem_iff.1 hclose
    rw [hplain q hq] at hcondition
    cases hcondition
  exact ⟨List.rtakeWhile_eq_self_iff.2 fun q hq => by simp [hplain q hq],
    rtakeWhile_ne_of_not_mem hopen⟩

/-- What stands behind the last closing parenthesis spells the qualifiers behind the last
condition. -/
theorem behind_last (h : Spells qs cs) :
    Spells (qs.rtakeWhile (!·.isConditional)) (cs.rtakeWhile (· ≠ ')')) := by
  induction h with
  | done hcs => exact .done fun c hc => hcs c ((List.rtakeWhile_suffix _ _).subset hc)
  | @next q qs blanks rest hblanks hrest h ih =>
    have hwhole : Spells (q :: qs) (blanks ++ (q.chars ++ rest)) := .next hblanks hrest h
    -- the last parenthesis belongs to the last condition, here or further on
    by_cases hlater : ∃ q ∈ qs, q.isConditional = true
    · have hclose : ')' ∈ rest := h.close_mem_iff.2 hlater
      obtain ⟨q', hq', hcondition⟩ := hlater
      rw [← List.singleton_append, rtakeWhile_append_of_mem _ hq' (by simp [hcondition]),
        ← List.append_assoc, rtakeWhile_append_of_mem _ hclose (by simp)]
      exact ih
    have hplain : ∀ q ∈ qs, q.isConditional = false := by simpa using hlater
    cases hq : q.isConditional with
    | false =>
      obtain ⟨hqs, hcs⟩ := hwhole.whole_of_plain (List.forall_mem_cons.2 ⟨hq, hplain⟩)
      rw [hqs, hcs]
      exact hwhole
    | true =>
      obtain ⟨hqs, hcs⟩ := h.whole_of_plain hplain
      obtain ⟨front, hfront⟩ := q.exists_chars_eq_append hq
      have hsplit : blanks ++ (q.chars ++ rest) = (blanks ++ front) ++ ')' :: rest := by
        simp [hfront]
      rw [← List.nil_append (q :: qs), rtakeWhile_append_cons _ (by simp [hq]), hqs, hsplit,
        rtakeWhile_append_cons _ (by simp), hcs]
      exact h

lemma const_mem_words_iff (h : Spells qs cs) (hplain : ∀ q ∈ qs, q.isConditional = false) :
    "const".toList ∈ Text.wordsChars cs ↔ .const ∈ qs := by
  induction h with
  | @done cs hcs =>
    have hnone : Text.wordsChars (cs ++ []) = [] := Text.wordsChars_blanks_append hcs
    rw [List.append_nil] at hnone
    simp [hnone]
  | @next q qs blanks rest hblanks hrest h ih =>
    obtain ⟨hq, hqs⟩ := List.forall_mem_cons.1 hplain
    rw [Text.wordsChars_blanks_append hblanks, Text.wordsChars_append_of_startsBlank hrest,
      List.mem_append, Qualifier.const_mem_words_iff hq, ih hqs, List.mem_cons, eq_comm]

end Spells

namespace Method

variable {m : Method} {qs qs' : List Qualifier}

/-- A method's signature is a parameter list in parentheses, and then the qualifiers. -/
def HasQualifiers (m : Method) (qs : List Qualifier) : Prop :=
  ∃ (parameters : Balanced) (cs : List Char),
    m.signature.toList = '(' :: (parameters.chars ++ ')' :: cs) ∧ Spells qs cs

/-- Whether a method is const-qualified. -/
def IsConstQualified (m : Method) : Prop :=
  ∃ qs, m.HasQualifiers qs ∧ .const ∈ qs

theorem HasQualifiers.unique (h : m.HasQualifiers qs) (h' : m.HasQualifiers qs') : qs = qs' := by
  obtain ⟨parameters, cs, hsignature, hspells⟩ := h
  obtain ⟨parameters', cs', hsignature', hspells'⟩ := h'
  obtain ⟨-, rfl⟩ := Balanced.eq_of_append_close
    (List.cons.inj (hsignature.symm.trans hsignature')).2
  exact hspells.unique hspells'

lemma HasQualifiers.isConstQualified_iff (h : m.HasQualifiers qs) :
    m.IsConstQualified ↔ .const ∈ qs :=
  ⟨fun ⟨_, h', hconst⟩ => h'.unique h ▸ hconst, fun hconst => ⟨qs, h, hconst⟩⟩

lemma isConst_iff_of_close {front back : List Char}
    (h : m.signature.toList = front ++ ')' :: back) :
    m.isConst = true ↔ "const".toList ∈ Text.wordsChars (back.rtakeWhile (· ≠ ')')) := by
  have hcut : (Text.cutLastChars [')'] m.signature.toList).map Prod.snd =
      some (back.rtakeWhile (· ≠ ')')) := by
    rw [Text.map_snd_cutLastChars, if_pos (by simp [h]), h,
      rtakeWhile_append_cons _ (by simp)]
  obtain ⟨⟨before, after⟩, hcut, hafter⟩ := Option.map_eq_some_iff.1 hcut
  have hlast :
      Text.cutLast? ")" m.signature = some (String.ofList before, String.ofList after) := by
    rw [Text.cutLast?, show ")".toList = [')'] from rfl, hcut]
    rfl
  rw [isConst, hlast, ← show after = _ from hafter]
  simp [Text.words, ← String.toList_inj]

/-- A method is taken for const-qualified exactly if the word is among the qualifiers behind the
last condition. -/
theorem HasQualifiers.isConst_iff (h : m.HasQualifiers qs) :
    m.isConst = true ↔ .const ∈ qs.rtakeWhile (!·.isConditional) := by
  obtain ⟨parameters, cs, hsignature, hspells⟩ := h
  have hsplit : m.signature.toList = ('(' :: parameters.chars) ++ ')' :: cs := hsignature
  rw [isConst_iff_of_close hsplit]
  refine hspells.behind_last.const_mem_words_iff fun q hq => ?_
  simpa using List.mem_rtakeWhile_imp hq

end Method

/-! ## Trampolines -/

namespace Trampoline

variable {t : Trampoline} {stringClass : String}

/-- The member is const-qualified where the implementation defines it. -/
def IsDeclaredConst (stringClass : String) (t : Trampoline) : Prop :=
  ∃ front, t.text stringClass =
    front ++ ") const \x7b " ++ t.statement stringClass ++ " \x7d"

/-- The member takes the constness off the object that it passes. -/
def CastsTo (subclass : String) (t : Trampoline) : Prop :=
  ∃ rest, t.call = t.callback ++ "(const_cast<" ++ subclass ++ "*>(this), " ++ rest

lemma isDeclaredConst_iff : t.IsDeclaredConst stringClass ↔ t.isConst = true := by
  have htext : ∃ front, t.text stringClass = front ++ ")" ++
      (if t.isConst then " const" else "") ++ (" \x7b " ++ t.statement stringClass ++ " \x7d") :=
    ⟨"\t" ++ (if t.output.isVoid then "void" else t.outputType) ++ " " ++ t.member ++ "(" ++
      Text.commaJoin (t.parameters.map Declared.nativeText), by
        simp only [text, String.append_assoc]⟩
  obtain ⟨front, hfront⟩ := htext
  rw [IsDeclaredConst, hfront]
  cases t.isConst with
  | true =>
    refine iff_of_true ⟨front, ?_⟩ rfl
    rw [← String.toList_inj]
    simp
  | false =>
    refine iff_of_false ?_ Bool.false_ne_true
    rintro ⟨front', hsame⟩
    have hchars :
        (front.toList ++ [')']) ++ (" \x7b " ++ t.statement stringClass ++ " \x7d").toList =
          (front'.toList ++ ") const".toList) ++
            (" \x7b " ++ t.statement stringClass ++ " \x7d").toList := by
      simpa using congrArg String.toList hsame
    have hlast := congrArg List.getLast? (List.append_cancel_right hchars)
    simp at hlast

lemma castsTo_iff : t.CastsTo t.subclass ↔ t.isConst = true := by
  have hcall : ∃ rest, t.call = t.callback ++ "(" ++ t.object ++ ", " ++ rest :=
    ⟨Text.commaJoin (("\"" ++ t.view.name ++ "\"") ::
      t.arguments.map fun a => a.kind.nativeToCallback a.name) ++ ")", by
        simp only [call, Text.commaJoin, String.intercalate_cons_cons, String.append_assoc]⟩
  obtain ⟨rest, hrest⟩ := hcall
  rw [CastsTo, hrest, object]
  cases t.isConst with
  | true =>
    refine iff_of_true ⟨rest, ?_⟩ rfl
    rw [← String.toList_inj]
    simp
  | false =>
    refine iff_of_false ?_ Bool.false_ne_true
    rintro ⟨rest', hsame⟩
    have hchars := congrArg String.toList hsame
    simp at hchars

end Trampoline

/-- A `const` stands behind every condition, if there is one at all. -/
def Qualifier.ConstLast (qs : List Qualifier) : Prop :=
  .const ∈ qs → .const ∈ qs.rtakeWhile (!·.isConditional)

namespace Context

variable {ctx : Context} {module : String} {a : Artifacts} {s : Subclass} {t : Trampoline}

lemma subclass_of_mem_trampolines (ha : ctx.generate module = .ok a)
    (hs : s ∈ a.implementation.subclasses) (ht : t ∈ s.trampolines) : t.subclass = s.name := by
  obtain ⟨c, -, hsubclass, -, hok⟩ := isTrampoline_of_mem_subclasses ha hs ht
  obtain ⟨-, -, -, -, hname, -⟩ := trampoline_eq_ok_iff.1 hok
  rw [hname, name_of_subclass? hsubclass]

/-- A method is taken for what it is exactly if a `const` that it has stands behind every condition.
The same decides whether its trampolines in a generated subclass are const-qualified as it is, and
whether they cast the object that they pass as they have to. -/
theorem constness_kept_iff {m : Method} {qs : List Qualifier} (hm : m.HasQualifiers qs) :
    ((m.isConst = true ↔ m.IsConstQualified) ↔ Qualifier.ConstLast qs) ∧
      ∀ {ctx : Context} {module : String} {a : Artifacts}, ctx.generate module = .ok a →
        ∀ s ∈ a.implementation.subclasses, ∀ t ∈ s.trampolines, t.view.method = m →
          ((t.IsDeclaredConst ctx.stringClass ↔ m.IsConstQualified) ↔ Qualifier.ConstLast qs) ∧
            ((t.CastsTo s.name ↔ m.IsConstQualified) ↔ Qualifier.ConstLast qs) := by
  have hseen : (m.isConst = true ↔ m.IsConstQualified) ↔ Qualifier.ConstLast qs := by
    have hbehind : .const ∈ qs.rtakeWhile (!·.isConditional) → .const ∈ qs := fun h =>
      (List.rtakeWhile_suffix _ _).subset h
    rw [hm.isConst_iff, hm.isConstQualified_iff]
    exact ⟨fun h => h.2, fun h => ⟨hbehind, h⟩⟩
  refine ⟨hseen, fun ha s hs t ht hmethod => ?_⟩
  have hconst : t.isConst = m.isConst := congrArg Method.isConst hmethod
  rw [← subclass_of_mem_trampolines ha hs ht, Trampoline.isDeclaredConst_iff,
    Trampoline.castsTo_iff, hconst]
  exact ⟨hseen, hseen⟩

end Context

/-! ## A qualifier before and behind a condition -/

/-- The condition of `noexcept(true)`. -/
def Sample.condition : Balanced where
  chars := "true".toList
  closes := by decide

/-- A virtual method without parameters, and the text behind its parameter list. -/
def Sample.paint (qualifiers : String) : Method where
  name := "paint"
  fullName := "QWidget::paint"
  signature := "()" ++ qualifiers
  dispatch := .impure
  output := "void"

/-- A class that declares it. -/
def Sample.painted (qualifiers : String) : Context where
  registry := {
    classes := [
      { name := "QWidget", module := "QtWidgets", methods := [Sample.paint qualifiers] }]
    distinct := by simp }
  config := {}

lemma Sample.hasQualifiers_const_last :
    (Sample.paint " noexcept(true) const").HasQualifiers [.noexceptIf Sample.condition, .const] :=
  ⟨⟨[], rfl⟩, " noexcept(true) const".toList, rfl, .after_blank rfl (.after_blank rfl .nil)⟩

lemma Sample.hasQualifiers_const_first :
    (Sample.paint " const noexcept(true)").HasQualifiers [.const, .noexceptIf Sample.condition] :=
  ⟨⟨[], rfl⟩, " const noexcept(true)".toList, rfl, .after_blank rfl (.after_blank rfl .nil)⟩

/-- A `const` behind a condition is seen. -/
theorem constness_kept_sample :
    (Sample.paint " noexcept(true) const").IsConstQualified ∧
      (Sample.paint " noexcept(true) const").isConst = true ∧
      ∃ a, (Sample.painted " noexcept(true) const").generate "QtWidgets" = .ok a ∧
        ∃ s ∈ a.implementation.subclasses, ∃ t ∈ s.trampolines,
          t.view.method = Sample.paint " noexcept(true) const" ∧
            t.IsDeclaredConst "QString" ∧ t.CastsTo s.name := by
  have hgenerated : ((Sample.painted " noexcept(true) const").generate "QtWidgets").toOption.any
      (fun a => decide (∃ s ∈ a.implementation.subclasses, ∃ t ∈ s.trampolines,
        t.view.method = Sample.paint " noexcept(true) const")) = true := by
    decide +kernel
  have hm := Sample.hasQualifiers_const_last
  have hconst : (Sample.paint " noexcept(true) const").IsConstQualified :=
    ⟨_, hm, by simp⟩
  have hlast : Qualifier.ConstLast [.noexceptIf Sample.condition, .const] := fun _ => by
    simp [List.rtakeWhile, Qualifier.isConditional]
  obtain ⟨a, ha, hgenerated⟩ := any_toOption_iff.1 hgenerated
  obtain ⟨s, hs, t, ht, hmethod⟩ := of_decide_eq_true hgenerated
  obtain ⟨hmethodConst, htrampolines⟩ := Context.constness_kept_iff hm
  obtain ⟨hdeclared, hcast⟩ := htrampolines ha s hs t ht hmethod
  exact ⟨hconst, (hmethodConst.2 hlast).2 hconst, a, ha, s, hs, t, ht, hmethod,
    (hdeclared.2 hlast).2 hconst, (hcast.2 hlast).2 hconst⟩

/-- A `const` before a condition is not: the member that is to override the method is not
const-qualified, and passes the object as it is. -/
theorem constness_lost :
    (Sample.paint " const noexcept(true)").IsConstQualified ∧
      (Sample.paint " const noexcept(true)").isConst = false ∧
      ∃ a, (Sample.painted " const noexcept(true)").generate "QtWidgets" = .ok a ∧
        ∃ s ∈ a.implementation.subclasses, ∃ t ∈ s.trampolines,
          t.view.method = Sample.paint " const noexcept(true)" ∧
            t.text "QString" = "\tvoid paint() \x7b callbackQWidgetPaint(this, \"paint\"); \x7d" ∧
            ¬t.IsDeclaredConst "QString" ∧ ¬t.CastsTo s.name := by
  have hgenerated : ((Sample.painted " const noexcept(true)").generate "QtWidgets").toOption.any
      (fun a => decide (∃ s ∈ a.implementation.subclasses, ∃ t ∈ s.trampolines,
        t.view.method = Sample.paint " const noexcept(true)" ∧ t.isConst = false ∧
          t.subclass = s.name ∧ t.text "QString" =
            "\tvoid paint() \x7b callbackQWidgetPaint(this, \"paint\"); \x7d")) = true := by
    decide +kernel
  obtain ⟨a, ha, hgenerated⟩ := any_toOption_iff.1 hgenerated
  obtain ⟨s, hs, t, ht, hmethod, hplain, hsubclass, htext⟩ := of_decide_eq_true hgenerated
  refine ⟨⟨_, Sample.hasQualifiers_const_first, by simp⟩, by decide +kernel, a, ha, s, hs, t, ht,
    hmethod, htext, ?_, ?_⟩
  · rw [Trampoline.isDeclaredConst_iff, hplain]
    exact Bool.false_ne_true
  · rw [← hsubclass, Trampoline.castsTo_iff, hplain]
    exact Bool.false_ne_true

end Bindery
