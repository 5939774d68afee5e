import Bindery.Unicode.Class

/-!
# Cutting text

Trimming, splitting into words, and cutting at a separator.  Everything is defined on the
characters of a text by recursion along them, and the `String` forms only convert.

A word is not empty and holds no white space (`ne_nil_and_solid_of_mem_wordsChars`).  A text that is
put together around a mark may have other parts that give the same text
(`append_mark_append_eq_iff`).
-/

namespace Bindery.Text

open Bindery.Unicode

/-! ## On characters -/

/-- The characters without the white space at their front. -/
def trimStartChars (cs : List Char) : List Char :=
  cs.dropWhile isWhiteSpace

/-- The characters without the ones at their end that satisfy `p`. -/
def trimEndWhile (p : Char → Bool) (cs : List Char) : List Char :=
  (cs.reverse.dropWhile p).reverse

/-- The characters without the white space at either end. -/
def trimChars (cs : List Char) : List Char :=
  trimEndWhile isWhiteSpace (trimStartChars cs)

/-- Whether no word continues into these characters: there are none, or white space comes next. -/
def startsBlank : List Char → Bool
  | [] => true
  | c :: _ => isWhiteSpace c

/-- A character put in front of the first word. -/
def consFirst (c : Char) : List (List Char) → List (List Char)
  | [] => [[c]]
  | w :: ws => (c :: w) :: ws

/-- The maximal runs of characters that are not white space. -/
def wordsChars : List Char → List (List Char)
  | [] => []
  | c :: cs =>
    if isWhiteSpace c then wordsChars cs
    else if startsBlank cs then [c] :: wordsChars cs
    else consFirst c (wordsChars cs)

/-- What stands before and after the first occurrence of a separator. -/
def cutFirstChars (sep : List Char) : List Char → Option (List Char × List Char)
  | [] => if sep.isEmpty then some ([], []) else none
  | c :: cs =>
    if sep.isPrefixOf (c :: cs) then some ([], (c :: cs).drop sep.length)
    else (cutFirstChars sep cs).map fun (before, after) => (c :: before, after)

/-- What stands before and after the last occurrence of a separator. -/
def cutLastChars (sep : List Char) : List Char → Option (List Char × List Char)
  | [] => if sep.isEmpty then some ([], []) else none
  | c :: cs =>
    match cutLastChars sep cs with
    | some (before, after) => some (c :: before, after)
    | none =>
      if sep.isPrefixOf (c :: cs) then some ([], (c :: cs).drop sep.length) else none

/-- Whether the characters `part` occur one after the other somewhere. -/
def containsChars (part : List Char) : List Char → Bool
  | [] => part.isEmpty
  | c :: cs => part.isPrefixOf (c :: cs) || containsChars part cs

/-- Two ways to put a separator into the same characters: they are one, or what stands before one
separator goes on over it and holds the other. -/
theorem append_cons_eq_iff {sep : Char} {before after before' after' : List Char} :
    before ++ sep :: after = before' ++ sep :: after' ↔
      (before = before' ∧ after = after') ∨
      (∃ piece, before' = before ++ sep :: piece ∧ after = piece ++ sep :: after') ∨
      ∃ piece, before = before' ++ sep :: piece ∧ after' = piece ++ sep :: after := by
  constructor
  · intro h
    rcases List.append_eq_append_iff.1 h with ⟨middle, hbefore, hafter⟩ | ⟨middle, hbefore, hafter⟩
    · cases middle with
      | nil =>
        exact .inl ⟨by simpa using hbefore.symm, (List.cons.inj hafter).2⟩
      | cons c piece =>
        obtain ⟨rfl, hpiece⟩ := List.cons.inj hafter
        exact .inr (.inl ⟨piece, hbefore, hpiece⟩)
    · cases middle with
      | nil =>
        exact .inl ⟨by simpa using hbefore, (List.cons.inj hafter).2.symm⟩
      | cons c piece =>
        obtain ⟨rfl, hpiece⟩ := List.cons.inj hafter
        exact .inr (.inr ⟨piece, hbefore, hpiece⟩)
  · rintro (⟨rfl, rfl⟩ | ⟨piece, rfl, rfl⟩ | ⟨piece, rfl, rfl⟩) <;> simp

theorem append_mark_append_eq_iff {mark : String} {sep : Char} (hmark : mark.toList = [sep])
    {before after before' after' : String} :
    before ++ mark ++ after = before' ++ mark ++ after' ↔
      (before = before' ∧ after = after') ∨
      (∃ piece, before' = before ++ mark ++ piece ∧ after = piece ++ mark ++ after') ∨
      ∃ piece, before = before' ++ mark ++ piece ∧ after' = piece ++ mark ++ after := by
  have hjoined (s t : String) : (s ++ mark ++ t).toList = s.toList ++ sep :: t.toList := by
    simp [hmark]
  have hpiece {s t : String} {P : String → Prop} :
      (∃ piece : List Char, t.toList = s.toList ++ sep :: piece ∧ P (String.ofList piece)) ↔
        ∃ piece, t = s ++ mark ++ piece ∧ P piece := by
    constructor
    · rintro ⟨piece, ht, hP⟩
      exact ⟨String.ofList piece, String.toList_injective (by simpa [hmark] using ht), hP⟩
    · rintro ⟨piece, rfl, hP⟩
      exact ⟨piece.toList, hjoined s piece, by simpa using hP⟩
  rw [← String.toList_inj, hjoined, hjoined, append_cons_eq_iff, String.toList_inj,
    String.toList_inj, ← hpiece, ← hpiece]
  simp only [← String.toList_inj, hjoined, String.toList_ofList]

theorem containsChars_iff {part cs : List Char} :
    containsChars part cs = true ↔ part <:+: cs := by
  induction cs with
  | nil => simp [containsChars]
  | cons c cs ih => simp [containsChars, ih, List.infix_cons_iff, List.isPrefixOf_iff_prefix]

theorem ne_nil_and_solid_of_mem_wordsChars {cs w : List Char} (h : w ∈ wordsChars cs) :
    w ≠ [] ∧ ∀ c ∈ w, isWhiteSpace c = false := by
  induction cs generalizing w with
  | nil => simp [wordsChars] at h
  | cons c cs ih =>
    rw [wordsChars] at h
    split at h
    · exact ih h
    · rename_i solid
      have solid : isWhiteSpace c = false := by simpa using solid
      split at h
      · rcases List.mem_cons.mp h with rfl | h
        · simp [solid]
        · exact ih h
      · cases ws : wordsChars cs with
        | nil => simp_all [consFirst]
        | cons first rest =>
          rw [ws, consFirst] at h
          rcases List.mem_cons.mp h with rfl | h
          · have inner := (ih (by rw [ws]; exact List.mem_cons_self)).2
            simp_all
          · exact ih (by rw [ws]; exact List.mem_cons_of_mem _ h)

/-! ## On texts -/

/-- A text without the white space at either end. -/
def trim (s : String) : String :=
  String.ofList (trimChars s.toList)

/-- The words of a text. -/
def words (s : String) : List String :=
  (wordsChars s.toList).map String.ofList

/-- What stands before and after the first occurrence of a separator in a text. -/
def cutFirst? (sep s : String) : Option (String × String) :=
  (cutFirstChars sep.toList s.toList).map fun (before, after) =>
    (String.ofList before, String.ofList after)

/-- What stands before and after the last occurrence of a separator in a text. -/
def cutLast? (sep s : String) : Option (String × String) :=
  (cutLastChars sep.toList s.toList).map fun (before, after) =>
    (String.ofList before, String.ofList after)

/-- Whether `part` occurs in `s`.  The empty text occurs everywhere. -/
def contains (s part : String) : Bool :=
  containsChars part.toList s.toList

/-- Whether `s` begins with `start`. -/
def startsWith (s start : String) : Bool :=
  start.toList.isPrefixOf s.toList

/-- What follows `start` in a text that begins with it. -/
def after? (start s : String) : Option String :=
  if startsWith s start then some (String.ofList (s.toList.drop start.toList.length)) else none

/-- The texts one after the other, separated by a comma and a space. -/
def commaJoin (parts : List String) : String :=
  ", ".intercalate parts

/-- The texts one after the other, each ended by a line feed. -/
def lines (parts : List String) : String :=
  String.join (parts.map (· ++ "\n"))

/-- Texts in the order of code points. -/
def sorted (texts : List String) : List String :=
  texts.mergeSort fun a b => decide (a ≤ b)

end Bindery.Text
