import Mathlib.Data.List.TakeWhile
import Mathlib.Tactic.Lemma
import Bindery.Support
import Bindery.Proofs.Tokens

/-!
# Integer literals

A value needs no getter if its initializer is an integer literal.  The test for it never looks at a
literal as a whole: it takes off a sign, white space and a suffix, in this order, and then asks what
is left for its digits.  `needsGetter_eq_false_iff` says that the texts it accepts are those of a
grammar (`IsIntegerLiteral`).

Each cut finds the place that the grammar means because the parts of a literal share no characters
where they meet: no white space and no digit is a sign, a magnitude begins with a digit and ends in
one, and no digit of any base is a letter of a suffix.
-/

namespace Bindery

open Unicode

/-! ## The grammar -/

/-- Digits in one of three bases, with the mark of the base in front. -/
inductive IsMagnitude : List Char → Prop
  | hexadecimal {x : Char} {digits : List Char} (hx : x = 'x' ∨ x = 'X') (hsome : digits ≠ [])
      (hdigits : ∀ c ∈ digits, isHexDigit c = true) : IsMagnitude ('0' :: x :: digits)
  | octal {digits : List Char} (hdigits : ∀ c ∈ digits, isOctalDigit c = true) :
      IsMagnitude ('0' :: digits)
  | decimal {first : Char} {digits : List Char} (hfirst : '1' ≤ first ∧ first ≤ '9')
      (hdigits : ∀ c ∈ digits, isDecimalDigit c = true) : IsMagnitude (first :: digits)

/-- At most one sign, white space, a magnitude and the letters of a suffix. -/
inductive IsIntegerLiteral : List Char → Prop
  | of {sign blanks magnitude suffix : List Char} (hsign : sign = [] ∨ sign = ['+'] ∨ sign = ['-'])
      (hblanks : ∀ c ∈ blanks, isWhiteSpace c = true) (hmagnitude : IsMagnitude magnitude)
      (hsuffix : ∀ c ∈ suffix, c = 'u' ∨ c = 'U' ∨ c = 'l' ∨ c = 'L') :
      IsIntegerLiteral (sign ++ blanks ++ magnitude ++ suffix)

variable {c : Char} {cs digits suffix : List Char}

/-! ## Characters -/

lemma isLiteralSuffix_eq_true_iff :
    isLiteralSuffix c = true ↔ c = 'u' ∨ c = 'U' ∨ c = 'l' ∨ c = 'L' := by
  simp [isLiteralSuffix, or_assoc]

/-- No digit of any base is a letter of a suffix. -/
lemma not_isLiteralSuffix_of_isHexDigit (hc : isHexDigit c = true) : isLiteralSuffix c = false := by
  cases hsuffix : isLiteralSuffix c with
  | false => rfl
  | true =>
    rw [isLiteralSuffix_eq_true_iff] at hsuffix
    rcases hsuffix with rfl | rfl | rfl | rfl <;> revert hc <;> decide

lemma isDecimalDigit_iff : isDecimalDigit c = true ↔ 48 ≤ c.toNat ∧ c.toNat ≤ 57 := by
  simp only [isDecimalDigit, Bool.and_eq_true, decide_eq_true_eq, Char.le_def,
    UInt32.le_iff_toNat_le]
  rfl

lemma isDecimalDigit_of_isOctalDigit (hc : isOctalDigit c = true) : isDecimalDigit c = true := by
  have hseven : '7' ≤ '9' := by decide
  simp only [isOctalDigit, isDecimalDigit, Bool.and_eq_true, decide_eq_true_eq] at hc ⊢
  exact ⟨hc.1, Char.le_trans hc.2 hseven⟩

lemma isHexDigit_of_isDecimalDigit (hc : isDecimalDigit c = true) : isHexDigit c = true := by
  simp [isHexDigit, hc]

lemma isDecimalDigit_iff_eq_zero_or : isDecimalDigit c = true ↔ c = '0' ∨ '1' ≤ c ∧ c ≤ '9' := by
  have hzero : c = '0' ↔ c.toNat = 48 := Char.toNat_inj.symm
  have hone : '1' ≤ c ↔ 49 ≤ c.toNat := by
    rw [Char.le_def, UInt32.le_iff_toNat_le]
    rfl
  have hnine : c ≤ '9' ↔ c.toNat ≤ 57 := by
    rw [Char.le_def, UInt32.le_iff_toNat_le]
    rfl
  rw [isDecimalDigit_iff, hzero, hone, hnine]
  omega

lemma not_isWhiteSpace_of_isDecimalDigit (hc : isDecimalDigit c = true) :
    isWhiteSpace c = false := by
  obtain ⟨hlow, hhigh⟩ := isDecimalDigit_iff.1 hc
  have hascii : c.toNat < 0x80 := by omega
  have hblank : c ≠ ' ' := by
    rintro rfl
    revert hlow
    decide
  have hcontrol : ¬(9 ≤ c.toNat ∧ c.toNat ≤ 13) := by omega
  simpa [isWhiteSpace, hascii, hblank] using hcontrol

lemma ne_sign_of_isDecimalDigit (hc : isDecimalDigit c = true) : c ≠ '+' ∧ c ≠ '-' := by
  constructor <;> rintro rfl <;> revert hc <;> decide

lemma ne_sign_of_isWhiteSpace (hc : isWhiteSpace c = true) : c ≠ '+' ∧ c ≠ '-' := by
  constructor <;> rintro rfl <;> revert hc <;> decide

/-! ## Magnitudes -/

lemma IsMagnitude.head (h : IsMagnitude cs) : ∃ c digits, cs = c :: digits ∧
    isDecimalDigit c = true := by
  cases h with
  | hexadecimal | octal => exact ⟨_, _, rfl, by decide⟩
  | decimal hfirst => exact ⟨_, _, rfl, isDecimalDigit_iff_eq_zero_or.2 (.inr hfirst)⟩

lemma IsMagnitude.last (h : IsMagnitude cs) : ∀ c ∈ cs.getLast?, isHexDigit c = true := by
  cases h with
  | @hexadecimal x digits hx hsome hdigits =>
    intro c hc
    rw [List.getLast?_cons_of_ne_nil (List.cons_ne_nil x digits),
      List.getLast?_cons_of_ne_nil hsome] at hc
    exact hdigits c (List.mem_of_mem_getLast? hc)
  | octal hdigits =>
    intro c hc
    rcases List.mem_cons.1 (List.mem_of_mem_getLast? hc) with rfl | hc
    · decide
    · exact isHexDigit_of_isDecimalDigit (isDecimalDigit_of_isOctalDigit (hdigits c hc))
  | decimal hfirst hdigits =>
    intro c hc
    rcases List.mem_cons.1 (List.mem_of_mem_getLast? hc) with rfl | hc
    · exact isHexDigit_of_isDecimalDigit (isDecimalDigit_iff_eq_zero_or.2 (.inr hfirst))
    · exact isHexDigit_of_isDecimalDigit (hdigits c hc)

/-- The three bases are told apart by the first two characters. -/
theorem isUnsignedLiteral_eq_true_iff : isUnsignedLiteral cs = true ↔ IsMagnitude cs := by
  constructor
  · intro h
    unfold isUnsignedLiteral at h
    split at h
    next x rest =>
      split at h
      next hx =>
        simp only [Bool.and_eq_true, Bool.not_eq_true', List.isEmpty_eq_false_iff,
          List.all_eq_true] at h
        exact .hexadecimal (by simpa using hx) h.1 h.2
      next => exact .octal (List.all_eq_true.1 h)
    next hother =>
      simp only [Bool.and_eq_true, Bool.not_eq_true', List.isEmpty_eq_false_iff,
        List.all_eq_true] at h
      obtain ⟨first, digits, rfl⟩ := List.exists_cons_of_ne_nil h.1
      obtain ⟨hfirst, hdigits⟩ := List.forall_mem_cons.1 h.2
      rcases isDecimalDigit_iff_eq_zero_or.1 hfirst with rfl | hfirst
      · cases digits with
        | nil => exact .octal (by simp)
        | cons x rest => exact absurd rfl (hother x rest)
      · exact .decimal hfirst hdigits
  · intro h
    cases h with
    | hexadecimal hx hsome hdigits =>
      simpa [isUnsignedLiteral, hx, hsome] using hdigits
    | @octal digits hdigits =>
      cases digits with
      | nil => decide
      | cons x rest =>
        have hx : ¬(x = 'x' ∨ x = 'X') := by
          have hoctal : isOctalDigit x = true := hdigits x List.mem_cons_self
          rintro (rfl | rfl) <;> revert hoctal <;> decide
        simpa [isUnsignedLiteral, hx] using hdigits
    | @decimal first digits hfirst hdigits =>
      have hdecimal : isDecimalDigit first = true := isDecimalDigit_iff_eq_zero_or.2 (.inr hfirst)
      unfold isUnsignedLiteral
      split
      next hzero =>
        obtain ⟨rfl, -⟩ := List.cons.inj hzero
        exact absurd hfirst.1 (by decide)
      next => simpa [hdecimal] using hdigits

/-! ## Literals -/

lemma trimEndWhile_append {p : Char → Bool} (hlast : ∀ c ∈ cs.getLast?, p c = false)
    (hsuffix : ∀ c ∈ suffix, p c = true) : Text.trimEndWhile p (cs ++ suffix) = cs := by
  have hsuffix' : ∀ c ∈ suffix.reverse, p c = true := fun c hc => hsuffix c (List.mem_reverse.1 hc)
  rw [Text.trimEndWhile, List.reverse_append, List.dropWhile_append_of_pos hsuffix']
  have hkept : cs.reverse.dropWhile p = cs.reverse := by
    cases hcs : cs.reverse with
    | nil => rfl
    | cons c rest =>
      have hc : p c = false := hlast c (by rw [← List.head?_reverse, hcs]; rfl)
      rw [List.dropWhile_cons_of_neg (by simp [hc])]
  rw [hkept, List.reverse_reverse]

lemma exists_sign_afterSign (cs : List Char) :
    ∃ sign, (sign = [] ∨ sign = ['+'] ∨ sign = ['-']) ∧ cs = sign ++ afterSign cs := by
  unfold afterSign
  split
  · exact ⟨['-'], by simp, rfl⟩
  · exact ⟨['+'], by simp, rfl⟩
  · exact ⟨[], by simp, rfl⟩

lemma afterSign_append {sign : List Char} (hsign : sign = [] ∨ sign = ['+'] ∨ sign = ['-'])
    (hhead : ∀ c ∈ cs.head?, c ≠ '+' ∧ c ≠ '-') : afterSign (sign ++ cs) = cs := by
  rcases hsign with rfl | rfl | rfl
  · rw [List.nil_append]
    unfold afterSign
    split
    next => exact absurd rfl (hhead '-' rfl).2
    next => exact absurd rfl (hhead '+' rfl).1
    next => rfl
  · rfl
  · rfl

theorem isIntegerLiteral_eq_true_iff : isIntegerLiteral cs = true ↔ IsIntegerLiteral cs := by
  rw [isIntegerLiteral, isUnsignedLiteral_eq_true_iff]
  constructor
  · intro hmagnitude
    obtain ⟨sign, hsign, hcs⟩ := exists_sign_afterSign cs
    have hblanks : afterSign cs = (afterSign cs).takeWhile isWhiteSpace ++
        Text.trimStartChars (afterSign cs) := List.takeWhile_append_dropWhile.symm
    obtain ⟨suffix, hsuffix, hrest⟩ :=
      Text.exists_suffix_trimEndWhile isLiteralSuffix (Text.trimStartChars (afterSign cs))
    rw [hcs, hblanks, hrest, ← List.append_assoc, ← List.append_assoc]
    exact .of hsign (fun c hc => List.mem_takeWhile_imp hc) hmagnitude
      fun c hc => isLiteralSuffix_eq_true_iff.1 (hsuffix c hc)
  · rintro (@⟨sign, blanks, magnitude, suffix, hsign, hblanks, hmagnitude, hsuffix⟩)
    obtain ⟨first, digits, hfirst, hdigit⟩ := hmagnitude.head
    have hunsigned : ∀ c ∈ (blanks ++ (magnitude ++ suffix)).head?, c ≠ '+' ∧ c ≠ '-' := by
      intro c hc
      cases blanks with
      | nil =>
        obtain rfl : first = c := by simpa [hfirst] using hc
        exact ne_sign_of_isDecimalDigit hdigit
      | cons b blanks =>
        obtain rfl : b = c := by simpa using hc
        exact ne_sign_of_isWhiteSpace (hblanks b List.mem_cons_self)
    have hstart : Text.trimStartChars (blanks ++ (magnitude ++ suffix)) = magnitude ++ suffix := by
      have hsolid : isWhiteSpace first = false := not_isWhiteSpace_of_isDecimalDigit hdigit
      rw [Text.trimStartChars, List.dropWhile_append_of_pos hblanks, hfirst, List.cons_append,
        List.dropWhile_cons_of_neg (by simp [hsolid])]
    have hend : Text.trimEndWhile isLiteralSuffix (magnitude ++ suffix) = magnitude :=
      trimEndWhile_append
        (fun c hc => not_isLiteralSuffix_of_isHexDigit (hmagnitude.last c hc))
        fun c hc => isLiteralSuffix_eq_true_iff.2 (hsuffix c hc)
    rw [List.append_assoc, List.append_assoc, afterSign_append hsign hunsigned, hstart, hend]
    exact hmagnitude

/-- A value can do without a getter exactly if its initializer, without the white space around it,
is an integer literal. -/
theorem needsGetter_eq_false_iff (e : Enumerator) :
    e.needsGetter = false ↔ IsIntegerLiteral (Text.trim e.initializer).toList := by
  rw [Enumerator.needsGetter, Bool.not_eq_false', isIntegerLiteral_eq_true_iff, Text.trim,
    String.toList_ofList]

/-- White space may follow a sign but not a digit, and a leading zero makes a literal octal. -/
example : Enumerator.needsGetter ⟨"Mask", "\t- 0xFFul "⟩ = false ∧
    Enumerator.needsGetter ⟨"Mask", "0xFF ul"⟩ = true ∧
    Enumerator.needsGetter ⟨"Mask", "08"⟩ = true := by
  decide +kernel

end Bindery
