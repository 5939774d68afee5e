import Mathlib.Tactic.Lemma
import Mathlib.Data.List.Forall2
import Mathlib.Data.List.TakeDrop
import Mathlib.Data.List.TakeWhile
import Bindery.Json.Reader
import Bindery.Json.Writer

/-!
# JSON text and what it is read as

A value is a sequence of tokens, and a text spells it by spelling the tokens one after the other
with blanks between them at will (`Json.Spells`).  Whatever spells a value is read as that value
(`Json.parse?_of_spells`), and the writer spells every value that is legible: its numbers are JSON
numbers and its strings denote texts (`Json.spells_write`).

Two things keep neighbours apart.  A string ends at its quote and a word at its last letter, but a
number goes on for as long as it can, so what follows one must not be able to continue it
(`JsonToken.EndsNumber`).  The reader needs no such care: a value takes its own tokens off the
input, whatever containers wait for it (`Json.takes`).
-/

namespace Bindery

open Unicode

namespace JsonToken

variable {cs ds tail rest : List Char}

/-! ## Numbers -/

/-- No character at the front could continue a number. -/
def EndsNumber (cs : List Char) : Prop :=
  ∀ c ∈ cs.head?, isDecimalDigit c = false ∧ c ≠ '.' ∧ c ≠ 'e' ∧ c ≠ 'E'

lemma endsNumber_nil : EndsNumber [] := by
  simp [EndsNumber]

/-- What may follow a value inside a container ends a number. -/
lemma endsNumber_cons {c : Char} (hc : c ∈ [',', ']', '\x7d']) : EndsNumber (c :: cs) := by
  simp only [List.mem_cons, List.not_mem_nil, or_false] at hc
  rcases hc with rfl | rfl | rfl <;> simp [EndsNumber, isDecimalDigit]

theorem digits?_eq_some_iff :
    digits? cs = some (ds, tail) ↔
      cs = ds ++ tail ∧ ds ≠ [] ∧ (∀ c ∈ ds, isDecimalDigit c = true) ∧
        ∀ c ∈ tail.head?, isDecimalDigit c = false := by
  have hspan := List.span_eq_takeWhile_dropWhile isDecimalDigit cs
  constructor
  · intro h
    unfold digits? at h
    rw [hspan] at h
    split at h
    · cases h
    · rename_i front back hne heq
      simp only [Prod.mk.injEq] at heq
      obtain ⟨rfl, rfl⟩ := heq
      simp only [Option.some.injEq, Prod.mk.injEq] at h
      obtain ⟨rfl, rfl⟩ := h
      refine ⟨List.takeWhile_append_dropWhile.symm, hne, fun c hc => List.mem_takeWhile_imp hc,
        fun c hc => ?_⟩
      have hstop := List.head?_dropWhile_not isDecimalDigit cs
      rw [Option.mem_def.1 hc] at hstop
      simpa using hstop
  · rintro ⟨rfl, hne, hdigits, hstop⟩
    have htail : tail.takeWhile isDecimalDigit = [] := by
      cases tail with
      | nil => rfl
      | cons c tail => simp [hstop c (by simp)]
    have htake : (ds ++ tail).takeWhile isDecimalDigit = ds := by
      rw [List.takeWhile_append_of_pos hdigits, htail, List.append_nil]
    have hdrop : (ds ++ tail).dropWhile isDecimalDigit = tail := by
      have hsplit := List.takeWhile_append_dropWhile (p := isDecimalDigit) (l := ds ++ tail)
      rw [htake] at hsplit
      exact List.append_cancel_left hsplit
    unfold digits?
    rw [hspan, htake, hdrop]
    cases ds with
    | nil => exact absurd rfl hne
    | cons d ds => rfl

/-- Digits are read the same in front of anything that does not continue them. -/
lemma digits?_append (h : digits? cs = some (ds, tail)) (hend : tail = [] → EndsNumber rest) :
    digits? (cs ++ rest) = some (ds, tail ++ rest) := by
  obtain ⟨rfl, hne, hdigits, hstop⟩ := digits?_eq_some_iff.1 h
  refine digits?_eq_some_iff.2 ⟨List.append_assoc .., hne, hdigits, ?_⟩
  cases tail with
  | nil => exact fun c hc => (hend rfl c hc).1
  | cons c tail => exact hstop

lemma whole?_append (h : whole? cs = some (ds, tail)) (hend : tail = [] → EndsNumber rest) :
    whole? (cs ++ rest) = some (ds, tail ++ rest) := by
  unfold whole? at h
  split at h
  · simp only [Option.some.injEq, Prod.mk.injEq] at h
    obtain ⟨rfl, rfl⟩ := h
    rfl
  · rename_i hzero
    cases cs with
    | nil => simp [digits?, List.span_eq_takeWhile_dropWhile] at h
    | cons c cs =>
      have hc : c ≠ '0' := fun heq => hzero cs (by rw [heq])
      unfold whole?
      split
      · rename_i heq
        exact absurd (List.cons.inj heq).1 hc
      · exact digits?_append h hend

lemma fraction?_eq_nil (hdot : ∀ c ∈ cs.head?, c ≠ '.') : fraction? cs = some ([], cs) := by
  unfold fraction?
  split
  · exact absurd rfl (hdot '.' (by simp))
  · rfl

lemma fraction?_append (h : fraction? cs = some (ds, tail)) (hend : tail = [] → EndsNumber rest) :
    fraction? (cs ++ rest) = some (ds, tail ++ rest) := by
  unfold fraction? at h
  split at h
  · obtain ⟨⟨ds', tail'⟩, hdigits, heq⟩ := Option.map_eq_some_iff.1 h
    simp only [Prod.mk.injEq] at heq
    obtain ⟨rfl, rfl⟩ := heq
    simp [fraction?, digits?_append hdigits hend]
  · rename_i hdot
    simp only [Option.some.injEq, Prod.mk.injEq] at h
    obtain ⟨rfl, rfl⟩ := h
    refine fraction?_eq_nil fun c hc => ?_
    cases cs with
    | nil => exact (hend rfl c hc).2.1
    | cons d cs =>
      obtain rfl : d = c := by simpa using hc
      exact fun heq => hdot cs (by rw [heq])

lemma exponent?_eq_nil (he : ∀ c ∈ cs.head?, c ≠ 'e' ∧ c ≠ 'E') :
    exponent? cs = some ([], cs) := by
  cases cs with
  | nil => rfl
  | cons c cs => simp [exponent?, he c (by simp)]

lemma exponent?_append (h : exponent? cs = some (ds, tail)) (hend : tail = [] → EndsNumber rest) :
    exponent? (cs ++ rest) = some (ds, tail ++ rest) := by
  cases cs with
  | nil =>
    simp only [exponent?, Option.some.injEq, Prod.mk.injEq] at h
    obtain ⟨rfl, rfl⟩ := h
    exact exponent?_eq_nil fun c hc => (hend rfl c hc).2.2
  | cons e cs =>
    simp only [exponent?] at h
    split_ifs at h with he
    · cases cs with
      | nil => cases h
      | cons sign cs =>
        simp only [List.cons_append, exponent?, if_pos he]
        simp only at h
        split_ifs at h ⊢ with hsign
        · obtain ⟨⟨ds', tail'⟩, hdigits, heq⟩ := Option.map_eq_some_iff.1 h
          simp only [Prod.mk.injEq] at heq
          obtain ⟨rfl, rfl⟩ := heq
          rw [digits?_append hdigits hend]
          rfl
        · obtain ⟨⟨ds', tail'⟩, hdigits, heq⟩ := Option.map_eq_some_iff.1 h
          simp only [Prod.mk.injEq] at heq
          obtain ⟨rfl, rfl⟩ := heq
          rw [← List.cons_append, digits?_append hdigits hend]
          rfl
    · simp only [Option.some.injEq, Prod.mk.injEq] at h
      obtain ⟨rfl, rfl⟩ := h
      simp [exponent?, he]

/-- A number taken apart into its sign and the rest. -/
def Signed (cs sign unsigned : List Char) : Prop :=
  cs = sign ++ unsigned ∧ (sign = ['-'] ∨ sign = [] ∧ unsigned.head? ≠ some '-')

lemma exists_signed (cs : List Char) : ∃ sign unsigned, Signed cs sign unsigned := by
  by_cases h : cs.head? = some '-'
  · obtain ⟨unsigned, rfl⟩ := List.head?_eq_some_iff.1 h
    exact ⟨['-'], unsigned, rfl, .inl rfl⟩
  · exact ⟨[], cs, rfl, .inr ⟨rfl, h⟩⟩

lemma Signed.append {sign unsigned : List Char} (h : Signed cs sign unsigned)
    (hne : unsigned ≠ []) (rest : List Char) : Signed (cs ++ rest) sign (unsigned ++ rest) := by
  obtain ⟨rfl, hsign⟩ := h
  refine ⟨List.append_assoc .., hsign.imp_right fun ⟨hnil, hhead⟩ => ⟨hnil, ?_⟩⟩
  cases unsigned with
  | nil => exact absurd rfl hne
  | cons c unsigned => exact hhead

lemma number?_of_signed {sign unsigned : List Char} (h : Signed cs sign unsigned) :
    number? cs =
      (whole? unsigned).bind fun (whole, cs) => (fraction? cs).bind fun (fraction, cs) =>
        (exponent? cs).bind fun (exponent, cs) =>
          some (String.ofList (sign ++ whole ++ fraction ++ exponent), cs) := by
  obtain ⟨rfl, rfl | ⟨rfl, hhead⟩⟩ := h
  · rfl
  · unfold number?
    split
    rename_i heq
    split at heq
    · rename_i hminus
      rw [List.nil_append] at hminus
      exact absurd (by rw [hminus]; rfl) hhead
    · cases heq
      rfl

theorem number?_append {spelling : String} (h : number? cs = some (spelling, []))
    (hend : EndsNumber rest) : number? (cs ++ rest) = some (spelling, rest) := by
  obtain ⟨sign, unsigned, hsigned⟩ := exists_signed cs
  rw [number?_of_signed hsigned] at h
  simp only [Option.bind_eq_some_iff, Prod.exists, Option.some.injEq, Prod.mk.injEq] at h
  obtain ⟨whole, cs₁, hwhole, fraction, cs₂, hfraction, exponent, cs₃, hexponent, rfl, rfl⟩ := h
  have hne : unsigned ≠ [] := by
    rintro rfl
    cases hwhole
  simp [number?_of_signed (hsigned.append hne rest), whole?_append hwhole fun _ => hend,
    fraction?_append hfraction fun _ => hend, exponent?_append hexponent fun _ => hend]

/-! ## Strings -/

lemma string?_plain {s : StringState} {c : Char} (hquote : c ≠ '"') (hbackslash : c ≠ '\\')
    (hcontrol : ¬c.toNat < 0x20) : string? s (c :: rest) = string? (s.push c) rest := by
  rw [string?]
  · simp [hcontrol, hbackslash]
  all_goals grind

theorem string?_append {s : StringState} {text : Option String}
    (h : string? s cs = some (text, tail)) :
    string? s (cs ++ rest) = some (text, tail ++ rest) := by
  fun_induction string? s cs with
  | case1 => cases h
  | case2 s back =>
    simp only [Option.some.injEq, Prod.mk.injEq] at h
    obtain ⟨rfl, rfl⟩ := h
    rfl
  | case3 s a b c d back hhex ih =>
    simp only [List.cons_append, string?, if_pos hhex]
    exact ih h
  | case4 => cases h
  | case5 s e back hunit c hshort ih =>
    rw [List.cons_append, List.cons_append, string?]
    · rw [hshort]
      exact ih h
    · -- no short escape is a `u`, so what follows cannot make it one of four digits
      rintro a b c d back' rfl -
      cases hshort
  | case6 => cases h
  | case7 => cases h
  | case8 s c back hquote hunit hshort hplain ih =>
    simp only [Bool.or_eq_true, decide_eq_true_eq, not_or] at hplain
    rw [List.cons_append, string?_plain hquote hplain.2 hplain.1]
    exact ih h

/-- Four hexadecimal digits are enough for a control character. -/
lemma hexValue_hexDigit : ∀ n < 0x20,
    isHexDigit (Json.hexDigit (n / 16)) = true ∧ isHexDigit (Json.hexDigit (n % 16)) = true ∧
      hexValue ['0', '0', Json.hexDigit (n / 16), Json.hexDigit (n % 16)] = n := by
  decide

/-- A character as the writer spells it is read as that character. -/
lemma string?_escapedChar {s : StringState} (hhalf : s.half = none) (c : Char) :
    string? s (Json.escapedChar c ++ rest) = string? (s.push c) rest := by
  unfold Json.escapedChar
  split
  case h_6 =>
    rename_i hquote hbackslash hn hr ht
    split_ifs with hcontrol
    · obtain ⟨hhigh, hlow, hvalue⟩ := hexValue_hexDigit _ hcontrol
      have hzero : isHexDigit '0' = true := by decide
      have hsmall : isHighSurrogate c.toNat = false ∧ isLowSurrogate c.toNat = false := by
        simp [isHighSurrogate, isLowSurrogate]
        omega
      simp [string?, hzero, hhigh, hlow, hvalue, StringState.pushUnit, hhalf, hsmall,
        Char.ofNat_toNat]
    · exact string?_plain hquote hbackslash hcontrol
  all_goals simp [string?, shortEscape?]

lemma string?_escaped (before text : List Char) :
    string? ⟨some before, none⟩ (text.flatMap Json.escapedChar ++ ['"']) =
      some (some (String.ofList (before.reverse ++ text)), []) := by
  induction text generalizing before with
  | nil => simp [string?, StringState.text]
  | cons c text ih =>
    rw [List.flatMap_cons, List.append_assoc, string?_escapedChar rfl]
    simpa [StringState.push, extend] using ih (c :: before)

/-! ## Layout -/

/-- A number is a JSON number and a string denotes a text. -/
def Legible : JsonToken → Prop
  | .number spelling => number? spelling.toList = some (spelling, [])
  | .string text => text.isSome = true
  | _ => True

/-- The characters that spell a token.  Numbers and strings are spelled by what is read as just
them. -/
inductive Spells : JsonToken → List Char → Prop
  | openArray : Spells .openArray ['[']
  | closeArray : Spells .closeArray [']']
  | openObject : Spells .openObject ['\x7b']
  | closeObject : Spells .closeObject ['\x7d']
  | comma : Spells .comma [',']
  | colon : Spells .colon [':']
  | null : Spells .null ['n', 'u', 'l', 'l']
  | true : Spells (.bool true) ['t', 'r', 'u', 'e']
  | false : Spells (.bool false) ['f', 'a', 'l', 's', 'e']
  | number {spelling : String} (h : number? spelling.toList = some (spelling, [])) :
      Spells (.number spelling) spelling.toList
  | string {text : Option String} {cs : List Char}
      (h : string? ⟨some [], none⟩ cs = some (text, [])) : Spells (.string text) ('"' :: cs)

lemma spells_writeText (text : String) :
    Spells (.string (some text)) (Json.writeText text).toList := by
  have hbody := Spells.string (string?_escaped [] text.toList)
  simpa [Json.writeText] using hbody

/-- Tokens one after the other, with blanks at will.  What stands behind a number must not continue
it. -/
inductive Laid : List JsonToken → List Char → Prop
  | nil : Laid [] []
  | blank {tokens : List JsonToken} {c : Char} {cs : List Char} (hc : isBlank c = true)
      (h : Laid tokens cs) : Laid tokens (c :: cs)
  | token {token : JsonToken} {tokens : List JsonToken} {word cs : List Char}
      (hword : Spells token word) (hend : ∀ spelling, token = .number spelling → EndsNumber cs)
      (h : Laid tokens cs) : Laid (token :: tokens) (word ++ cs)

lemma eq_minus_or_digit_of_number? {c : Char} {spelling : String}
    (h : number? (c :: cs) = some (spelling, tail)) : c = '-' ∨ isDecimalDigit c = true := by
  by_cases hminus : c = '-'
  · exact .inl hminus
  · have hsigned : Signed (c :: cs) [] (c :: cs) := ⟨rfl, .inr ⟨rfl, by simp [hminus]⟩⟩
    rw [number?_of_signed hsigned] at h
    obtain ⟨⟨ds, tail'⟩, hwhole, -⟩ := Option.bind_eq_some_iff.1 h
    unfold whole? at hwhole
    split at hwhole
    · rename_i hzero
      rw [(List.cons.inj hzero).1]
      exact .inr (by decide)
    · obtain ⟨hsplit, hne, hdigits, -⟩ := digits?_eq_some_iff.1 hwhole
      cases ds with
      | nil => exact absurd rfl hne
      | cons d ds =>
        obtain rfl := (List.cons.inj hsplit).1
        exact .inr (hdigits c List.mem_cons_self)

lemma next?_of_number? {c : Char} {spelling : String}
    (h : number? (c :: cs) = some (spelling, tail)) :
    isBlank c = false ∧ next? c cs = some (.number spelling, tail) := by
  have hc := eq_minus_or_digit_of_number? h
  constructor
  · by_contra hblank
    simp only [isBlank, Bool.not_eq_false, Bool.or_eq_true, decide_eq_true_eq] at hblank
    rcases hblank with ((rfl | rfl) | rfl) | rfl <;> exact absurd hc (by decide)
  · unfold next?
    split <;> first | exact absurd hc (by decide) | rw [h]; rfl

/-- A spelled token is the next one, and it takes exactly its own characters. -/
lemma next?_of_spells {token : JsonToken} {word : List Char} (hword : Spells token word)
    (hend : ∀ spelling, token = .number spelling → EndsNumber rest) :
    ∃ c back, word = c :: back ∧ isBlank c = false ∧
      next? c (back ++ rest) = some (token, rest) := by
  cases hword with
  | number h =>
    rename_i spelling
    have happend := number?_append h (hend _ rfl)
    cases hword : spelling.toList with
    | nil =>
      rw [hword] at h
      cases h
    | cons c back =>
      rw [hword] at happend
      obtain ⟨hblank, hnext⟩ := next?_of_number? happend
      exact ⟨c, back, rfl, hblank, hnext⟩
  | string h => exact ⟨_, _, rfl, rfl, by simp [next?, string?_append h]⟩
  | _ => exact ⟨_, _, rfl, rfl, by simp [next?, afterWord?, List.isPrefixOf]⟩

lemma scanFrom_of_laid {found tokens : List JsonToken} {fuel : Nat} (h : Laid tokens cs)
    (hfuel : cs.length ≤ fuel) : scanFrom found fuel cs = some (found.reverse ++ tokens) := by
  -- every step of the layout takes a character, so the fuel lasts
  induction h generalizing found fuel with
  | nil => simp [scanFrom]
  | blank hc h ih =>
    cases fuel with
    | zero => simp at hfuel
    | succ fuel =>
      rw [scanFrom, if_pos hc]
      exact ih (Nat.le_of_succ_le_succ hfuel)
  | @token token tokens word cs hword hend h ih =>
    obtain ⟨c, back, rfl, hblank, hnext⟩ := next?_of_spells hword hend
    cases fuel with
    | zero => simp at hfuel
    | succ fuel =>
      have hlength : cs.length ≤ fuel := by
        simp only [List.length_append, List.length_cons] at hfuel
        omega
      rw [List.cons_append, scanFrom, hblank, if_neg Bool.false_ne_true, hnext]
      have hrest : scanFrom (token :: found) fuel cs = some ((token :: found).reverse ++ tokens) :=
        ih hlength
      simpa using hrest

/-- However its tokens are laid out, a text is cut into them. -/
theorem scan_of_laid {tokens : List JsonToken} (h : Laid tokens cs) : scan cs = some tokens :=
  scanFrom_of_laid h le_rfl

end JsonToken

namespace Json

/-- Whatever passes from the parts of a JSON value to the value holds of all JSON values. -/
@[elab_as_elim]
theorem induct {motive : Json → Prop} (null : motive .null) (bool : ∀ b, motive (.bool b))
    (number : ∀ spelling, motive (.number spelling)) (string : ∀ text, motive (.string text))
    (array : ∀ items, (∀ v ∈ items, motive v) → motive (.array items))
    (object : ∀ members, (∀ m ∈ members, motive m.2) → motive (.object members)) (v : Json) :
    motive v :=
  @Json.rec motive (fun items => ∀ v ∈ items, motive v) (fun members => ∀ m ∈ members, motive m.2)
    (fun m => motive m.2) null bool number string array object
    (List.forall_mem_nil _) (fun _ _ hv hrest => List.forall_mem_cons.2 ⟨hv, hrest⟩)
    (List.forall_mem_nil _) (fun _ _ hm hrest => List.forall_mem_cons.2 ⟨hm, hrest⟩)
    (fun _ _ hv => hv) v

/-! ## The tokens of a value -/

mutual

/-- The tokens that spell a value. -/
def tokens : Json → List JsonToken
  | .null => [.null]
  | .bool b => [.bool b]
  | .number spelling => [.number spelling]
  | .string text => [.string text]
  | .array items => .openArray :: ([.comma].intercalate (itemTokens items) ++ [.closeArray])
  | .object members =>
    .openObject :: ([.comma].intercalate (memberTokens members) ++ [.closeObject])

/-- The tokens of each item of an array. -/
def itemTokens : List Json → List (List JsonToken)
  | [] => []
  | v :: rest => tokens v :: itemTokens rest

/-- The tokens of each member of an object. -/
def memberTokens : List (Option String × Json) → List (List JsonToken)
  | [] => []
  | (key, v) :: rest => (.string key :: .colon :: tokens v) :: memberTokens rest

end

lemma itemTokens_eq_map (items : List Json) : itemTokens items = items.map tokens := by
  induction items with
  | nil => rfl
  | cons v items ih => rw [itemTokens, ih, List.map_cons]

lemma memberTokens_eq_map (members : List (Option String × Json)) :
    memberTokens members = members.map fun (key, v) => .string key :: .colon :: v.tokens := by
  induction members with
  | nil => rfl
  | cons m members ih => rw [memberTokens, ih, List.map_cons]

/-- A text that consists of the tokens of a value, with blanks between them at will. -/
def Spells (v : Json) (text : String) : Prop :=
  JsonToken.Laid v.tokens text.toList

/-! ## From tokens to the value -/

/-- The value that a container waits for is read from these tokens, whatever waits for it. -/
def Takes (v : Json) : Prop :=
  ∀ stack, v.tokens.foldlM ReadState.step ⟨.value, stack⟩ = some (.completed v stack)

lemma foldlM_itemTokens (stack : List Waiting) {v : Json} {items : List Json} (hv : v.Takes)
    (hitems : ∀ w ∈ items, w.Takes) (before : List Json) :
    ([.comma].intercalate (itemTokens (v :: items))).foldlM ReadState.step
        ⟨.value, .array before :: stack⟩ =
      some ⟨.afterItem ((v :: items).reverse ++ before), stack⟩ := by
  induction items generalizing v before with
  | nil => simp [itemTokens, hv (.array before :: stack), ReadState.completed]
  | cons w items ih =>
    obtain ⟨hw, hitems⟩ := List.forall_mem_cons.1 hitems
    have hrest := ih hw hitems (v :: before)
    rw [itemTokens] at hrest ⊢
    rw [itemTokens, List.intercalate_cons_cons, List.append_assoc, List.foldlM_append, hv]
    simpa [ReadState.completed, ReadState.step] using hrest

lemma foldlM_memberTokens (stack : List Waiting) {m : Option String × Json}
    {members : List (Option String × Json)} (hm : m.2.Takes) (hmembers : ∀ m ∈ members, m.2.Takes)
    (before : List (Option String × Json)) :
    ([.comma].intercalate (memberTokens (m :: members))).foldlM ReadState.step
        ⟨.nextKey before, stack⟩ =
      some ⟨.afterMember ((m :: members).reverse ++ before), stack⟩ := by
  induction members generalizing m before with
  | nil =>
    simp [memberTokens, ReadState.step, hm (.object before m.1 :: stack), ReadState.completed]
  | cons m' members ih =>
    obtain ⟨hm', hmembers⟩ := List.forall_mem_cons.1 hmembers
    have hrest := ih hm' hmembers (m :: before)
    rw [memberTokens] at hrest ⊢
    rw [memberTokens, List.intercalate_cons_cons, List.append_assoc]
    simpa [ReadState.step, hm (.object before m.1 :: stack), ReadState.completed] using hrest

lemma intercalate_cons (sep piece : List JsonToken) (pieces : List (List JsonToken)) :
    ∃ rest, sep.intercalate (piece :: pieces) = piece ++ rest := by
  cases pieces with
  | nil => exact ⟨[], by simp⟩
  | cons piece' pieces => exact ⟨_, by rw [List.intercalate_cons_cons, List.append_assoc]⟩

/-- The first item of an array begins like any other. -/
lemma foldlM_firstItem (stack : List Waiting) {v : Json} {items : List Json} (hv : v.Takes)
    (hitems : ∀ w ∈ items, w.Takes) :
    ([.comma].intercalate (itemTokens (v :: items))).foldlM ReadState.step ⟨.firstItem, stack⟩ =
      some ⟨.afterItem (v :: items).reverse, stack⟩ := by
  have hbegin : ∀ rest : List JsonToken,
      (v.tokens ++ rest).foldlM ReadState.step ⟨.firstItem, stack⟩ =
        (v.tokens ++ rest).foldlM ReadState.step ⟨.value, .array [] :: stack⟩ := by
    intro rest
    cases v <;> rfl
  have hread := foldlM_itemTokens stack hv hitems []
  rw [itemTokens] at hread ⊢
  obtain ⟨rest, hrest⟩ := intercalate_cons [.comma] v.tokens (itemTokens items)
  rw [hrest] at hread ⊢
  rw [hbegin, hread, List.append_nil]

lemma foldlM_firstKey (stack : List Waiting) {m : Option String × Json}
    {members : List (Option String × Json)} (hm : m.2.Takes)
    (hmembers : ∀ m ∈ members, m.2.Takes) :
    ([.comma].intercalate (memberTokens (m :: members))).foldlM ReadState.step
        ⟨.firstKey, stack⟩ =
      some ⟨.afterMember (m :: members).reverse, stack⟩ := by
  have hread := foldlM_memberTokens stack hm hmembers []
  rw [memberTokens] at hread ⊢
  obtain ⟨rest, hrest⟩ := intercalate_cons [.comma] (.string m.1 :: .colon :: m.2.tokens)
    (memberTokens members)
  rw [List.append_nil, hrest] at hread
  rw [hrest]
  exact hread

/-- A value takes its tokens off the input, whatever containers wait for it. -/
theorem takes (v : Json) : v.Takes := by
  induction v using induct with
  | null | bool | number | string => exact fun _ => rfl
  | array items ih =>
    intro stack
    cases items with
    | nil => rfl
    | cons v items =>
      obtain ⟨hv, hitems⟩ := List.forall_mem_cons.1 ih
      simp [tokens, ReadState.step, ReadState.begun, foldlM_firstItem stack hv hitems]
  | object members ih =>
    intro stack
    cases members with
    | nil => rfl
    | cons m members =>
      obtain ⟨hm, hmembers⟩ := List.forall_mem_cons.1 ih
      simp [tokens, ReadState.step, ReadState.begun, foldlM_firstKey stack hm hmembers]

theorem ofTokens?_tokens (v : Json) : ofTokens? v.tokens = some v := by
  rw [ofTokens?, v.takes]
  rfl

/-- A text is read as the value it spells, however its tokens are laid out. -/
theorem parse?_of_spells {v : Json} {text : String} (h : v.Spells text) :
    parse? text = some v := by
  rw [parse?, JsonToken.scan_of_laid h, Option.bind_some, ofTokens?_tokens]

/-! ## From the value to its text -/

/-- Every number of the value is a JSON number and every string denotes a text. -/
def Legible (v : Json) : Prop :=
  ∀ token ∈ v.tokens, token.Legible

lemma forall_mem_intercalate {P : JsonToken → Prop} {sep : JsonToken} (hsep : P sep)
    (pieces : List (List JsonToken)) :
    (∀ token ∈ [sep].intercalate pieces, P token) ↔
      ∀ piece ∈ pieces, ∀ token ∈ piece, P token := by
  induction pieces with
  | nil => simp
  | cons piece pieces ih =>
    cases pieces with
    | nil => simp
    | cons piece' pieces =>
      rw [List.intercalate_cons_cons, List.append_assoc, List.forall_mem_append,
        List.forall_mem_append, ih, List.forall_mem_cons]
      simp [hsep]

@[simp]
lemma legible_null : Legible .null := by
  simp [Legible, tokens, JsonToken.Legible]

@[simp]
lemma legible_bool (b : Bool) : Legible (.bool b) := by
  simp [Legible, tokens, JsonToken.Legible]

@[simp]
lemma legible_number_iff {spelling : String} :
    Legible (.number spelling) ↔ JsonToken.number? spelling.toList = some (spelling, []) := by
  simp [Legible, tokens, JsonToken.Legible]

@[simp]
lemma legible_string_iff {text : Option String} : Legible (.string text) ↔ text.isSome = true := by
  simp [Legible, tokens, JsonToken.Legible]

@[simp]
lemma legible_array_iff {items : List Json} :
    Legible (.array items) ↔ ∀ v ∈ items, v.Legible := by
  simp only [Legible, tokens, List.forall_mem_cons, List.forall_mem_append]
  rw [forall_mem_intercalate (by trivial), itemTokens_eq_map]
  simp [JsonToken.Legible]

@[simp]
lemma legible_object_iff {members : List (Option String × Json)} :
    Legible (.object members) ↔ ∀ m ∈ members, m.1.isSome = true ∧ m.2.Legible := by
  simp only [Legible, tokens, List.forall_mem_cons, List.forall_mem_append]
  rw [forall_mem_intercalate (by trivial), memberTokens_eq_map, List.forall_mem_map]
  simp [JsonToken.Legible]

/-- A number above zero does not begin with a zero. -/
lemma head?_toDigits_ne_zero {n : Nat} (h : 0 < n) : (Nat.toDigits 10 n).head? ≠ some '0' := by
  induction n using Nat.strongRecOn with
  | ind n ih =>
    by_cases hsmall : n < 10
    · rw [Nat.toDigits_of_lt_base hsmall]
      have hdigit : ∀ d < 10, 0 < d → d.digitChar ≠ '0' := by decide
      simpa using hdigit n hsmall h
    · rw [Nat.toDigits_of_base_le (by decide) (Nat.le_of_not_lt hsmall)]
      have hhead := ih (n / 10) (Nat.div_lt_self h (by decide)) (Nat.div_pos (by omega) (by decide))
      cases hdigits : Nat.toDigits 10 (n / 10) with
      | nil => exact absurd hdigits Nat.toDigits_ne_nil
      | cons d ds => simpa [hdigits] using hhead

@[simp]
theorem legible_nat (n : Nat) : Legible (.nat n) := by
  have hdigits : ∀ c ∈ Nat.toDigits 10 n, isDecimalDigit c = true := by
    intro c hc
    have hdigit := Nat.isDigit_of_mem_toDigits (by decide) (by decide) hc
    simpa [Char.isDigit, isDecimalDigit, Char.le_def] using hdigit
  have hwhole : JsonToken.whole? (Nat.toDigits 10 n) = some (Nat.toDigits 10 n, []) := by
    rcases Nat.eq_zero_or_pos n with rfl | hpos
    · decide
    · have hread := JsonToken.digits?_eq_some_iff.2
        ⟨(List.append_nil _).symm, Nat.toDigits_ne_nil, hdigits, by simp⟩
      unfold JsonToken.whole?
      split
      · rename_i hzero
        exact absurd (by rw [hzero]; rfl) (head?_toDigits_ne_zero hpos)
      · exact hread
  have hsigned : JsonToken.Signed (Nat.toDigits 10 n) [] (Nat.toDigits 10 n) := by
    refine ⟨rfl, .inr ⟨rfl, fun hminus => ?_⟩⟩
    exact absurd (hdigits _ (List.mem_of_head? hminus)) (by decide)
  rw [nat, legible_number_iff, Nat.toString_eq_repr, Nat.toList_repr,
    JsonToken.number?_of_signed hsigned, hwhole]
  simp [JsonToken.fraction?, JsonToken.exponent?, Nat.repr]

/-- These characters spell the tokens in front of anything that does not continue a number. -/
def Lays (tokens : List JsonToken) (cs : List Char) : Prop :=
  ∀ after rest, JsonToken.EndsNumber rest → JsonToken.Laid after rest →
    JsonToken.Laid (tokens ++ after) (cs ++ rest)

lemma lays_of_spells {token : JsonToken} {word : List Char} (h : JsonToken.Spells token word) :
    Lays [token] word :=
  fun _ _ hend hrest => .token h (fun _ _ => hend) hrest

lemma lays_intercalate {pieces : List (List JsonToken)} {words : List (List Char)}
    (h : List.Forall₂ Lays pieces words) :
    Lays ([.comma].intercalate pieces) ([','].intercalate words) := by
  induction h with
  | nil => exact fun _ _ _ hrest => hrest
  | @cons piece word pieces words hpiece hpieces ih =>
    intro after rest hend hrest
    cases hpieces with
    | nil => simpa using hpiece after rest hend hrest
    | cons hpiece' hpieces' =>
      rw [List.intercalate_cons_cons, List.intercalate_cons_cons, List.append_assoc,
        List.append_assoc, List.append_assoc, List.append_assoc]
      refine hpiece _ _ (JsonToken.endsNumber_cons (by simp)) ?_
      exact .token .comma (by simp) (ih after rest hend hrest)

lemma writeItems_eq_map (items : List Json) : writeItems items = items.map write := by
  induction items with
  | nil => rfl
  | cons v items ih => rw [writeItems, ih, List.map_cons]

lemma writeMembers_eq_map (members : List (Option String × Json)) :
    writeMembers members = members.map fun (key, v) => writeString key ++ ":" ++ write v := by
  induction members with
  | nil => rfl
  | cons m members ih => rw [writeMembers, ih, List.map_cons]

lemma lays_write {v : Json} (h : v.Legible) : Lays v.tokens (write v).toList := by
  induction v using induct with
  | null => exact lays_of_spells .null
  | bool b => cases b with
    | true => exact lays_of_spells .true
    | false => exact lays_of_spells .false
  | number spelling => exact lays_of_spells (.number (legible_number_iff.1 h))
  | string text =>
    obtain ⟨text, rfl⟩ := Option.isSome_iff_exists.1 (legible_string_iff.1 h)
    exact lays_of_spells (JsonToken.spells_writeText text)
  | array items ih =>
    have hitems : Lays ([.comma].intercalate (itemTokens items))
        ([','].intercalate ((writeItems items).map String.toList)) := by
      refine lays_intercalate ?_
      rw [itemTokens_eq_map, writeItems_eq_map, List.map_map, List.forall₂_map_left_iff,
        List.forall₂_map_right_iff, List.forall₂_same]
      exact fun v hv => ih v hv (legible_array_iff.1 h v hv)
    intro after rest hend hrest
    have hclose : JsonToken.Laid (.closeArray :: after) (']' :: rest) :=
      .token .closeArray (by simp) hrest
    have hbody := hitems _ _ (JsonToken.endsNumber_cons (by simp)) hclose
    have hopen := JsonToken.Laid.token .openArray (by simp) hbody
    simpa [write, tokens] using hopen
  | object members ih =>
    have hmembers : Lays ([.comma].intercalate (memberTokens members))
        ([','].intercalate ((writeMembers members).map String.toList)) := by
      refine lays_intercalate ?_
      rw [memberTokens_eq_map, writeMembers_eq_map, List.map_map, List.forall₂_map_left_iff,
        List.forall₂_map_right_iff, List.forall₂_same]
      rintro ⟨key, v⟩ hm
      obtain ⟨hkey, hv⟩ := legible_object_iff.1 h _ hm
      obtain ⟨key, rfl⟩ := Option.isSome_iff_exists.1 hkey
      intro after rest hend hrest
      have hvalue := ih _ hm hv after rest hend hrest
      have hcolon := JsonToken.Laid.token .colon (by simp) hvalue
      have hword := JsonToken.Laid.token (JsonToken.spells_writeText key) (by simp) hcolon
      simpa [writeString] using hword
    intro after rest hend hrest
    have hclose : JsonToken.Laid (.closeObject :: after) ('\x7d' :: rest) :=
      .token .closeObject (by simp) hrest
    have hbody := hmembers _ _ (JsonToken.endsNumber_cons (by simp)) hclose
    have hopen := JsonToken.Laid.token .openObject (by simp) hbody
    simpa [write, tokens] using hopen

theorem spells_write {v : Json} (h : v.Legible) : v.Spells (write v) := by
  simpa [Spells] using lays_write h [] [] JsonToken.endsNumber_nil .nil

end Json

end Bindery
