import Mathlib.Data.List.TakeWhile
import Mathlib.Tactic
import SyntaxCheck.Proofs.JsonGrammar

/-!
# Reading JSON

A reader of the grammar that goes through a text once. What it reads is what the grammar says, so a
text is a document for one value at most.
-/

namespace SyntaxCheck.Proofs

/-- What a reader takes from the front of a text, and what it leaves. -/
abbrev Taking (α : Type) := List Char → Option (α × List Char)

/-! ### The reader -/

def skipJsonBlanks (t : List Char) : List Char :=
  t.dropWhile isJsonBlank

def readUnit? : Taking Nat := fun t =>
  (codeUnit? (t.take 4)).map fun n => (n, t.drop 4)

/-- The code units after `\u`: one, or two that stand for a character together. -/
def readUnicode? : Taking Char := fun t =>
  (readUnit? t).bind fun p =>
    if isSurrogate p.1 then
      if p.1 < 0xDC00 ∧ p.2.take 2 = ['\\', 'u'] then
        (readUnit? (p.2.drop 2)).bind fun q =>
          if 0xDC00 ≤ q.1 ∧ q.1 < 0xE000 then some (ofSurrogates p.1 q.1, q.2) else none
      else none
    else some (Char.ofNat p.1, p.2)

def readEscaped? : Taking Char
  | [] => none
  | letter :: rest =>
    if letter = 'u' then readUnicode? rest
    else (shortEscapes.lookup letter).map fun c => (c, rest)

def readChar? : Taking Char
  | [] => none
  | c :: rest =>
    if c = '\\' then readEscaped? rest
    else if c = '"' ∨ c.toNat < 0x20 then none
    else some (c, rest)

/-- The characters before the quote that ends a string. -/
def readChars? : Nat → Taking (List Char)
  | 0, _ => none
  | n + 1, t =>
    if t.head? = some '"' then some ([], t.tail)
    else (readChar? t).bind fun p => (readChars? n p.2).map fun q => (p.1 :: q.1, q.2)

def readString? (n : Nat) : Taking String := fun t =>
  if t.head? = some '"' then (readChars? n t.tail).map fun p => (String.ofList p.1, p.2) else none

def readNumber? : Taking Nat := fun t =>
  let digits := t.takeWhile Char.isDigit
  if digits = [] ∨ (digits.head? = some '0' ∧ digits ≠ ['0']) then none
  else some (Nat.ofDigitChars 10 digits 0, t.dropWhile Char.isDigit)

def jsonNames : List (String × JsonValue) :=
  [("null", .null), ("true", .boolean true), ("false", .boolean false)]

def readName? : Taking JsonValue := fun t =>
  jsonNames.findSome? fun p =>
    if p.1.toList.isPrefixOf t then some (p.2, t.drop p.1.toList.length) else none

section Items

variable {α : Type}

/-- Items that come after a first one, and the bracket that closes them. -/
def readMore? (close : Char) (item : Taking α) : Nat → Taking (List α)
  | 0, _ => none
  | n + 1, t =>
    if (skipJsonBlanks t).head? = some close then some ([], (skipJsonBlanks t).tail)
    else if (skipJsonBlanks t).head? = some ',' then
      (item (skipJsonBlanks (skipJsonBlanks t).tail)).bind fun p =>
        (readMore? close item n p.2).map fun q => (p.1 :: q.1, q.2)
    else none

/-- Items and the bracket that closes them. -/
def readItems? (close : Char) (item : Taking α) (n : Nat) : Taking (List α) := fun t =>
  if (skipJsonBlanks t).head? = some close then some ([], (skipJsonBlanks t).tail)
  else
    (item (skipJsonBlanks t)).bind fun p =>
      (readMore? close item n p.2).map fun q => (p.1 :: q.1, q.2)

end Items

def readMember? (value : Taking JsonValue) (n : Nat) : Taking (String × JsonValue) := fun t =>
  (readString? n t).bind fun p =>
    if (skipJsonBlanks p.2).head? = some ':' then
      (value (skipJsonBlanks (skipJsonBlanks p.2).tail)).map fun q => ((p.1, q.1), q.2)
    else none

/-- A value at the front of a text. There is fuel enough for every value that is no longer than the
fuel. -/
def readValue? : Nat → Taking JsonValue
  | 0, _ => none
  | n + 1, t =>
    if t.head? = some '"' then (readString? n t).map fun p => (.string p.1, p.2)
    else if t.head? = some '[' then
      (readItems? ']' (readValue? n) n t.tail).map fun p => (.array p.1, p.2)
    else if t.head? = some '\x7b' then
      (readItems? '\x7d' (readMember? (readValue? n) n) n t.tail).map fun p => (.object p.1, p.2)
    else ((readNumber? t).map fun p => (.number p.1, p.2)).or (readName? t)

/-- The value of a text that is one document. -/
def readDocument? (t : List Char) : Option JsonValue :=
  (readValue? (t.length + 1) (skipJsonBlanks t)).bind fun p =>
    if skipJsonBlanks p.2 = [] then some p.1 else none

/-! ### Blanks -/

lemma skipJsonBlanks_blanks {b : List Char} (hb : JsonBlanks b) (s : List Char) :
    skipJsonBlanks (b ++ s) = skipJsonBlanks s :=
  List.dropWhile_append_of_pos hb

lemma skipJsonBlanks_eq_nil {b : List Char} (hb : JsonBlanks b) : skipJsonBlanks b = [] :=
  List.dropWhile_eq_nil_iff.mpr hb

lemma skipJsonBlanks_cons {c : Char} (hc : isJsonBlank c = false) (s : List Char) :
    skipJsonBlanks (c :: s) = c :: s :=
  List.dropWhile_cons_of_neg (by simp [hc])

/-- What is skipped is blank. -/
lemma exists_blanks (t : List Char) : ∃ b, JsonBlanks b ∧ t = b ++ skipJsonBlanks t :=
  ⟨t.takeWhile isJsonBlank, fun _ hc => List.mem_takeWhile_imp hc,
    List.takeWhile_append_dropWhile.symm⟩

lemma exists_blanks_head {t : List Char} {c : Char} (h : (skipJsonBlanks t).head? = some c) :
    ∃ b, JsonBlanks b ∧ t = b ++ c :: (skipJsonBlanks t).tail := by
  obtain ⟨b, hb, ht⟩ := exists_blanks t
  refine ⟨b, hb, ?_⟩
  rw [List.cons_head?_tail h]
  exact ht

/-! ### What is read is what the grammar says -/

/-- The reader takes nothing but texts of what it gives. -/
def Sound {α : Type} (reader : Taking α) (Spells : List Char → α → Prop) : Prop :=
  ∀ t x s, reader t = some (x, s) → ∃ w, Spells w x ∧ t = w ++ s

/-- Whatever is made of what is taken, the rest of the text is left. -/
lemma exists_taken {α β : Type} {f : α → β} {taken : Option (α × List Char)} {y : β}
    {s : List Char} (h : (taken.map fun p => (f p.1, p.2)) = some (y, s)) :
    ∃ x, taken = some (x, s) ∧ f x = y := by
  obtain ⟨⟨x, s'⟩, htaken, hpair⟩ := Option.map_eq_some_iff.mp h
  obtain ⟨hy, rfl⟩ := Prod.mk.inj hpair
  exact ⟨x, htaken, hy⟩

lemma readUnit_sound : Sound readUnit? fun w n => codeUnit? w = some n := by
  intro t n s h
  obtain ⟨m, hcode, hpair⟩ := Option.map_eq_some_iff.mp h
  obtain ⟨rfl, rfl⟩ := Prod.mk.inj hpair
  exact ⟨t.take 4, hcode, (List.take_append_drop 4 t).symm⟩

lemma readUnicode_sound {t s : List Char} {c : Char} (h : readUnicode? t = some (c, s)) :
    ∃ w, SpellsChar ('\\' :: 'u' :: w) c ∧ t = w ++ s := by
  unfold readUnicode? at h
  rw [Option.bind_eq_some_iff] at h
  obtain ⟨⟨high, rest⟩, hhigh, h⟩ := h
  obtain ⟨w, hw, rfl⟩ := readUnit_sound t high rest hhigh
  dsimp only at h
  by_cases hsurrogate : isSurrogate high = true
  · rw [if_pos hsurrogate] at h
    by_cases hmark : high < 0xDC00 ∧ rest.take 2 = ['\\', 'u']
    · rw [if_pos hmark, Option.bind_eq_some_iff] at h
      obtain ⟨⟨low, rest'⟩, hlow, h⟩ := h
      obtain ⟨w', hw', hrest⟩ := readUnit_sound _ low rest' hlow
      dsimp only at h
      by_cases hsecond : 0xDC00 ≤ low ∧ low < 0xE000
      · rw [if_pos hsecond] at h
        obtain ⟨rfl, rfl⟩ := Prod.mk.inj (Option.some.inj h)
        have hfirst : 0xD800 ≤ high ∧ high < 0xDC00 := by
          simp only [isSurrogate, Bool.and_eq_true, decide_eq_true_eq] at hsurrogate
          exact ⟨hsurrogate.1, hmark.1⟩
        refine ⟨w ++ '\\' :: 'u' :: w', .pair hw hw' hfirst hsecond, ?_⟩
        rw [← List.take_append_drop 2 rest, hmark.2, hrest]
        simp
      · rw [if_neg hsecond] at h
        cases h
    · rw [if_neg hmark] at h
      cases h
  · rw [if_neg hsurrogate] at h
    obtain ⟨rfl, rfl⟩ := Prod.mk.inj (Option.some.inj h)
    exact ⟨w, .unit hw (by simpa using hsurrogate), rfl⟩

lemma readChar_sound : Sound readChar? SpellsChar := by
  intro t c s h
  cases t with
  | nil => cases h
  | cons d rest =>
    rw [readChar?] at h
    by_cases hbackslash : d = '\\'
    · rw [if_pos hbackslash] at h
      subst hbackslash
      cases rest with
      | nil => cases h
      | cons letter rest =>
        rw [readEscaped?] at h
        by_cases hunicode : letter = 'u'
        · rw [if_pos hunicode] at h
          subst hunicode
          obtain ⟨w, hw, rfl⟩ := readUnicode_sound h
          exact ⟨_, hw, rfl⟩
        · rw [if_neg hunicode, Option.map_eq_some_iff] at h
          obtain ⟨c', hescape, hpair⟩ := h
          obtain ⟨rfl, rfl⟩ := Prod.mk.inj hpair
          exact ⟨_, .short hescape, rfl⟩
    · rw [if_neg hbackslash] at h
      by_cases hrefused : d = '"' ∨ d.toNat < 0x20
      · rw [if_pos hrefused] at h
        cases h
      · rw [if_neg hrefused] at h
        obtain ⟨rfl, rfl⟩ := Prod.mk.inj (Option.some.inj h)
        rw [not_or, not_lt] at hrefused
        exact ⟨[d], .plain hrefused.1 hbackslash hrefused.2, rfl⟩

lemma readChars_sound (n : Nat) {t s cs : List Char} (h : readChars? n t = some (cs, s)) :
    ∃ words, List.Forall₂ SpellsChar words cs ∧ t = words.flatten ++ '"' :: s := by
  induction n generalizing t cs with
  | zero => cases h
  | succ n ih =>
    rw [readChars?] at h
    by_cases hquote : t.head? = some '"'
    · rw [if_pos hquote] at h
      obtain ⟨rfl, rfl⟩ := Prod.mk.inj (Option.some.inj h)
      exact ⟨[], .nil, (List.cons_head?_tail hquote).symm⟩
    · rw [if_neg hquote, Option.bind_eq_some_iff] at h
      obtain ⟨⟨c, rest⟩, hc, h⟩ := h
      obtain ⟨cs, hcs, rfl⟩ := exists_taken h
      obtain ⟨w, hw, rfl⟩ := readChar_sound _ _ _ hc
      obtain ⟨words, hwords, rfl⟩ := ih hcs
      exact ⟨w :: words, .cons hw hwords, by simp⟩

lemma readString_sound (n : Nat) : Sound (readString? n) SpellsString := by
  intro t x s h
  unfold readString? at h
  by_cases hquote : t.head? = some '"'
  · rw [if_pos hquote] at h
    obtain ⟨cs, hcs, rfl⟩ := exists_taken h
    obtain ⟨words, hwords, htail⟩ := readChars_sound n hcs
    refine ⟨'"' :: (words.flatten ++ ['"']), ⟨words, ?_, rfl⟩, ?_⟩
    · rwa [String.toList_ofList]
    · rw [← List.cons_head?_tail hquote, htail]
      simp
  · rw [if_neg hquote] at h
    cases h

lemma readNumber_sound : Sound readNumber? SpellsNumber := by
  intro t n s h
  unfold readNumber? at h
  dsimp only at h
  by_cases hrefused : t.takeWhile Char.isDigit = [] ∨
      ((t.takeWhile Char.isDigit).head? = some '0' ∧ t.takeWhile Char.isDigit ≠ ['0'])
  · rw [if_pos hrefused] at h
    cases h
  · rw [if_neg hrefused] at h
    obtain ⟨rfl, rfl⟩ := Prod.mk.inj (Option.some.inj h)
    rw [not_or, not_and, not_not] at hrefused
    refine ⟨t.takeWhile Char.isDigit, ⟨?_, hrefused.1, hrefused.2, rfl⟩,
      List.takeWhile_append_dropWhile.symm⟩
    exact fun c hc => List.mem_takeWhile_imp hc

lemma readName_sound : Sound readName? SpellsValue := by
  intro t v s h
  obtain ⟨⟨name, value⟩, hmem, h⟩ := List.exists_of_findSome?_eq_some h
  dsimp only at h
  by_cases hprefix : name.toList.isPrefixOf t = true
  · rw [if_pos hprefix] at h
    obtain ⟨rfl, rfl⟩ := Prod.mk.inj (Option.some.inj h)
    obtain ⟨rest, rfl⟩ := List.isPrefixOf_iff_prefix.mp hprefix
    refine ⟨name.toList, ?_, by rw [List.drop_left]⟩
    simp only [jsonNames, List.mem_cons, Prod.mk.injEq, List.not_mem_nil, or_false] at hmem
    rcases hmem with ⟨rfl, rfl⟩ | ⟨rfl, rfl⟩ | ⟨rfl, rfl⟩
    · exact .null
    · exact .true
    · exact .false
  · rw [if_neg hprefix] at h
    cases h

section Items

variable {α : Type} {item : Taking α} {Spells : List Char → α → Prop}

lemma readMore_sound (hitem : Sound item Spells) (close : Char) (n : Nat) {t s : List Char}
    {xs : List α} (h : readMore? close item n t = some (xs, s)) :
    ∃ w, SpellsMore Spells w xs ∧ t = w ++ close :: s := by
  induction n generalizing t xs with
  | zero => cases h
  | succ n ih =>
    rw [readMore?] at h
    by_cases hclose : (skipJsonBlanks t).head? = some close
    · rw [if_pos hclose] at h
      obtain ⟨rfl, rfl⟩ := Prod.mk.inj (Option.some.inj h)
      obtain ⟨b, hb, ht⟩ := exists_blanks_head hclose
      exact ⟨b, .nil hb, ht⟩
    · rw [if_neg hclose] at h
      by_cases hcomma : (skipJsonBlanks t).head? = some ','
      · rw [if_pos hcomma, Option.bind_eq_some_iff] at h
        obtain ⟨⟨x, rest⟩, hx, h⟩ := h
        obtain ⟨xs, hxs, rfl⟩ := exists_taken h
        obtain ⟨b, hb, ht⟩ := exists_blanks_head hcomma
        obtain ⟨b', hb', htail⟩ := exists_blanks (skipJsonBlanks t).tail
        obtain ⟨w, hw, hfirst⟩ := hitem _ _ _ hx
        obtain ⟨ws, hws, rfl⟩ := ih hxs
        refine ⟨b ++ ',' :: (b' ++ (w ++ ws)), .cons hb hb' hw hws, ?_⟩
        rw [ht, htail, hfirst]
        simp
      · rw [if_neg hcomma] at h
        cases h

lemma readItems_sound (hitem : Sound item Spells) (close : Char) (n : Nat) {t s : List Char}
    {xs : List α} (h : readItems? close item n t = some (xs, s)) :
    ∃ w, SpellsItems Spells w xs ∧ t = w ++ close :: s := by
  unfold readItems? at h
  by_cases hclose : (skipJsonBlanks t).head? = some close
  · rw [if_pos hclose] at h
    obtain ⟨rfl, rfl⟩ := Prod.mk.inj (Option.some.inj h)
    obtain ⟨b, hb, ht⟩ := exists_blanks_head hclose
    exact ⟨b, .nil hb, ht⟩
  · rw [if_neg hclose, Option.bind_eq_some_iff] at h
    obtain ⟨⟨x, rest⟩, hx, h⟩ := h
    obtain ⟨xs, hxs, rfl⟩ := exists_taken h
    obtain ⟨b, hb, ht⟩ := exists_blanks t
    obtain ⟨w, hw, hfirst⟩ := hitem _ _ _ hx
    obtain ⟨ws, hws, rfl⟩ := readMore_sound hitem close n hxs
    refine ⟨b ++ (w ++ ws), .cons hb hw hws, ?_⟩
    rw [ht, hfirst]
    simp

end Items

lemma readMember_sound {value : Taking JsonValue} (hvalue : Sound value SpellsValue) (n : Nat) :
    Sound (readMember? value n) (SpellsMember SpellsValue) := by
  intro t m s h
  unfold readMember? at h
  rw [Option.bind_eq_some_iff] at h
  obtain ⟨⟨name, rest⟩, hname, h⟩ := h
  dsimp only at h
  by_cases hcolon : (skipJsonBlanks rest).head? = some ':'
  · rw [if_pos hcolon] at h
    obtain ⟨v, hv, rfl⟩ := exists_taken h
    obtain ⟨w, hw, rfl⟩ := readString_sound n _ _ _ hname
    obtain ⟨b, hb, hrest⟩ := exists_blanks_head hcolon
    obtain ⟨b', hb', htail⟩ := exists_blanks (skipJsonBlanks rest).tail
    obtain ⟨w', hw', hlast⟩ := hvalue _ _ _ hv
    refine ⟨w ++ (b ++ ':' :: (b' ++ w')), .member hw hb hb' hw', ?_⟩
    rw [hrest, htail, hlast]
    simp
  · rw [if_neg hcolon] at h
    cases h

lemma readValue_sound (n : Nat) : Sound (readValue? n) SpellsValue := by
  induction n with
  | zero =>
    intro t v s h
    cases h
  | succ n ih =>
    intro t v s h
    rw [readValue?] at h
    by_cases hquote : t.head? = some '"'
    · rw [if_pos hquote] at h
      obtain ⟨x, hx, rfl⟩ := exists_taken h
      obtain ⟨w, hw, ht⟩ := readString_sound n _ _ _ hx
      exact ⟨w, .string hw, ht⟩
    rw [if_neg hquote] at h
    by_cases harray : t.head? = some '['
    · rw [if_pos harray] at h
      obtain ⟨vs, hvs, rfl⟩ := exists_taken h
      obtain ⟨w, hw, htail⟩ := readItems_sound ih ']' n hvs
      refine ⟨'[' :: (w ++ [']']), .array hw, ?_⟩
      rw [← List.cons_head?_tail harray, htail]
      simp
    rw [if_neg harray] at h
    by_cases hobject : t.head? = some '\x7b'
    · rw [if_pos hobject] at h
      obtain ⟨ms, hms, rfl⟩ := exists_taken h
      obtain ⟨w, hw, htail⟩ := readItems_sound (readMember_sound ih n) '\x7d' n hms
      refine ⟨'\x7b' :: (w ++ ['\x7d']), .object hw, ?_⟩
      rw [← List.cons_head?_tail hobject, htail]
      simp
    rw [if_neg hobject, Option.or_eq_some_iff] at h
    rcases h with h | ⟨-, h⟩
    · obtain ⟨m, hm, rfl⟩ := exists_taken h
      obtain ⟨w, hw, ht⟩ := readNumber_sound _ _ _ hm
      exact ⟨w, .number hw, ht⟩
    · exact readName_sound _ _ _ h

/-! ### What the grammar says is read -/

/-- The text does not go on with a digit, so a number before it is at its end. -/
def EndsNumber (s : List Char) : Prop :=
  ∀ c, s.head? = some c → c.isDigit = false

/-- The reader takes every text that is shorter than the fuel. -/
def Complete {α : Type} (reader : Taking α) (Spells : List Char → α → Prop) (n : Nat) : Prop :=
  ∀ w x s, Spells w x → w.length < n → EndsNumber s → reader (w ++ s) = some (x, s)

lemma readUnit_complete {w : List Char} {n : Nat} (h : codeUnit? w = some n) (s : List Char) :
    readUnit? (w ++ s) = some (n, s) := by
  have hlength : w.length = 4 := by
    by_contra hlength
    rw [codeUnit?, if_neg hlength] at h
    cases h
  rw [readUnit?, ← hlength, List.take_left, List.drop_left, h]
  rfl

lemma readChar_complete {w : List Char} {c : Char} (h : SpellsChar w c) (s : List Char) :
    readChar? (w ++ s) = some (c, s) := by
  cases h with
  | plain no_quote no_backslash no_control =>
    have hrefused : ¬ (c = '"' ∨ c.toNat < 0x20) := by
      rw [not_or, not_lt]
      exact ⟨no_quote, no_control⟩
    rw [List.singleton_append, readChar?, if_neg no_backslash, if_neg hrefused]
  | @short letter c escape =>
    have hletter : letter ≠ 'u' := by
      rintro rfl
      cases escape
    rw [List.cons_append, readChar?, if_pos rfl, List.singleton_append, readEscaped?,
      if_neg hletter, escape]
    rfl
  | @unit digits n code scalar =>
    rw [List.cons_append, readChar?, if_pos rfl, List.cons_append, readEscaped?, if_pos rfl,
      readUnicode?, readUnit_complete code, Option.bind_some, if_neg (by simp [scalar])]
  | @pair digits digits' high low code code' first second =>
    have hsurrogate : isSurrogate high = true := by
      simp only [isSurrogate, Bool.and_eq_true, decide_eq_true_eq]
      omega
    rw [List.cons_append, readChar?, if_pos rfl, List.cons_append, readEscaped?, if_pos rfl,
      readUnicode?, List.append_assoc, readUnit_complete code, Option.bind_some, if_pos hsurrogate,
      if_pos ⟨first.2, rfl⟩]
    have hdrop : ('\\' :: 'u' :: digits' ++ s).drop 2 = digits' ++ s := rfl
    rw [hdrop, readUnit_complete code', Option.bind_some, if_pos second]

lemma head_of_spellsChar {w : List Char} {c : Char} (h : SpellsChar w c) :
    ∃ d rest, w = d :: rest ∧ d ≠ '"' := by
  cases h with
  | plain no_quote => exact ⟨_, _, rfl, no_quote⟩
  | short => exact ⟨_, _, rfl, by decide⟩
  | unit => exact ⟨_, _, rfl, by decide⟩
  | pair => exact ⟨_, _, rfl, by decide⟩

lemma readChars_complete {words : List (List Char)} {cs : List Char}
    (h : List.Forall₂ SpellsChar words cs) {n : Nat} (hn : words.flatten.length < n)
    (s : List Char) : readChars? n (words.flatten ++ '"' :: s) = some (cs, s) := by
  induction h generalizing n with
  | nil =>
    obtain ⟨n, rfl⟩ := Nat.exists_eq_add_one_of_ne_zero (by omega : n ≠ 0)
    rfl
  | @cons w c words cs hword _ ih =>
    obtain ⟨n, rfl⟩ := Nat.exists_eq_add_one_of_ne_zero (by omega : n ≠ 0)
    obtain ⟨d, rest, hw, hquote⟩ := head_of_spellsChar hword
    have hlength : words.flatten.length < n := by
      rw [List.flatten_cons, List.length_append, hw, List.length_cons] at hn
      omega
    have hhead : (w ++ (words.flatten ++ '"' :: s)).head? ≠ some '"' := by
      rw [hw]
      simpa using hquote
    rw [List.flatten_cons, List.append_assoc, readChars?, if_neg hhead, readChar_complete hword,
      Option.bind_some, ih hlength]
    rfl

lemma readString_complete (n : Nat) : Complete (readString? n) SpellsString (n + 1) := by
  rintro t x s ⟨words, hwords, rfl⟩ hn -
  have hlength : words.flatten.length < n := by
    simp only [List.length_cons, List.length_append] at hn
    omega
  have htext : '"' :: (words.flatten ++ ['"']) ++ s = '"' :: (words.flatten ++ '"' :: s) := by
    simp
  rw [htext, readString?, List.head?_cons, if_pos rfl, List.tail_cons,
    readChars_complete hwords hlength, Option.map_some, String.ofList_toList]

lemma readNumber_complete {t s : List Char} {n : Nat} (h : SpellsNumber t n) (hs : EndsNumber s) :
    readNumber? (t ++ s) = some (n, s) := by
  have hstop : s.takeWhile Char.isDigit = [] ∧ s.dropWhile Char.isDigit = s := by
    cases s with
    | nil => exact ⟨rfl, rfl⟩
    | cons c rest =>
      have hc := hs c rfl
      exact ⟨List.takeWhile_cons_of_neg (by simp [hc]), List.dropWhile_cons_of_neg (by simp [hc])⟩
  have htake : (t ++ s).takeWhile Char.isDigit = t := by
    rw [List.takeWhile_append_of_pos h.digits, hstop.1, List.append_nil]
  have hdrop : (t ++ s).dropWhile Char.isDigit = s := by
    rw [List.dropWhile_append_of_pos h.digits, hstop.2]
  have hrefused : ¬ (t = [] ∨ (t.head? = some '0' ∧ t ≠ ['0'])) := by
    rw [not_or, not_and, not_not]
    exact ⟨h.some_digit, h.no_leading_zero⟩
  rw [readNumber?, htake, hdrop, if_neg hrefused, h.value_eq]

/-- An item begins neither with a blank nor with a bracket that closes. -/
def StartsItem (w : List Char) : Prop :=
  ∃ c rest, w = c :: rest ∧ isJsonBlank c = false ∧ c ≠ ']' ∧ c ≠ '\x7d'

lemma endsNumber_cons {c : Char} (hc : c.isDigit = false) (s : List Char) :
    EndsNumber (c :: s) := by
  intro d hd
  obtain rfl := Option.some.inj hd
  exact hc

lemma isDigit_of_blank {c : Char} (hc : isJsonBlank c = true) : c.isDigit = false := by
  simp only [isJsonBlank, Bool.or_eq_true, decide_eq_true_eq] at hc
  rcases hc with ((rfl | rfl) | rfl) | rfl <;> rfl

lemma endsNumber_blanks {b s : List Char} (hb : JsonBlanks b) (hs : EndsNumber s) :
    EndsNumber (b ++ s) := by
  cases b with
  | nil => exact hs
  | cons c rest => exact endsNumber_cons (isDigit_of_blank (hb c (by simp))) _

section Items

variable {α : Type} {item : Taking α} {Spells : List Char → α → Prop} {close : Char} {n : Nat}

lemma endsNumber_more (hclose : close.isDigit = false) {w : List Char} {xs : List α}
    (h : SpellsMore Spells w xs) (s : List Char) : EndsNumber (w ++ close :: s) := by
  cases h with
  | nil blanks => exact endsNumber_blanks blanks (endsNumber_cons hclose s)
  | cons blanks =>
    rw [List.append_assoc]
    exact endsNumber_blanks blanks (endsNumber_cons rfl _)

lemma skipJsonBlanks_item {w : List Char} (hw : StartsItem w) {b : List Char} (hb : JsonBlanks b)
    (s : List Char) : skipJsonBlanks (b ++ (w ++ s)) = w ++ s := by
  obtain ⟨c, rest, rfl, hc, -⟩ := hw
  rw [skipJsonBlanks_blanks hb, List.cons_append, skipJsonBlanks_cons hc]

lemma readMore_complete (hitem : Complete item Spells n)
    (hstarts : ∀ w x, Spells w x → StartsItem w) (hclose : close = ']' ∨ close = '\x7d')
    {w : List Char} {xs : List α} (h : SpellsMore Spells w xs) (hn : w.length < n) {m : Nat}
    (hm : w.length < m) (s : List Char) :
    readMore? close item m (w ++ close :: s) = some (xs, s) := by
  have hdigit : close.isDigit = false := by rcases hclose with rfl | rfl <;> rfl
  have hblank : isJsonBlank close = false := by rcases hclose with rfl | rfl <;> rfl
  have hcomma : close ≠ ',' := by rcases hclose with rfl | rfl <;> decide
  induction h generalizing m with
  | nil blanks =>
    obtain ⟨m, rfl⟩ := Nat.exists_eq_add_one_of_ne_zero (by omega : m ≠ 0)
    rw [readMore?, skipJsonBlanks_blanks blanks, skipJsonBlanks_cons hblank, List.head?_cons,
      if_pos rfl, List.tail_cons]
  | @cons b b' t x ts xs blanks blanks' first rest ih =>
    obtain ⟨m, rfl⟩ := Nat.exists_eq_add_one_of_ne_zero (by omega : m ≠ 0)
    simp only [List.length_append, List.length_cons] at hn hm
    have htext : b ++ ',' :: (b' ++ (t ++ ts)) ++ close :: s =
        b ++ ',' :: (b' ++ (t ++ (ts ++ close :: s))) := by
      simp
    have hskip : skipJsonBlanks (b ++ ',' :: (b' ++ (t ++ (ts ++ close :: s)))) =
        ',' :: (b' ++ (t ++ (ts ++ close :: s))) := by
      rw [skipJsonBlanks_blanks blanks, skipJsonBlanks_cons rfl]
    have hfirst := hitem t x (ts ++ close :: s) first (by omega) (endsNumber_more hdigit rest s)
    rw [htext, readMore?, hskip, List.head?_cons, if_neg (by simpa using hcomma.symm), if_pos rfl,
      List.tail_cons, skipJsonBlanks_item (hstarts t x first) blanks', hfirst, Option.bind_some,
      ih (by omega) (by omega)]
    rfl

lemma readItems_complete (hitem : Complete item Spells n)
    (hstarts : ∀ w x, Spells w x → StartsItem w) (hclose : close = ']' ∨ close = '\x7d')
    {w : List Char} {xs : List α} (h : SpellsItems Spells w xs) (hn : w.length < n)
    (s : List Char) : readItems? close item n (w ++ close :: s) = some (xs, s) := by
  have hdigit : close.isDigit = false := by rcases hclose with rfl | rfl <;> rfl
  have hblank : isJsonBlank close = false := by rcases hclose with rfl | rfl <;> rfl
  cases h with
  | nil blanks =>
    rw [readItems?, skipJsonBlanks_blanks blanks, skipJsonBlanks_cons hblank, List.head?_cons,
      if_pos rfl, List.tail_cons]
  | @cons b t x ts xs blanks first rest =>
    simp only [List.length_append] at hn
    have htext : b ++ (t ++ ts) ++ close :: s = b ++ (t ++ (ts ++ close :: s)) := by simp
    have hhead : (t ++ (ts ++ close :: s)).head? ≠ some close := by
      obtain ⟨c, t', rfl, -, hbracket, hbrace⟩ := hstarts t x first
      rcases hclose with rfl | rfl
      · simpa using hbracket
      · simpa using hbrace
    have hfirst := hitem t x (ts ++ close :: s) first (by omega) (endsNumber_more hdigit rest s)
    rw [htext, readItems?, skipJsonBlanks_item (hstarts t x first) blanks, if_neg hhead, hfirst,
      Option.bind_some, readMore_complete hitem hstarts hclose rest (by omega) (by omega)]
    rfl

end Items

lemma startsItem_digit {c : Char} (hc : c.isDigit = true) (rest : List Char) :
    StartsItem (c :: rest) := by
  refine ⟨c, rest, rfl, ?_, ?_, ?_⟩
  · by_contra hblank
    rw [isDigit_of_blank (by simpa using hblank)] at hc
    cases hc
  · rintro rfl
    cases hc
  · rintro rfl
    cases hc

lemma startsItem_string {t : List Char} {x : String} (h : SpellsString t x) : StartsItem t := by
  obtain ⟨words, -, rfl⟩ := h
  exact ⟨'"', _, rfl, rfl, by decide, by decide⟩

lemma startsItem_value {w : List Char} {v : JsonValue} (h : SpellsValue w v) : StartsItem w := by
  cases h with
  | null => exact ⟨'n', _, rfl, rfl, by decide, by decide⟩
  | true => exact ⟨'t', _, rfl, rfl, by decide, by decide⟩
  | false => exact ⟨'f', _, rfl, rfl, by decide, by decide⟩
  | number number =>
    obtain ⟨c, rest, rfl⟩ := List.exists_cons_of_ne_nil number.some_digit
    exact startsItem_digit (number.digits c (by simp)) rest
  | string string => exact startsItem_string string
  | array => exact ⟨'[', _, rfl, rfl, by decide, by decide⟩
  | object => exact ⟨'\x7b', _, rfl, rfl, by decide, by decide⟩

lemma startsItem_member {w : List Char} {m : String × JsonValue}
    (h : SpellsMember SpellsValue w m) : StartsItem w := by
  cases h with
  | member string =>
    obtain ⟨c, rest, rfl, hc⟩ := startsItem_string string
    exact ⟨c, _, rfl, hc⟩

lemma readMember_complete {value : Taking JsonValue} {n : Nat}
    (hvalue : Complete value SpellsValue n) :
    Complete (readMember? value n) (SpellsMember SpellsValue) n := by
  intro w m s h hn hs
  cases h with
  | @member t name b b' t' v string blanks blanks' first =>
    simp only [List.length_append, List.length_cons] at hn
    have htext : t ++ (b ++ ':' :: (b' ++ t')) ++ s = t ++ (b ++ ':' :: (b' ++ (t' ++ s))) := by
      simp
    have hcolon : EndsNumber (b ++ ':' :: (b' ++ (t' ++ s))) :=
      endsNumber_blanks blanks (endsNumber_cons rfl _)
    rw [htext, readMember?, readString_complete n t name _ string (by omega) hcolon,
      Option.bind_some, skipJsonBlanks_blanks blanks, skipJsonBlanks_cons rfl, List.head?_cons,
      if_pos rfl, List.tail_cons, skipJsonBlanks_item (startsItem_value first) blanks',
      hvalue t' v s first (by omega) hs]
    rfl

lemma readValue_complete (n : Nat) : Complete (readValue? n) SpellsValue n := by
  induction n with
  | zero =>
    intro w v s _ hn
    cases hn
  | succ n ih =>
    intro w v s h hn hs
    cases h with
    | null => rfl
    | true => rfl
    | false => rfl
    | @number t m number =>
      obtain ⟨c, rest, rfl⟩ := List.exists_cons_of_ne_nil number.some_digit
      have hdigit := number.digits c (by simp)
      have hother : ∀ d : Char, d.isDigit = false → some c ≠ some d := by
        rintro d hd heq
        obtain rfl := Option.some.inj heq
        rw [hd] at hdigit
        cases hdigit
      have hhead : (c :: rest ++ s).head? = some c := rfl
      rw [readValue?, hhead, if_neg (hother _ rfl), if_neg (hother _ rfl), if_neg (hother _ rfl),
        readNumber_complete number hs]
      rfl
    | @string _ x string =>
      have hhead : (w ++ s).head? = some '"' := by
        obtain ⟨words, -, rfl⟩ := string
        rfl
      rw [readValue?, if_pos hhead, readString_complete n w x s string hn hs]
      rfl
    | @array t vs elements =>
      simp only [List.length_cons, List.length_append] at hn
      have htext : '[' :: (t ++ [']']) ++ s = '[' :: (t ++ ']' :: s) := by simp
      have hitems := readItems_complete ih (fun _ _ => startsItem_value) (.inl rfl) elements
        (by omega) s
      rw [htext, readValue?, List.head?_cons, if_neg (by decide), if_pos rfl, List.tail_cons,
        hitems]
      rfl
    | @object t ms members =>
      simp only [List.length_cons, List.length_append] at hn
      have htext : '\x7b' :: (t ++ ['\x7d']) ++ s = '\x7b' :: (t ++ '\x7d' :: s) := by simp
      have hitems := readItems_complete (readMember_complete ih) (fun _ _ => startsItem_member)
        (.inr rfl) members (by omega) s
      rw [htext, readValue?, List.head?_cons, if_neg (by decide), if_neg (by decide), if_pos rfl,
        List.tail_cons, hitems]
      rfl

/-! ### Documents -/

/-- The reader gives the value of every document and of nothing else. -/
theorem readDocument_eq_some_iff (t : List Char) (v : JsonValue) :
    readDocument? t = some v ↔ SpellsDocument t v := by
  constructor
  · intro h
    unfold readDocument? at h
    rw [Option.bind_eq_some_iff] at h
    obtain ⟨⟨x, s⟩, hvalue, h⟩ := h
    dsimp only at h
    by_cases hend : skipJsonBlanks s = []
    · rw [if_pos hend] at h
      obtain rfl := Option.some.inj h
      obtain ⟨w, hw, hskip⟩ := readValue_sound _ _ _ _ hvalue
      obtain ⟨before, hbefore, ht⟩ := exists_blanks t
      obtain ⟨after, hafter, hs⟩ := exists_blanks s
      rw [hend, List.append_nil] at hs
      exact ⟨before, w, s, hbefore, hs ▸ hafter, hw, hskip ▸ ht⟩
    · rw [if_neg hend] at h
      cases h
  · rintro ⟨before, w, after, hbefore, hafter, hw, rfl⟩
    have hends : EndsNumber after := by
      rw [← List.append_nil after]
      exact endsNumber_blanks hafter (fun _ h => by cases h)
    have hlength : w.length < (before ++ (w ++ after)).length + 1 := by
      simp only [List.length_append]
      omega
    rw [readDocument?, skipJsonBlanks_item (startsItem_value hw) hbefore,
      readValue_complete _ w v after hw hlength hends, Option.bind_some,
      if_pos (skipJsonBlanks_eq_nil hafter)]

/-- A text that no layout is. -/
example : readDocument? " [\"\\u0041\\/\" , 10]\n".toList =
    some (.array [.string "A/", .number 10]) := by
  rfl

/-- A text is a document for one value at most. -/
theorem spellsDocument_unique {t : List Char} {v v' : JsonValue} (h : SpellsDocument t v)
    (h' : SpellsDocument t v') : v = v' := by
  rw [← readDocument_eq_some_iff] at h h'
  exact Option.some.inj (h.symm.trans h')

end SyntaxCheck.Proofs
