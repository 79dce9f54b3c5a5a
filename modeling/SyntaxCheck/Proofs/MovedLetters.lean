import Mathlib.Tactic
import SyntaxCheck.Proofs.LexedPieces
import SyntaxCheck.Proofs.MovedParsers

/-!
# Tokens of moved letters

The lexer decides by the characters of letters and copies their offsets. So it takes the same token
off letters at other offsets, and leaves the letters that it left before.
-/

namespace SyntaxCheck.Proofs

open Lexer Location

variable {f : Nat → Nat} {ends : Prop} {finish : Nat} {text : List Letter}

/-- A letter, moved. -/
def movedLetter (f : Nat → Nat) (l : Letter) : Letter :=
  ⟨l.char, f l.start, f l.stop⟩

section Ahead

variable (f : Nat → Nat) (text : List Letter)

@[simp] lemma char_movedLetter (l : Letter) : (movedLetter f l).char = l.char := rfl

@[simp] lemma ahead_moved (n : Nat) :
    Letter.ahead n (text.map (movedLetter f)) = Letter.ahead n text := by
  rw [Letter.ahead, Letter.ahead, ← List.map_take, List.map_map]
  rfl

lemma offset_moved (finish : Nat) :
    Letter.offset (f finish) (text.map (movedLetter f)) = f (Letter.offset finish text) := by
  cases text <;> rfl

@[simp] lemma digitNext_moved (radix : Nat) :
    digitNext radix (text.map (movedLetter f)) = digitNext radix text := by
  cases text <;> rfl

@[simp] lemma exponentNext_moved :
    exponentNext (text.map (movedLetter f)) = exponentNext text := by
  rw [exponentNext, exponentNext, ahead_moved]

@[simp] lemma stringNext_moved :
    stringNext? (text.map (movedLetter f)) = stringNext? text := by
  rw [stringNext?, stringNext?, ahead_moved]

end Ahead

/-! ### Readers of letters -/

/-- Of moved letters the same is made, and the same letters are left. -/
structure TakesAlike {α : Type} (f : Nat → Nat) (text : List Letter) (a b : α × List Letter) :
    Prop where
  moved : b = (a.1, a.2.map (movedLetter f))
  suffix : a.2 <:+ text

lemma TakesAlike.mono {α : Type} {text' : List Letter} {a b : α × List Letter}
    (h : TakesAlike f text a b) (hsuffix : text <:+ text') : TakesAlike f text' a b :=
  ⟨h.moved, h.suffix.trans hsuffix⟩

lemma takesAlike_self {α : Type} (a : α) (text : List Letter) :
    TakesAlike f text (a, text) (a, text.map (movedLetter f)) :=
  ⟨rfl, List.suffix_rfl⟩

/-- The letters up to the rest have these characters. -/
def Spells (text : List Letter) (chars : List Char) (rest : List Letter) : Prop :=
  ∃ used, text = used ++ rest ∧ used.map Letter.char = chars

lemma spells_ahead (n : Nat) (text : List Letter) :
    Spells text (Letter.ahead n text) (text.drop n) :=
  ⟨text.take n, (List.take_append_drop n text).symm, rfl⟩

lemma Spells.cons {rest : List Letter} {chars : List Char} (h : Spells text chars rest)
    (l : Letter) : Spells (l :: text) (l.char :: chars) rest := by
  obtain ⟨used, rfl, rfl⟩ := h
  exact ⟨l :: used, rfl, rfl⟩

lemma Spells.trans {middle rest : List Letter} {front back : List Char}
    (hfront : Spells text front middle) (hback : Spells middle back rest) :
    Spells text (front ++ back) rest := by
  obtain ⟨first, rfl, rfl⟩ := hfront
  obtain ⟨second, rfl, rfl⟩ := hback
  exact ⟨first ++ second, (List.append_assoc _ _ _).symm, List.map_append⟩

lemma Spells.suffix {rest : List Letter} {chars : List Char} (h : Spells text chars rest) :
    rest <:+ text := by
  obtain ⟨used, rfl, -⟩ := h
  exact List.suffix_append used rest

/-- The quotes at one end of a string. -/
def quotesOf (triple : Bool) (quote : Char) : List Char :=
  List.replicate (if triple then 3 else 1) quote

/-- The characters of a string in a text: its letters and its content, in quotes. -/
inductive WrittenAs (s : StringLiteral) : List Char → Prop
  | mk (front : List Char) (quote : Char) (hform : StringForm.ofLetters? front = some s.form)
    (hquote : isQuote quote = true) :
    WrittenAs s (front ++ (quotesOf s.triple quote ++ (s.content ++ quotesOf s.triple quote)))

/-- Of moved letters the same token is made. A string is what its letters spell. -/
structure TakesToken (f : Nat → Nat) (text : List Letter) (a b : Token × List Letter) : Prop
    extends TakesAlike f text a b where
  strings : ∀ s, a.1 = .string s → ∃ chars, WrittenAs s chars ∧ Spells text chars a.2

lemma TakesAlike.token {a b : Token × List Letter} (h : TakesAlike f text a b)
    (hne : ∀ s, a.1 ≠ .string s) : TakesToken f text a b :=
  ⟨h, fun s hs => absurd hs (hne s)⟩

/-! ### Numbers -/

lemma takesAlike_takeDigits (radix : Nat) (text : List Letter) :
    TakesAlike f text (takeDigits radix text) (takeDigits radix (text.map (movedLetter f))) := by
  induction text with
  | nil => exact takesAlike_self _ _
  | cons l rest ih =>
    have hrest : rest <:+ l :: rest := List.suffix_cons l rest
    rw [List.map_cons, takeDigits, takeDigits, char_movedLetter]
    cases digit? radix l.char with
    | none =>
      dsimp only
      rw [digitNext_moved]
      split
      · exact ih.mono hrest
      · exact takesAlike_self [] (l :: rest)
    | some d =>
      dsimp only
      rw [ih.moved]
      exact ⟨rfl, ih.suffix.trans hrest⟩

lemma verdicts_takeFraction (text : List Letter) :
    Verdicts (TakesAlike f text) (takeFraction text) (takeFraction (text.map (movedLetter f))) := by
  cases text with
  | nil => exact .ok (takesAlike_self _ _)
  | cons l rest =>
    simp only [List.map_cons, takeFraction, char_movedLetter, ahead_moved]
    split
    · exact .ok (takesAlike_self [] (l :: rest))
    split
    · exact .error _ _
    · exact .ok ((takesAlike_takeDigits 10 rest).mono (List.suffix_cons l rest))

lemma verdicts_takeExponent (finish' : Nat) (text : List Letter) :
    Verdicts (TakesAlike f text) (takeExponent finish text)
      (takeExponent finish' (text.map (movedLetter f))) := by
  cases text with
  | nil => exact .ok (takesAlike_self _ _)
  | cons l rest =>
    have hsigned : (if Letter.ahead 1 rest = ['+'] ∨ Letter.ahead 1 rest = ['-'] then
        (rest.map (movedLetter f)).drop 1 else rest.map (movedLetter f)) =
        (if Letter.ahead 1 rest = ['+'] ∨ Letter.ahead 1 rest = ['-'] then
          rest.drop 1 else rest).map (movedLetter f) := by
      split
      · rw [List.map_drop]
      · rfl
    have hsuffix : (if Letter.ahead 1 rest = ['+'] ∨ Letter.ahead 1 rest = ['-'] then
        rest.drop 1 else rest) <:+ l :: rest := by
      split
      · exact (List.drop_suffix 1 rest).trans (List.suffix_cons l rest)
      · exact List.suffix_cons l rest
    rw [List.map_cons, takeExponent, takeExponent, ahead_moved]
    refine .ite Iff.rfl (.ok (takesAlike_self 0 (l :: rest))) ?_
    refine .ite Iff.rfl (.error _ _) ?_
    refine .ite (by rw [← List.map_drop, ahead_moved]) (.error _ _) ?_
    rw [hsigned, (takesAlike_takeDigits 10 _).moved]
    refine .ite Iff.rfl (.error _ _) (.ok ⟨rfl, ?_⟩)
    exact (takesAlike_takeDigits (f := f) 10 _).suffix.trans hsuffix

lemma afterEither_moved (a b : Char) (text : List Letter) :
    afterEither? a b (text.map (movedLetter f)) =
      (afterEither? a b text).map (List.map (movedLetter f)) := by
  cases text with
  | nil => rfl
  | cons l rest =>
    rw [List.map_cons, afterEither?, afterEither?, char_movedLetter]
    split <;> rfl

lemma suffix_of_afterEither {a b : Char} {text rest : List Letter}
    (h : afterEither? a b text = some rest) : rest <:+ text := by
  cases text with
  | nil => cases h
  | cons l more =>
    rw [afterEither?] at h
    split at h
    · exact Option.some.inj h ▸ List.suffix_cons l more
    · cases h

lemma verdicts_takeDecimal (finish' : Nat) (text : List Letter) :
    Verdicts (TakesToken f text) (takeDecimal finish text)
      (takeDecimal finish' (text.map (movedLetter f))) := by
  have hdigits := takesAlike_takeDigits (f := f) 10 text
  rw [takeDecimal, takeDecimal, hdigits.moved]
  have hrest := hdigits.suffix
  clear hdigits
  revert hrest
  generalize takeDigits 10 text = digits
  obtain ⟨whole, rest⟩ := digits
  intro hrest
  dsimp only at hrest ⊢
  refine .ite (by rw [ahead_moved, exponentNext_moved]) ?_ ?_
  · refine (verdicts_takeFraction rest).bind fun a b hb => ?_
    obtain ⟨fraction, rest'⟩ := a
    obtain rfl := hb.moved
    refine (verdicts_takeExponent finish' rest').bind fun a b hc => ?_
    obtain ⟨exponent, rest''⟩ := a
    obtain rfl := hc.moved
    have hsuffix := (hc.suffix.trans hb.suffix).trans hrest
    dsimp only
    rw [afterEither_moved]
    cases hunit : afterEither? 'j' 'J' rest'' with
    | none => exact .ok (TakesAlike.token ⟨rfl, hsuffix⟩ (by simp))
    | some after =>
      exact .ok (TakesAlike.token ⟨rfl, (suffix_of_afterEither hunit).trans hsuffix⟩ (by simp))
  · rw [afterEither_moved]
    cases hunit : afterEither? 'j' 'J' rest with
    | none => exact .ite Iff.rfl (.error _ _) (.ok (TakesAlike.token ⟨rfl, hrest⟩ (by simp)))
    | some after =>
      exact .ok (TakesAlike.token ⟨rfl, (suffix_of_afterEither hunit).trans hrest⟩ (by simp))

lemma verdicts_takeRadix (radix start start' : Nat) {rest : List Letter} (hsuffix : rest <:+ text) :
    Verdicts (TakesToken f text) (takeRadix radix start rest)
      (takeRadix radix start' (rest.map (movedLetter f))) := by
  have hdigits := takesAlike_takeDigits (f := f) radix rest
  rw [takeRadix, takeRadix, hdigits.moved]
  have hafter := hdigits.suffix.trans hsuffix
  clear hdigits
  revert hafter
  generalize takeDigits radix rest = taken
  obtain ⟨digits, after⟩ := taken
  intro hafter
  cases digits with
  | nil => exact .error _ _
  | cons d digits => exact .ok (TakesAlike.token ⟨rfl, hafter⟩ (by simp))

lemma verdicts_takeNumber (finish' : Nat) (text : List Letter) :
    Verdicts (TakesToken f text) (takeNumber finish text)
      (takeNumber finish' (text.map (movedLetter f))) := by
  have hsuffix := List.drop_suffix 2 text
  rw [takeNumber, takeNumber, ahead_moved, ← List.map_drop]
  split
  all_goals first
    | exact verdicts_takeRadix _ _ _ hsuffix
    | exact verdicts_takeDecimal finish' text

/-! ### Strings -/

/-- Of moved letters the same content is made. It is what the letters spell up to the quotes. -/
structure TakesContent (f : Nat → Nat) (quotes : List Char) (text : List Letter)
    (a b : List Char × List Letter) : Prop where
  moved : b = (a.1, a.2.map (movedLetter f))
  spells : Spells text (a.1 ++ quotes) a.2

section Content

variable {quote : Char} {triple : Bool} {l : Letter}

lemma takeContent_escape (h : l.char = '\\') (m : Letter) (rest : List Letter) :
    takeContent finish quote triple (l :: m :: rest) =
      (takeContent finish quote triple rest).map fun (cs, after) =>
        ('\\' :: m.char :: cs, after) := by
  rw [takeContent, if_pos h]

lemma takeContent_cons (h : l.char ≠ '\\') (rest : List Letter) :
    takeContent finish quote triple (l :: rest) =
      if l.char = '\n' ∧ ¬ triple then fail .lineEndInString l.stop
      else if l.char = quote ∧ ¬ triple then .ok ([], rest)
      else if l.char = quote ∧ Letter.ahead 2 rest = [quote, quote] then .ok ([], rest.drop 2)
      else (takeContent finish quote triple rest).map fun (cs, after) => (l.char :: cs, after) := by
  rw [takeContent.eq_def]
  dsimp only
  rw [if_neg h]

lemma verdicts_content_cons {rest : List Letter} (finish' : Nat) (hslash : l.char ≠ '\\')
    (hrest : Verdicts (TakesContent f (quotesOf triple quote) rest)
      (takeContent finish quote triple rest)
      (takeContent finish' quote triple (rest.map (movedLetter f)))) :
    Verdicts (TakesContent f (quotesOf triple quote) (l :: rest))
      (takeContent finish quote triple (l :: rest))
      (takeContent finish' quote triple ((l :: rest).map (movedLetter f))) := by
  have hmoved : (movedLetter f l).char ≠ '\\' := hslash
  rw [List.map_cons, takeContent_cons hslash, takeContent_cons hmoved, ahead_moved,
    char_movedLetter]
  split
  · exact .error _ _
  split
  case isTrue hquote =>
    refine .ok ⟨rfl, ?_⟩
    simpa [quotesOf, Letter.ahead, hquote] using spells_ahead 1 (l :: rest)
  split
  case isTrue hquote hquotes =>
    have htriple : triple = true := by simpa [hquotes.1] using hquote
    refine .ok ⟨by rw [List.map_drop], ?_⟩
    have hspells := (spells_ahead 2 rest).cons l
    rw [hquotes.1, hquotes.2] at hspells
    rwa [htriple]
  refine hrest.map fun a b h => ?_
  obtain ⟨cs, after⟩ := a
  obtain rfl := h.moved
  exact ⟨rfl, h.spells.cons l⟩

lemma verdicts_takeContent (finish' : Nat) (text : List Letter) :
    Verdicts (TakesContent f (quotesOf triple quote) text) (takeContent finish quote triple text)
      (takeContent finish' quote triple (text.map (movedLetter f))) := by
  induction text using List.twoStepInduction with
  | nil => exact .error _ _
  | singleton l =>
    by_cases hslash : l.char = '\\'
    · have hmoved : (movedLetter f l).char = '\\' := hslash
      rw [takeContent, if_pos hslash, List.map_singleton, takeContent, if_pos hmoved]
      exact .error _ _
    · exact verdicts_content_cons finish' hslash (.error _ _)
  | cons_cons l m rest ih ihm =>
    by_cases hslash : l.char = '\\'
    · have hmoved : (movedLetter f l).char = '\\' := hslash
      rw [List.map_cons, List.map_cons, takeContent_escape hslash, takeContent_escape hmoved]
      refine ih.map fun a b h => ?_
      obtain ⟨cs, after⟩ := a
      obtain rfl := h.moved
      refine ⟨rfl, ?_⟩
      have hspells := (h.spells.cons m).cons l
      rwa [hslash] at hspells
    · exact verdicts_content_cons finish' hslash (ihm m)

end Content

lemma ahead_of_le {m n : Nat} (h : m ≤ n) (text : List Letter) :
    Letter.ahead m text = (Letter.ahead n text).take m := by
  rw [Letter.ahead, Letter.ahead, ← List.map_take, List.take_take, Nat.min_eq_left h]

/-- The quotes before the content of a string. -/
lemma ahead_quotes {quote : Char} {next : List Char} (h : Letter.ahead 3 text = quote :: next) :
    quote ∈ Letter.ahead 1 text ∧
      Letter.ahead (if next == [quote, quote] then 3 else 1) text =
        quotesOf (next == [quote, quote]) quote := by
  have hone : Letter.ahead 1 text = [quote] := by
    rw [ahead_of_le (by omega : 1 ≤ 3), h]
    rfl
  refine ⟨hone ▸ List.mem_singleton_self quote, ?_⟩
  by_cases htriple : (next == [quote, quote]) = true
  · rw [if_pos htriple, h, eq_of_beq htriple]
    simp [quotesOf]
  · rw [if_neg htriple, hone, Bool.eq_false_of_not_eq_true htriple]
    rfl

lemma verdicts_takeString (finish' : Nat) {form : StringForm} {front : List Char}
    (hform : StringForm.ofLetters? front = some form) {rest : List Letter}
    (hfront : Spells text front rest) (hquote : ∀ q ∈ (Letter.ahead 1 rest), isQuote q = true) :
    Verdicts (TakesToken f text) (takeString finish form rest)
      (takeString finish' form (rest.map (movedLetter f))) := by
  rw [takeString, takeString, ahead_moved]
  cases hahead : Letter.ahead 3 rest with
  | nil => exact .error _ _
  | cons quote next =>
    dsimp only
    rw [← List.map_drop]
    refine (verdicts_takeContent finish' _).bind fun a b h => .ok ?_
    obtain ⟨content, after⟩ := a
    obtain rfl := h.moved
    obtain ⟨hmem, hquotes⟩ := ahead_quotes hahead
    have hopen := spells_ahead (if next == [quote, quote] then 3 else 1) rest
    rw [hquotes] at hopen
    have hspells := hfront.trans (hopen.trans h.spells)
    refine ⟨⟨rfl, hspells.suffix⟩, ?_⟩
    rintro s ⟨⟩
    exact ⟨_, .mk front quote hform (hquote quote hmem), hspells⟩

/-- The letters of a string are looked up, and a quote comes after them. -/
lemma form_of_stringNext {form : StringForm} {n : Nat} (h : stringNext? text = some (form, n)) :
    StringForm.ofLetters? (Letter.ahead n text) = some form ∧
      ∀ q ∈ Letter.ahead 1 (text.drop n), isQuote q = true := by
  obtain _ | ⟨a, _ | ⟨b, rest⟩⟩ := text
  · cases h
  · cases h
  have hahead : Letter.ahead 3 (a :: b :: rest) = a.char :: b.char :: Letter.ahead 1 rest := rfl
  rw [stringNext?, hahead] at h
  dsimp only at h
  split at h
  case isTrue hquote =>
    obtain ⟨form, hform, ⟨⟩⟩ := Option.map_eq_some_iff.mp h
    exact ⟨hform, by simpa [Letter.ahead] using hquote⟩
  split at h
  case isTrue hquote =>
    obtain ⟨form, hform, ⟨⟩⟩ := Option.map_eq_some_iff.mp h
    refine ⟨hform, ?_⟩
    cases rest with
    | nil => simp [Letter.ahead]
    | cons c rest => simpa [Letter.ahead] using hquote
  · cases h

/-! ### Tokens -/

lemma takesToken_takeWord (text : List Letter) :
    TakesToken f text (takeWord text) (takeWord (text.map (movedLetter f))) := by
  refine TakesAlike.token ⟨?_, List.dropWhile_suffix _⟩ ?_
  · rw [takeWord, takeWord, List.takeWhile_map, List.map_map, List.dropWhile_map]
    rfl
  · intro s
    rw [takeWord]
    dsimp only
    split <;> simp

lemma takeSign_moved (text : List Letter) :
    takeSign (text.map (movedLetter f)) =
      (takeSign text).map fun found => (found.1, found.2.map (movedLetter f)) := by
  rw [takeSign, takeSign, List.map_findSome?]
  congr 1
  funext n
  rw [ahead_moved, Function.comp_apply, Option.map_map, ← List.map_drop]
  rfl

lemma exists_of_takeSign {found : Token × List Letter} (h : takeSign text = some found) :
    ∃ sign n, found = (.sign sign, text.drop n) := by
  obtain ⟨n, -, hn⟩ := List.exists_of_findSome?_eq_some h
  obtain ⟨sign, -, rfl⟩ := Option.map_eq_some_iff.mp hn
  exact ⟨sign, n, rfl⟩

lemma verdicts_takeToken (finish' : Nat) (text : List Letter) :
    Verdicts (TakesToken f text) (takeToken finish text)
      (takeToken finish' (text.map (movedLetter f))) := by
  cases text with
  | nil => exact .error _ _
  | cons l rest =>
    have hnext := stringNext_moved f (l :: rest)
    have hsign := takeSign_moved (f := f) (l :: rest)
    have hnumber : Verdicts (TakesToken f (l :: rest)) (takeNumber finish (l :: rest))
        (takeNumber finish' ((l :: rest).map (movedLetter f))) :=
      verdicts_takeNumber finish' (l :: rest)
    rw [List.map_cons] at hnext hsign hnumber
    rw [List.map_cons, takeToken, takeToken, char_movedLetter, hnext, hsign, digitNext_moved]
    refine .ite Iff.rfl ?word (.ite Iff.rfl ?emoji (.ite Iff.rfl hnumber ?_))
    case word =>
      cases hform : stringNext? (l :: rest) with
      | none => exact .ok (takesToken_takeWord (l :: rest))
      | some next =>
        obtain ⟨form, n⟩ := next
        obtain ⟨hletters, hquote⟩ := form_of_stringNext hform
        dsimp only
        rw [← List.map_cons, ← List.map_drop]
        exact verdicts_takeString finish' hletters (spells_ahead n (l :: rest)) hquote
    case emoji => exact .ok (TakesAlike.token ⟨rfl, List.suffix_cons l rest⟩ (by simp))
    split
    case isTrue hquote =>
      have hletters : Spells (l :: rest) [] (l :: rest) := spells_ahead 0 (l :: rest)
      refine verdicts_takeString finish' rfl hletters ?_
      simpa [Letter.ahead] using hquote
    cases hfound : takeSign (l :: rest) with
    | none => exact .error _ _
    | some found =>
      obtain ⟨sign, n, rfl⟩ := exists_of_takeSign hfound
      exact .ok (TakesAlike.token ⟨rfl, List.drop_suffix n _⟩ (by simp))

end SyntaxCheck.Proofs
