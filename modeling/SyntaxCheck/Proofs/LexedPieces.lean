import Mathlib.Tactic
import SyntaxCheck.Proofs.AssignmentLines
import SyntaxCheck.Token.SoftKeyword

/-!
# Pieces of lines

What the lexer takes off the front of a text of assignment lines: a name, a number or a sign, each
up to the blank or the end of the line after it.
-/

namespace SyntaxCheck.Proofs

open Lexer Location

/-! ### Letters -/

lemma ofText_cons {c : Char} (hc : c ≠ '\r') (o : Nat) (rest : List Char) :
    Letter.ofText o (c :: rest) =
      ⟨c, o, o + c.utf8Size⟩ :: Letter.ofText (o + c.utf8Size) rest := by
  rw [Letter.ofText]
  · rintro _ rfl
    exact absurd rfl hc
  · exact hc

lemma width_append (a b : List Char) : width (a ++ b) = width a + width b := by
  induction a with
  | nil => simp [width]
  | cons c a ih =>
    rw [List.cons_append, width, width, ih]
    omega

lemma ofText_append {a : List Char} (ha : '\r' ∉ a) (o : Nat) (b : List Char) :
    Letter.ofText o (a ++ b) = Letter.ofText o a ++ Letter.ofText (o + width a) b := by
  induction a generalizing o with
  | nil => rfl
  | cons c a ih =>
    rw [List.mem_cons, not_or] at ha
    have hc : c ≠ '\r' := Ne.symm ha.1
    rw [List.cons_append, ofText_cons hc, ofText_cons hc, ih ha.2, width, List.cons_append,
      Nat.add_assoc]

lemma map_char_ofText {text : List Char} (h : '\r' ∉ text) (o : Nat) :
    (Letter.ofText o text).map Letter.char = text := by
  induction text generalizing o with
  | nil => rfl
  | cons c text ih =>
    rw [List.mem_cons, not_or] at h
    rw [ofText_cons (Ne.symm h.1), List.map_cons, ih h.2]

lemma ahead_ofText {text : List Char} (h : '\r' ∉ text) (n o : Nat) :
    Letter.ahead n (Letter.ofText o text) = text.take n := by
  rw [Letter.ahead, List.map_take, map_char_ofText h]

lemma length_ofText {text : List Char} (h : '\r' ∉ text) (o : Nat) :
    (Letter.ofText o text).length = text.length := by
  rw [← List.length_map Letter.char, map_char_ofText h]

lemma offset_ofText_cons {c : Char} (hc : c ≠ '\r') (finish o : Nat) (rest : List Char) :
    Letter.offset finish (Letter.ofText o (c :: rest)) = o := by
  rw [ofText_cons hc]
  rfl

/-- The letters up to the first character that fails a test, and those from there on. -/
lemma span_ofText {p : Char → Bool} {word : List Char} (hword : ∀ c ∈ word, p c = true)
    {stop : Char} (hstop : p stop = false) {more : List Char}
    (hreturn : '\r' ∉ word ++ stop :: more) (o : Nat) :
    (Letter.ofText o (word ++ stop :: more)).takeWhile (fun l => p l.char) = Letter.ofText o word ∧
      (Letter.ofText o (word ++ stop :: more)).dropWhile (fun l => p l.char) =
        Letter.ofText (o + width word) (stop :: more) := by
  rw [List.mem_append, not_or] at hreturn
  obtain ⟨hreturnWord, hreturnMore⟩ := hreturn
  have hstopReturn : stop ≠ '\r' := by
    rintro rfl
    exact hreturnMore List.mem_cons_self
  have hpass : ∀ l ∈ Letter.ofText o word, p l.char = true := by
    intro l hl
    apply hword
    rw [← map_char_ofText hreturnWord o]
    exact List.mem_map_of_mem hl
  rw [ofText_append hreturnWord, ofText_cons hstopReturn, List.takeWhile_append_of_pos hpass,
    List.dropWhile_append_of_pos hpass]
  simp [hstop]

/-! ### Words and numbers -/

/-- A text whose characters are all of the alphabet of the lines. -/
def Plain (text : List Char) : Prop := text ⊆ alphabet

lemma plain_tail {c : Char} {text : List Char} (h : Plain (c :: text)) : Plain text :=
  (List.cons_subset.mp h).2

lemma plain_right {a b : List Char} (h : Plain (a ++ b)) : Plain b :=
  (List.append_subset.mp h).2

lemma no_return_of_plain {text : List Char} (h : Plain text) : '\r' ∉ text := by
  intro hmem
  exact absurd (h hmem) (by decide)

lemma no_quote_of_plain {text : List Char} (h : Plain text) : ∀ c ∈ text, isQuote c = false := by
  have hall : alphabet.all (fun c => !isQuote c) = true := by decide
  intro c hc
  simpa using alphabet_all hall h c hc

/-- Where no quote is near, no string begins. -/
lemma stringNext_eq_none {text : List Char} (h : Plain text) (o : Nat) :
    stringNext? (Letter.ofText o text) = none := by
  have hquote : ∀ c ∈ text.take 3, isQuote c = false :=
    fun c hc => no_quote_of_plain h c (List.mem_of_mem_take hc)
  rw [stringNext?, ahead_ofText (no_return_of_plain h)]
  match htake : text.take 3 with
  | [] => rfl
  | [a] => rfl
  | a :: b :: rest =>
    rw [htake] at hquote
    have hb : isQuote b = false := hquote b (by simp)
    have hrest : rest.any isQuote = false := by
      rw [List.any_eq_false]
      intro c hc
      simp [hquote c (by simp [hc])]
    dsimp only
    rw [hb, hrest]
    simp

lemma ofSpelling_name (x : PlainName) : Keyword.ofSpelling? x.id = none := by
  rw [Keyword.ofSpelling?, List.find?_eq_none]
  intro k _
  simpa [PlainName.id, PlainName.chars] using x.unreserved k

/-- A word that is no keyword is a name. -/
lemma takeWord_eq_name {text : List Letter} {id : String}
    (hid : String.ofList
      ((text.takeWhile fun l => Identifier.isContinue l.char).map Letter.char) = id)
    (hword : Keyword.ofSpelling? id = none) :
    takeWord text = (.name id, text.dropWhile fun l => Identifier.isContinue l.char) := by
  rw [takeWord, hid, hword]

lemma takeToken_name (x : PlainName) {stop : Char} {more : List Char}
    (hplain : Plain (x.chars ++ stop :: more)) (hstop : Identifier.isContinue stop = false)
    (finish o : Nat) :
    takeToken finish (Letter.ofText o (x.chars ++ stop :: more)) =
      .ok (.name x.id, Letter.ofText (o + width x.chars) (stop :: more)) := by
  have hreturn := no_return_of_plain hplain
  have hstart : Identifier.isStart x.first = true := by
    have hall : lowers.all Identifier.isStart = true := by decide
    exact List.all_eq_true.mp hall _ (first_mem_lowers x)
  have hcontinue : ∀ c ∈ x.chars, Identifier.isContinue c = true := by
    have hall : wordChars.all Identifier.isContinue = true := by decide
    exact fun c hc => List.all_eq_true.mp hall c (name_subset_wordChars x hc)
  have hword : '\r' ∉ x.chars := fun hmem => hreturn (List.mem_append_left _ hmem)
  obtain ⟨htake, hdrop⟩ := span_ofText hcontinue hstop hreturn o
  have hnext := stringNext_eq_none hplain o
  have htaken : takeWord (Letter.ofText o (x.chars ++ stop :: more)) =
      (.name x.id, Letter.ofText (o + width x.chars) (stop :: more)) := by
    have hid : String.ofList (((Letter.ofText o (x.chars ++ stop :: more)).takeWhile fun l =>
        Identifier.isContinue l.char).map Letter.char) = x.id := by
      rw [htake, map_char_ofText hword, PlainName.id]
    rw [takeWord_eq_name hid (ofSpelling_name x), hdrop]
  rw [PlainName.chars, List.cons_append] at *
  have hfirst : x.first ≠ '\r' := by
    rintro heq
    exact hreturn (by simp [heq])
  rw [ofText_cons hfirst] at *
  rw [takeToken, if_pos hstart, hnext, htaken]

lemma takeDigits_ofText {digits : List Char} (hdigits : digits ⊆ decimals) {stop : Char}
    (hstop : digit? 10 stop = none) (hunderscore : stop ≠ '_') {more : List Char}
    (hplain : Plain (digits ++ stop :: more)) (o : Nat) :
    takeDigits 10 (Letter.ofText o (digits ++ stop :: more)) =
      (digits.map (fun c => c.toNat - '0'.toNat),
        Letter.ofText (o + width digits) (stop :: more)) := by
  induction digits generalizing o with
  | nil =>
    have hreturn : stop ≠ '\r' := by
      rintro rfl
      exact no_return_of_plain hplain (by simp)
    rw [List.nil_append, ofText_cons hreturn, takeDigits, hstop]
    dsimp only
    rw [if_neg (fun h => hunderscore h.1), width, Nat.add_zero, ofText_cons hreturn]
    rfl
  | cons c digits ih =>
    obtain ⟨hc, hrest⟩ := List.cons_subset.mp hdigits
    have hvalue : digit? 10 c = some (c.toNat - '0'.toNat) := by
      have hall : decimals.all (fun c => digit? 10 c == some (c.toNat - '0'.toNat)) = true := by
        decide
      simpa using List.all_eq_true.mp hall c hc
    have hreturn : c ≠ '\r' := by
      rintro rfl
      exact no_return_of_plain hplain (by simp)
    rw [List.cons_append, ofText_cons hreturn, takeDigits, hvalue]
    dsimp only
    rw [ih hrest (plain_tail hplain), width, List.map_cons, Nat.add_assoc]

/-- The characters that stand after a piece of a line: a blank or the end of the line. -/
def EndsPiece (stop : Char) : Prop := stop = ' ' ∨ stop = '\n'

lemma takeNumber_eq_takeDecimal (n : Numeral) {stop : Char} (hstop : EndsPiece stop)
    {more : List Char} (hplain : Plain (n.chars ++ stop :: more)) (finish o : Nat) :
    takeNumber finish (Letter.ofText o (n.chars ++ stop :: more)) =
      takeDecimal finish (Letter.ofText o (n.chars ++ stop :: more)) := by
  obtain ⟨second, hsecond, hahead⟩ : ∃ second, second ∈ decimals ++ [' ', '\n'] ∧
      Letter.ahead 2 (Letter.ofText o (n.chars ++ stop :: more)) = [n.first, second] := by
    rw [ahead_ofText (no_return_of_plain hplain), Numeral.chars]
    cases hrest : n.rest with
    | nil =>
      refine ⟨stop, ?_, rfl⟩
      rcases hstop with rfl | rfl <;> decide
    | cons c rest =>
      refine ⟨c, List.mem_append_left _ ?_, rfl⟩
      exact number_subset_decimals n (by simp [Numeral.chars, hrest])
  rw [takeNumber, hahead]
  split <;> simp_all [decimals]

lemma takeDecimal_number (n : Numeral) {stop : Char} (hstop : EndsPiece stop) {more : List Char}
    (hplain : Plain (n.chars ++ stop :: more)) (finish o : Nat) :
    takeDecimal finish (Letter.ofText o (n.chars ++ stop :: more)) =
      .ok (.integer n.value, Letter.ofText (o + width n.chars) (stop :: more)) := by
  have hdigit : digit? 10 stop = none := by rcases hstop with rfl | rfl <;> rfl
  have hunderscore : stop ≠ '_' := by rcases hstop with rfl | rfl <;> decide
  have hreturn := no_return_of_plain (plain_right hplain)
  have hstopReturn : stop ≠ '\r' := by rcases hstop with rfl | rfl <;> decide
  have hpoint : ¬ (Letter.ahead 1 (Letter.ofText (o + width n.chars) (stop :: more)) = ['.'] ∨
      exponentNext (Letter.ofText (o + width n.chars) (stop :: more)) = true) := by
    rw [exponentNext, ahead_ofText hreturn, ahead_ofText hreturn]
    rcases hstop with rfl | rfl <;> simp
  have hunit : afterEither? 'j' 'J' (Letter.ofText (o + width n.chars) (stop :: more)) = none := by
    rw [ofText_cons hstopReturn, afterEither?]
    rcases hstop with rfl | rfl <;> rfl
  -- A zero in front stands alone.
  have hzero : ¬ ((n.chars.map fun c => c.toNat - '0'.toNat).head? = some 0 ∧
      valueOf 10 (n.chars.map fun c => c.toNat - '0'.toNat) ≠ 0) := by
    rintro ⟨hhead, hvalue⟩
    have hfirst : n.first = '0' := by
      have hall : decimals.all (fun c => (c.toNat - '0'.toNat != 0) || c == '0') = true := by decide
      have hdecimal := List.all_eq_true.mp hall n.first
        (number_subset_decimals n (by simp [Numeral.chars]))
      simp only [Numeral.chars, List.map_cons, List.head?_cons, Option.some.injEq] at hhead
      rw [hhead] at hdecimal
      simpa using hdecimal
    simp [Numeral.chars, n.no_leading_zero hfirst, hfirst, valueOf] at hvalue
  rw [takeDecimal, takeDigits_ofText (number_subset_decimals n) hdigit hunderscore hplain]
  dsimp only
  rw [if_neg hpoint, hunit]
  dsimp only
  rw [if_neg hzero]
  rfl

lemma takeToken_number (n : Numeral) {stop : Char} (hstop : EndsPiece stop) {more : List Char}
    (hplain : Plain (n.chars ++ stop :: more)) (finish o : Nat) :
    takeToken finish (Letter.ofText o (n.chars ++ stop :: more)) =
      .ok (.integer n.value, Letter.ofText (o + width n.chars) (stop :: more)) := by
  have hfirst : n.first ∈ decimals := number_subset_decimals n (by simp [Numeral.chars])
  have hdigit : n.first.isDigit = true := n.digits n.first (by simp)
  have hword : ¬ Identifier.isStart n.first = true := by
    have hall : decimals.all (fun c => !Identifier.isStart c) = true := by decide
    simpa using List.all_eq_true.mp hall _ hfirst
  have hemoji : ¬ Identifier.isEmoji n.first = true := by
    have hall : decimals.all (fun c => !Identifier.isEmoji c) = true := by decide
    simpa using List.all_eq_true.mp hall _ hfirst
  rw [← takeDecimal_number n hstop hplain finish o, ← takeNumber_eq_takeDecimal n hstop hplain]
  have hreturn : n.first ≠ '\r' := by
    rintro heq
    rw [heq] at hdigit
    cases hdigit
  rw [Numeral.chars, List.cons_append, ofText_cons hreturn, takeToken, if_neg hword, if_neg hemoji,
    if_pos (Or.inl hdigit)]

/-! ### Signs -/

/-- No sign has a blank or the end of a line in it. -/
lemma ofSpelling_eq_none {stop : Char} (hstop : EndsPiece stop) {chars : List Char}
    (h : stop ∈ chars) : Sign.ofSpelling? (String.ofList chars) = none := by
  have hall : Sign.all.all (fun s => !s.spelling.toList.contains ' ' &&
      !s.spelling.toList.contains '\n') = true := by decide
  rw [Sign.ofSpelling?, List.find?_eq_none]
  intro s hs
  have hclean := List.all_eq_true.mp hall s hs
  simp only [beq_iff_eq]
  intro heq
  rw [heq, String.toList_ofList] at hclean
  rcases hstop with rfl | rfl <;> simp_all

/-- The two signs of the lines, with their characters. -/
inductive LineSign : Char → Sign → Prop
  | equal : LineSign '=' .equal
  | plus : LineSign '+' .plus

lemma takeToken_sign {c : Char} {sign : Sign} (hsign : LineSign c sign) {stop : Char}
    (hstop : EndsPiece stop) {more : List Char} (hplain : Plain (c :: stop :: more))
    (finish o : Nat) :
    takeToken finish (Letter.ofText o (c :: stop :: more)) =
      .ok (.sign sign, Letter.ofText (o + 1) (stop :: more)) := by
  have hreturn := no_return_of_plain hplain
  have hc : c ≠ '\r' := by cases hsign <;> decide
  have hthree : Sign.ofSpelling? (String.ofList ((c :: stop :: more).take 3)) = none :=
    ofSpelling_eq_none hstop (by simp)
  have htwo : Sign.ofSpelling? (String.ofList ((c :: stop :: more).take 2)) = none :=
    ofSpelling_eq_none hstop (by simp)
  have hone : Sign.ofSpelling? (String.ofList ((c :: stop :: more).take 1)) = some sign := by
    rw [List.take_succ_cons, List.take_zero]
    cases hsign <;> decide
  have htaken : takeSign (Letter.ofText o (c :: stop :: more)) =
      some (.sign sign, Letter.ofText (o + 1) (stop :: more)) := by
    simp only [takeSign, List.findSome?, ahead_ofText hreturn, hthree, htwo, hone]
    rw [ofText_cons hc]
    cases hsign <;> rfl
  rw [ofText_cons hc] at *
  rw [takeToken, htaken]
  cases hsign <;> simp [Identifier.isStart, Identifier.isEmoji, isQuote]

end SyntaxCheck.Proofs
