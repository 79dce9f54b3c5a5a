import Mathlib.Tactic
import SyntaxCheck.Proofs.LexedPieces

/-!
# The tokens of lines

What the lexer makes of a text of assignment lines. It reads piece by piece, and each piece takes at
least one letter, so the steps that the lexer is given never run out. A line takes it from where
that line starts to where the next one starts.
-/

namespace SyntaxCheck.Proofs

open Lexer Location

/-! ### Steps -/

/-- From one state to another the lexer reads these tokens, in steps that each take a letter. -/
inductive Reads (finish : Nat) : State → List Lexeme → State → Prop
  | done (s : State) : Reads finish s [] s
  | step {s t u : State} {tokens more : List Lexeme} (next : next finish s = .ok (tokens, some t))
      (shorter : t.text.length < s.text.length) (rest : Reads finish t more u) :
      Reads finish s (tokens ++ more) u

variable {finish : Nat}

lemma reads_trans {s t u : State} {tokens more : List Lexeme} (h : Reads finish s tokens t)
    (hmore : Reads finish t more u) : Reads finish s (tokens ++ more) u := by
  induction h with
  | done s => exact hmore
  | step next shorter rest ih =>
    rw [List.append_assoc]
    exact .step next shorter (ih hmore)

/-- With more steps than letters the lexer gets through, and has more steps than letters left. -/
lemma run_of_reads {s t : State} {tokens : List Lexeme} (h : Reads finish s tokens t) {fuel : Nat}
    (hfuel : s.text.length < fuel) :
    ∃ left, t.text.length < left ∧
      run finish fuel s = ⟨tokens ++ (run finish left t).lexemes, (run finish left t).fault⟩ := by
  induction h generalizing fuel with
  | done s => exact ⟨fuel, hfuel, rfl⟩
  | step next shorter rest ih =>
    obtain ⟨n, rfl⟩ : ∃ n, fuel = n + 1 := ⟨fuel - 1, by omega⟩
    obtain ⟨left, hleft, hrun⟩ := @ih n (by omega)
    refine ⟨left, hleft, ?_⟩
    rw [run, next]
    dsimp only
    rw [hrun, List.append_assoc]

/-- The lexer outside brackets and blocks, before a text that begins at an offset. -/
def outside (lineStart : Bool) (o : Nat) (text : List Char) : State :=
  ⟨Letter.ofText o text, [], 0, lineStart⟩

/-- The characters that begin a word or a sign, not a blank, a comment or the end of a line. -/
def BeginsToken (c : Char) : Prop := c ∈ wordChars ++ ['=', '+']

lemma beginLine_token {c : Char} (hc : BeginsToken c) (o : Nat) (rest : List Char) :
    beginLine finish (outside true o (c :: rest)) = .ok ([], outside false o (c :: rest)) := by
  have hall : (wordChars ++ ['=', '+']).all (fun c => c != '\r' && c != '\n' && c != ' ' &&
      c != '\t' && c != '#' && c != '\x0c') = true := by decide
  have hother := List.all_eq_true.mp hall c hc
  simp only [Bool.and_eq_true, bne_iff_ne, ne_eq] at hother
  obtain ⟨⟨⟨⟨⟨hreturn, hnewline⟩, hspace⟩, htab⟩, hcomment⟩, hfeed⟩ := hother
  simp only [outside, ofText_cons hreturn]
  simp [beginLine, Lexer.measure, hnewline, hspace, htab, hcomment, hfeed, bind, Except.bind,
    Indentation.compare?, pure, Except.pure]

lemma step_token {c : Char} (hc : BeginsToken c) {o : Nat} {rest : List Char} {token : Token}
    {after : List Letter}
    (htoken : takeToken finish (Letter.ofText o (c :: rest)) = .ok (token, after))
    (hdepth : ∀ stop, depthAfter token stop 0 = .ok 0) (lineStart : Bool) :
    step finish (outside lineStart o (c :: rest)) =
      .ok ([⟨o, token, Letter.offset finish after⟩], some ⟨after, [], 0, lineStart⟩) := by
  have hall : (wordChars ++ ['=', '+']).all (fun c => c != '\r' && c != '\n' &&
      !Lexer.isBlank c && c != '#' && c != '\\') = true := by decide
  have hother := List.all_eq_true.mp hall c hc
  simp only [Bool.and_eq_true, bne_iff_ne, ne_eq, Bool.not_eq_true'] at hother
  obtain ⟨⟨⟨⟨hreturn, hnewline⟩, hblank⟩, hcomment⟩, hbackslash⟩ := hother
  rw [ofText_cons hreturn] at htoken
  simp only [outside, ofText_cons hreturn]
  simp [step, hnewline, hblank, hcomment, hbackslash, htoken, hdepth, bind, Except.bind, pure,
    Except.pure]

lemma next_token {c : Char} (hc : BeginsToken c) {o : Nat} {rest : List Char} {token : Token}
    {after : List Letter}
    (htoken : takeToken finish (Letter.ofText o (c :: rest)) = .ok (token, after))
    (hdepth : ∀ stop, depthAfter token stop 0 = .ok 0) (lineStart : Bool) :
    next finish (outside lineStart o (c :: rest)) =
      .ok ([⟨o, token, Letter.offset finish after⟩], some ⟨after, [], 0, false⟩) := by
  have hstep := step_token hc htoken hdepth false
  cases lineStart with
  | false => exact hstep
  | true =>
    have hbegin : beginLine finish _ = _ := beginLine_token hc o rest
    rw [next, if_pos (show (outside true o (c :: rest)).lineStart = true from rfl), hbegin]
    simp [bind, Except.bind, hstep, pure, Except.pure]

/-! ### Pieces -/

lemma reads_token {c : Char} (hc : BeginsToken c) {o o' : Nat} {rest after : List Char}
    {token : Token} {stop : Char}
    (htoken : takeToken finish (Letter.ofText o (c :: rest)) =
      .ok (token, Letter.ofText o' (stop :: after)))
    (hdepth : ∀ stop, depthAfter token stop 0 = .ok 0) (hplain : Plain (c :: rest))
    (hafter : Plain (stop :: after)) (hshorter : after.length < rest.length) (lineStart : Bool) :
    Reads finish (outside lineStart o (c :: rest)) [⟨o, token, o'⟩]
      (outside false o' (stop :: after)) := by
  have hnext := next_token hc htoken hdepth lineStart
  have hstop : stop ≠ '\r' := by
    rintro rfl
    exact no_return_of_plain hafter (by simp)
  rw [offset_ofText_cons hstop] at hnext
  refine .step hnext ?_ (.done _)
  rw [outside, length_ofText (no_return_of_plain hafter),
    length_ofText (no_return_of_plain hplain), List.length_cons, List.length_cons]
  omega

/-- A name where it begins. -/
def nameLexeme (x : PlainName) (o : Nat) : Lexeme := ⟨o, .name x.id, o + width x.chars⟩

/-- A number where it begins. -/
def numberLexeme (n : Numeral) (o : Nat) : Lexeme := ⟨o, .integer n.value, o + width n.chars⟩

/-- A sign of one character where it stands. -/
def signLexeme (sign : Sign) (o : Nat) : Lexeme := ⟨o, .sign sign, o + 1⟩

/-- The end of a line where it stands. -/
def newlineLexeme (o : Nat) : Lexeme := ⟨o, .newline, o + 1⟩

section Pieces

variable (finish : Nat)

lemma reads_name (x : PlainName) {stop : Char} (hstop : EndsPiece stop) {more : List Char} (o : Nat)
    (hplain : Plain (x.chars ++ stop :: more)) (lineStart : Bool) :
    Reads finish (outside lineStart o (x.chars ++ stop :: more)) [nameLexeme x o]
      (outside false (o + width x.chars) (stop :: more)) := by
  have hcontinue : Identifier.isContinue stop = false := by rcases hstop with rfl | rfl <;> rfl
  have htoken := takeToken_name x hplain hcontinue finish o
  have hbegins : BeginsToken x.first :=
    List.mem_append_left _ (name_subset_wordChars x List.mem_cons_self)
  refine reads_token hbegins htoken (fun _ => rfl) hplain (plain_right hplain) ?_ lineStart
  change more.length < (x.rest ++ stop :: more).length
  rw [List.length_append, List.length_cons]
  omega

lemma reads_number (n : Numeral) {stop : Char} (hstop : EndsPiece stop) {more : List Char} (o : Nat)
    (hplain : Plain (n.chars ++ stop :: more)) (lineStart : Bool) :
    Reads finish (outside lineStart o (n.chars ++ stop :: more)) [numberLexeme n o]
      (outside false (o + width n.chars) (stop :: more)) := by
  have htoken := takeToken_number n hstop hplain finish o
  have hbegins : BeginsToken n.first :=
    List.mem_append_left _
      (decimals_subset_wordChars (number_subset_decimals n List.mem_cons_self))
  refine reads_token hbegins htoken (fun _ => rfl) hplain (plain_right hplain) ?_ lineStart
  change more.length < (n.rest ++ stop :: more).length
  rw [List.length_append, List.length_cons]
  omega

lemma reads_sign {c : Char} {sign : Sign} (hsign : LineSign c sign) {stop : Char}
    (hstop : EndsPiece stop) {more : List Char} (o : Nat) (hplain : Plain (c :: stop :: more)) :
    Reads finish (outside false o (c :: stop :: more)) [signLexeme sign o]
      (outside false (o + 1) (stop :: more)) := by
  have htoken := takeToken_sign hsign hstop hplain finish o
  have hbegins : BeginsToken c := by
    unfold BeginsToken
    cases hsign <;> decide
  have hdepth : ∀ stop, depthAfter (.sign sign) stop 0 = .ok 0 := by
    intro stop
    cases hsign <;> rfl
  exact reads_token hbegins htoken hdepth hplain (plain_tail hplain) (by simp) false

lemma reads_blank (o : Nat) (more : List Char) :
    Reads finish (outside false o (' ' :: more)) [] (outside false (o + 1) more) := by
  have hnext : next finish (outside false o (' ' :: more)) =
      .ok ([], some (outside false (o + 1) more)) := by
    rw [outside, ofText_cons (by decide)]
    rfl
  have hshorter : (outside false (o + 1) more).text.length <
      (outside false o (' ' :: more)).text.length := by
    rw [outside, outside, ofText_cons (by decide)]
    exact Nat.lt_succ_self _
  exact .step hnext hshorter (.done _)

lemma reads_newline (o : Nat) (more : List Char) :
    Reads finish (outside false o ('\n' :: more)) [newlineLexeme o]
      (outside true (o + 1) more) := by
  have hnext : next finish (outside false o ('\n' :: more)) =
      .ok ([newlineLexeme o], some (outside true (o + 1) more)) := by
    rw [outside, ofText_cons (by decide)]
    rfl
  have hshorter : (outside true (o + 1) more).text.length <
      (outside false o ('\n' :: more)).text.length := by
    rw [outside, outside, ofText_cons (by decide)]
    exact Nat.lt_succ_self _
  exact .step hnext hshorter (.done _)

/-- The equals sign in the middle of a line, with the blanks around it. -/
lemma reads_equal (o : Nat) {more : List Char} (hplain : Plain (' ' :: '=' :: ' ' :: more)) :
    Reads finish (outside false o (' ' :: '=' :: ' ' :: more)) [signLexeme .equal (o + 1)]
      (outside false (o + 3) more) := by
  have hsign := reads_sign finish .equal (.inl rfl) (o + 1) (plain_tail hplain)
  exact reads_trans (reads_blank finish o _) (reads_trans hsign (reads_blank finish (o + 2) more))

end Pieces

/-! ### Lines -/

/-- The tokens of a line that begins at an offset. -/
def lexemesOfLine (l : AssignmentLine) (o : Nat) : List Lexeme :=
  match l.kind with
  | .good =>
    let p := o + width l.name.chars
    [nameLexeme l.name o, signLexeme .equal (p + 1), numberLexeme l.number (p + 3),
      newlineLexeme (p + 3 + width l.number.chars)]
  | .badTarget =>
    let p := o + width l.number.chars
    [numberLexeme l.number o, signLexeme .equal (p + 1), nameLexeme l.name (p + 3),
      newlineLexeme (p + 3 + width l.name.chars)]
  | .dangling =>
    let p := o + width l.name.chars
    let q := p + 3 + width l.number.chars
    [nameLexeme l.name o, signLexeme .equal (p + 1), numberLexeme l.number (p + 3),
      signLexeme .plus (q + 1), newlineLexeme (q + 2)]

/-- The tokens of lines. -/
def lexemesOf : Nat → List AssignmentLine → List Lexeme
  | _, [] => []
  | o, l :: rest => lexemesOfLine l o ++ lexemesOf (o + width l.text + 1) rest

lemma width_blank (rest : List Char) : width (' ' :: rest) = width rest + 1 := by
  rw [width, Nat.add_comm]
  rfl

lemma width_equal (rest : List Char) : width ('=' :: rest) = width rest + 1 := by
  rw [width, Nat.add_comm]
  rfl

lemma width_assignment (a b : List Char) :
    width (a ++ ' ' :: '=' :: ' ' :: b) = width a + 3 + width b := by
  rw [width_append, width_blank, width_equal, width_blank]
  omega

lemma width_text (l : AssignmentLine) :
    width l.text =
      match l.kind with
      | .good => width l.name.chars + 3 + width l.number.chars
      | .badTarget => width l.number.chars + 3 + width l.name.chars
      | .dangling => width l.name.chars + 3 + width l.number.chars + 2 := by
  unfold AssignmentLine.text
  cases l.kind with
  | good => exact width_assignment _ _
  | badTarget => exact width_assignment _ _
  | dangling =>
    dsimp only
    rw [width_assignment, width_append, ← Nat.add_assoc]
    rfl

lemma add_width_textOf_cons (o : Nat) (l : AssignmentLine) (rest : List AssignmentLine) :
    o + width (textOf (l :: rest)) = o + width l.text + 1 + width (textOf rest) := by
  have hnewline : width ('\n' :: textOf rest) = 1 + width (textOf rest) := rfl
  rw [textOf, width_append, hnewline]
  omega

/-- What stands after the sign in the middle of a line is of the alphabet if the line is. -/
lemma plain_after_equal {a b : List Char} (h : Plain (a ++ ' ' :: '=' :: ' ' :: b)) : Plain b :=
  plain_tail (plain_tail (plain_tail (plain_right h)))

section Texts

variable (finish : Nat)

lemma reads_assignment (x : PlainName) (n : Numeral) {stop : Char} (hstop : EndsPiece stop)
    {more : List Char} (o : Nat)
    (hplain : Plain (x.chars ++ ' ' :: '=' :: ' ' :: (n.chars ++ stop :: more))) :
    Reads finish (outside true o (x.chars ++ ' ' :: '=' :: ' ' :: (n.chars ++ stop :: more)))
      [nameLexeme x o, signLexeme .equal (o + width x.chars + 1),
        numberLexeme n (o + width x.chars + 3)]
      (outside false (o + width x.chars + 3 + width n.chars) (stop :: more)) := by
  have hname := reads_name finish x (.inl rfl) o hplain true
  have hequal := reads_equal finish (o + width x.chars) (plain_right hplain)
  have hnumber := reads_number finish n hstop (o + width x.chars + 3) (plain_after_equal hplain)
    false
  exact reads_trans hname (reads_trans hequal hnumber)

lemma reads_line (l : AssignmentLine) (more : List Char) (o : Nat)
    (hplain : Plain (l.text ++ '\n' :: more)) :
    Reads finish (outside true o (l.text ++ '\n' :: more)) (lexemesOfLine l o)
      (outside true (o + width l.text + 1) more) := by
  rw [width_text]
  unfold AssignmentLine.text lexemesOfLine at *
  cases hkind : l.kind with
  | good =>
    simp only [hkind, List.append_assoc, List.cons_append] at hplain ⊢
    have hassignment := reads_assignment finish l.name l.number (.inr rfl) o hplain
    have hend := reads_newline finish (o + width l.name.chars + 3 + width l.number.chars) more
    rw [← Nat.add_assoc, ← Nat.add_assoc]
    exact reads_trans hassignment hend
  | badTarget =>
    simp only [hkind, List.append_assoc, List.cons_append] at hplain ⊢
    have hnumber := reads_number finish l.number (.inl rfl) o hplain true
    have hequal := reads_equal finish (o + width l.number.chars) (plain_right hplain)
    have hname := reads_name finish l.name (.inr rfl) (o + width l.number.chars + 3)
      (plain_after_equal hplain) false
    have hend := reads_newline finish (o + width l.number.chars + 3 + width l.name.chars) more
    rw [← Nat.add_assoc, ← Nat.add_assoc]
    exact reads_trans hnumber (reads_trans hequal (reads_trans hname hend))
  | dangling =>
    simp only [hkind, List.append_assoc, List.cons_append, List.nil_append] at hplain ⊢
    have hassignment := reads_assignment finish l.name l.number (.inl rfl) o hplain
    rw [← Nat.add_assoc, ← Nat.add_assoc, ← Nat.add_assoc]
    generalize o + width l.name.chars + 3 + width l.number.chars = q at hassignment ⊢
    have hblank := reads_blank finish q ('+' :: '\n' :: more)
    have hplus := reads_sign finish .plus (.inr rfl) (q + 1)
      (plain_tail (plain_right (plain_after_equal hplain)))
    have hend := reads_newline finish (q + 2) more
    exact reads_trans hassignment (reads_trans hblank (reads_trans hplus hend))

lemma reads_lines (lines : List AssignmentLine) (o : Nat) :
    Reads finish (outside true o (textOf lines)) (lexemesOf o lines)
      (outside true (o + width (textOf lines)) []) := by
  induction lines generalizing o with
  | nil => exact .done _
  | cons l rest ih =>
    have hline := reads_line finish l (textOf rest) o (textOf_subset_alphabet (l :: rest))
    rw [add_width_textOf_cons]
    exact reads_trans hline (ih _)

end Texts

/-! ### The whole text -/

lemma run_end (finish fuel o : Nat) : run finish (fuel + 1) (outside true o []) = ⟨[], none⟩ := rfl

/-- The lexer reads the tokens of the lines and meets no fault. -/
theorem lex_textOf (lines : List AssignmentLine) :
    lex 0 (textOf lines) = ⟨lexemesOf 0 lines, none⟩ := by
  have hplain := textOf_subset_alphabet lines
  have hstart : lex 0 (textOf lines) = run (0 + width (textOf lines))
      ((outside true 0 (textOf lines)).text.length + 1) (outside true 0 (textOf lines)) := by
    rw [lex, outside]
    cases hletters : Letter.ofText 0 (textOf lines) with
    | nil => rfl
    | cons l rest =>
      have hchar : l.char ∈ textOf lines := by
        rw [← map_char_ofText (no_return_of_plain hplain) 0, hletters]
        exact List.mem_cons_self
      have hmark : l.char ≠ '\ufeff' := by
        intro heq
        exact absurd (heq ▸ hplain hchar) (by decide)
      dsimp only
      rw [if_neg hmark]
  obtain ⟨left, hleft, hrun⟩ :=
    run_of_reads (reads_lines (0 + width (textOf lines)) lines 0) (Nat.lt_succ_self _)
  obtain ⟨n, rfl⟩ : ∃ n, left = n + 1 := ⟨left - 1, by omega⟩
  rw [run_end, List.append_nil] at hrun
  rw [hstart]
  exact hrun

end SyntaxCheck.Proofs
