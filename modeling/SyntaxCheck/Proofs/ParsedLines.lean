import Mathlib.Tactic
import SyntaxCheck.Grammar.Statement
import SyntaxCheck.Proofs.LexedLines
import SyntaxCheck.Proofs.ParserLayers

/-!
# The statements of lines

What the parser makes of the tokens of assignment lines: a statement for each line up to the first
one that breaks off. There it refuses the end of the line, as an operand is wanted.
-/

namespace SyntaxCheck.Proofs

open SyntaxCheck.Parser SyntaxCheck.Grammar Location

variable {fault : Option Diagnosis} {last : Nat} {rest : List Lexeme}

/-! ### Operands -/

/-- The expression that a token is by itself. -/
inductive AtomAt : Lexeme → Expr → Prop
  | name (x : PlainName) (o : Nat) : AtomAt (nameLexeme x o) (.name o x.id)
  | number (n : Numeral) (o : Nat) : AtomAt (numberLexeme n o) (.literal o .number)

lemma plainStart_of_atomAt {l : Lexeme} {e : Expr} (h : AtomAt l e) :
    PlainStart (nextToken ⟨l :: rest, fault, last⟩) := by
  cases h with
  | name x o => exact .name x.id
  | number n o => exact .integer n.value

lemma stopsAt_error {α : Type} (ends : Option Token → Prop) (d : Diagnosis) :
    StopsAt ends (.error d : Except Diagnosis (α × Feed)) := by
  intro a feed' h
  cases h

lemma stopsAt_ok {α : Type} {ends : Option Token → Prop} {a : α} {feed : Feed}
    (h : ends (nextToken feed)) : StopsAt ends (.ok (a, feed)) := by
  intro b feed' heq
  obtain ⟨rfl, rfl⟩ : a = b ∧ feed = feed' := by simpa using heq
  exact h

/-! ### Lines -/

/-- The statement that a line is which begins at an offset, or why it is none. -/
def stmtOf (l : AssignmentLine) (o : Nat) : Except Diagnosis Stmt :=
  match l.kind with
  | .good => .ok (.assign [.name o l.name.id] (.literal (o + width l.name.chars + 3) .number))
  | .badTarget =>
    .ok (.assign [.literal o .number] (.name (o + width l.number.chars + 3) l.name.id))
  | .dangling => .error ⟨.unexpectedToken .newline, o + width l.text⟩

/-- The statements that lines are, up to the first that is none. -/
def stmtsOf : Nat → List AssignmentLine → Except Diagnosis (List Stmt)
  | _, [] => .ok []
  | o, l :: rest =>
    match stmtOf l o with
    | .error d => .error d
    | .ok s => (stmtsOf (o + width l.text + 1) rest).map (s :: ·)

/-- Each line begins with an operand. -/
lemma lexemesOfLine_head (l : AssignmentLine) (o : Nat) :
    ∃ first tail e, lexemesOfLine l o = first :: tail ∧ AtomAt first e := by
  unfold lexemesOfLine
  cases l.kind with
  | good => exact ⟨_, _, _, rfl, .name l.name o⟩
  | badTarget => exact ⟨_, _, _, rfl, .number l.number o⟩
  | dangling => exact ⟨_, _, _, rfl, .name l.name o⟩

lemma length_le_length_lexemesOf (lines : List AssignmentLine) (o : Nat) :
    lines.length ≤ (lexemesOf o lines).length := by
  induction lines generalizing o with
  | nil => exact Nat.le_refl _
  | cons l tail ih =>
    obtain ⟨first, others, e, hhead, -⟩ := lexemesOfLine_head l o
    have htail := ih (o + width l.text + 1)
    rw [lexemesOf, hhead, List.length_append, List.length_cons, List.length_cons]
    omega

/-- What is taken of the tokens of lines: all of them, with a statement for each line, or those up
to the first line that is no statement. -/
def takenLines (fault : Option Diagnosis) (o : Nat) (lines : List AssignmentLine) :
    Except Diagnosis (List (List Stmt) × Feed) :=
  (stmtsOf o lines).map fun body =>
    (body.map fun s => [s], ⟨[], fault, o + width (textOf lines)⟩)

lemma takenLines_error {l : AssignmentLine} {o : Nat} {d : Diagnosis} (h : stmtOf l o = .error d)
    (tail : List AssignmentLine) : takenLines fault o (l :: tail) = .error d := by
  rw [takenLines, stmtsOf, h]
  rfl

lemma takenLines_ok {l : AssignmentLine} {o : Nat} {s : Stmt} (h : stmtOf l o = .ok s)
    (tail : List AssignmentLine) :
    takenLines fault o (l :: tail) =
      (takenLines fault (o + width l.text + 1) tail).map fun r => ([s] :: r.1, r.2) := by
  rw [takenLines, takenLines, stmtsOf, h, add_width_textOf_cons]
  dsimp only
  cases stmtsOf (o + width l.text + 1) tail <;> rfl

lemma no_keyword_lexemesOf (lines : List AssignmentLine) (o : Nat) :
    ∀ l ∈ lexemesOf o lines, ∀ k, l.token ≠ .keyword k := by
  induction lines generalizing o with
  | nil => simp [lexemesOf]
  | cons line rest ih =>
    intro l hl
    rcases List.mem_append.mp hl with hl | hl
    · unfold lexemesOfLine at hl
      cases hkind : line.kind <;>
        simp only [hkind, List.mem_cons, List.not_mem_nil, or_false] at hl <;>
        rcases hl with rfl | rfl | rfl | rfl | rfl <;>
        simp [nameLexeme, numberLexeme, signLexeme, newlineLexeme]
    · exact ih _ l hl

lemma resolve_eq_self {lexemes : List Lexeme} (h : ∀ l ∈ lexemes, ∀ k, l.token ≠ .keyword k)
    (lineStart : Bool) : SoftKeyword.resolve lineStart lexemes = lexemes := by
  induction lexemes generalizing lineStart with
  | nil => rfl
  | cons l rest ih =>
    have hrest := ih fun m hm => h m (List.mem_cons_of_mem _ hm)
    have hl := h l List.mem_cons_self
    rw [SoftKeyword.resolve]
    cases htoken : l.token with
    | keyword k => exact absurd htoken (hl k)
    | _ => simp [hrest, ← htoken]

/-! ### One operand -/

variable [CharacterNames]

lemma atom_of_atomAt (R : ExpressionRules) {l : Lexeme} {e : Expr} (h : AtomAt l e) :
    atom R ⟨l :: rest, fault, last⟩ = .ok (e, ⟨rest, fault, l.stop⟩) := by
  cases h <;> rfl

lemma atom_newline (R : ExpressionRules) (o : Nat) :
    atom R ⟨newlineLexeme o :: rest, fault, last⟩ = .error ⟨.unexpectedToken .newline, o⟩ := rfl

lemma sum_of_atomAt (R : ExpressionRules) {l : Lexeme} {e : Expr} (h : AtomAt l e)
    (hnext : EndsSum (nextToken ⟨rest, fault, l.stop⟩)) :
    sum R ⟨l :: rest, fault, last⟩ = .ok (e, ⟨rest, fault, l.stop⟩) := by
  have hterm : term R ⟨l :: rest, fault, last⟩ = .ok (e, ⟨rest, fault, l.stop⟩) :=
    term_eq R (plainStart_of_atomAt h) (atom_of_atomAt R h) (stopsAt_ok (.inl hnext))
  refine leftGrouped_eq hterm (stopsAt_ok hnext) fun t ht s hs => endsSum_ne_sign ht ?_
  rintro rfl
  simp at hs

/-- A sum that breaks off after its operator is refused where its line ends. -/
lemma sum_of_dangling (R : ExpressionRules) {l : Lexeme} {e : Expr}
    (h : AtomAt l e) (p o : Nat) :
    sum R ⟨l :: signLexeme .plus p :: newlineLexeme o :: rest, fault, last⟩ =
      .error ⟨.unexpectedToken .newline, o⟩ := by
  have hterm : term R ⟨l :: signLexeme .plus p :: newlineLexeme o :: rest, fault, last⟩ =
      .ok (e, ⟨signLexeme .plus p :: newlineLexeme o :: rest, fault, l.stop⟩) :=
    term_eq R (plainStart_of_atomAt h) (atom_of_atomAt R h) (stopsAt_ok (.inr rfl))
  have hmissing : term R ⟨newlineLexeme o :: rest, fault, p + 1⟩ =
      .error ⟨.unexpectedToken .newline, o⟩ :=
    term_eq R .newline (atom_newline R o) (stopsAt_error _ _)
  rw [sum, leftGrouped, here_bind, bind_of_ok hterm]
  refine bind_of_error (many_error ?_) _
  rw [bind_of_ok (nextSatisfies_eq _ _)]
  change (skip >>= _) _ = _
  rw [bind_of_ok (skip_cons _ _ _ _)]
  exact bind_of_error hmissing _

/-! ### Assignments -/

section Statements

variable (n : Nat)

/-- Expressions may be nested, if not deeply. -/
abbrev nested (n : Nat) : ExpressionRules := ExpressionRules.upTo (n + 1)

lemma test_of_atomAt {l : Lexeme} {e : Expr} (h : AtomAt l e)
    (hnext : EndsSum (nextToken ⟨rest, fault, l.stop⟩)) :
    (nested n).test ⟨l :: rest, fault, last⟩ = .ok (e, ⟨rest, fault, l.stop⟩) :=
  test_eq (ExpressionRules.upTo n) (plainStart_of_atomAt h)
    (sum_of_atomAt (ExpressionRules.upTo n) h hnext) (stopsAt_ok hnext)

lemma assigned_eq {l : Lexeme} {e : Expr} (h : AtomAt l e)
    {outcome : Except Diagnosis (Expr × Feed)}
    (htest : (nested n).test ⟨l :: rest, fault, last⟩ = outcome) (hstop : StopsAt EndsSum outcome) :
    assigned (nested n) ⟨l :: rest, fault, last⟩ = outcome := by
  have hyield : nextToken ⟨l :: rest, fault, last⟩ ≠ some (.keyword .yieldWord) :=
    plainStart_ne_keyword (plainStart_of_atomAt h) .yieldWord
  rw [assigned, bind_of_ok (nextIs_false hyield)]
  exact testList_eq (nested n) (plainStart_of_atomAt h) htest hstop

/-- What stands on the right of the equals sign decides what becomes of the assignment. -/
lemma assignment_of_value {first : Expr} {l : Lexeme} {e : Expr} (h : AtomAt l e) (p o : Nat) :
    assignment (nested n) first
        ⟨signLexeme .equal p :: l :: newlineLexeme o :: rest, fault, last⟩ =
      .ok (.assign [first] e, ⟨newlineLexeme o :: rest, fault, l.stop⟩) := by
  have hvalue : assigned (nested n) ⟨l :: newlineLexeme o :: rest, fault, p + 1⟩ =
      .ok (e, ⟨newlineLexeme o :: rest, fault, l.stop⟩) :=
    assigned_eq n h (test_of_atomAt n h (.inl rfl)) (stopsAt_ok (.inl rfl))
  have hitem : after? (.sign .equal) (assigned (nested n))
      ⟨signLexeme .equal p :: l :: newlineLexeme o :: rest, fault, last⟩ =
      .ok (some e, ⟨newlineLexeme o :: rest, fault, l.stop⟩) := after_ok rfl hvalue
  have hend : nextToken ⟨newlineLexeme o :: rest, fault, l.stop⟩ ≠ some (.sign .equal) := by
    simp [nextToken, newlineLexeme]
  rw [assignment, bind_of_ok (many_one hitem (after_none hend _))]
  rfl

lemma assignment_of_dangling {first : Expr} {l : Lexeme} {e : Expr} (h : AtomAt l e) (p q o : Nat) :
    assignment (nested n) first
        ⟨signLexeme .equal p :: l :: signLexeme .plus q :: newlineLexeme o :: rest, fault, last⟩ =
      .error ⟨.unexpectedToken .newline, o⟩ := by
  have htest : (nested n).test
      ⟨l :: signLexeme .plus q :: newlineLexeme o :: rest, fault, p + 1⟩ =
      .error ⟨.unexpectedToken .newline, o⟩ :=
    test_eq (ExpressionRules.upTo n) (plainStart_of_atomAt h)
      (sum_of_dangling (ExpressionRules.upTo n) h q o) (stopsAt_error _ _)
  have hitem : after? (.sign .equal) (assigned (nested n))
      ⟨signLexeme .equal p :: l :: signLexeme .plus q :: newlineLexeme o :: rest, fault, last⟩ =
      .error ⟨.unexpectedToken .newline, o⟩ :=
    after_error rfl (assigned_eq n h htest (stopsAt_error _ _))
  rw [assignment, bind_of_error (many_error hitem)]

/-- A statement that begins with an operand and an equals sign is an assignment. -/
lemma smallStatement_eq_assignment {l : Lexeme} {e : Expr} (h : AtomAt l e) (p : Nat) :
    smallStatement (nested n) ⟨l :: signLexeme .equal p :: rest, fault, last⟩ =
      assignment (nested n) e ⟨signLexeme .equal p :: rest, fault, l.stop⟩ := by
  have helement : starOr (nested n) (nested n).test
      ⟨l :: signLexeme .equal p :: rest, fault, last⟩ =
      .ok (e, ⟨signLexeme .equal p :: rest, fault, l.stop⟩) := by
    rw [starOr_eq (nested n) (plainStart_of_atomAt h)]
    exact test_of_atomAt n h (.inr rfl)
  have hexpression : smallStatement (nested n) ⟨l :: signLexeme .equal p :: rest, fault, last⟩ =
      expressionStatement (nested n) ⟨l :: signLexeme .equal p :: rest, fault, last⟩ := by
    rw [smallStatement, bind_of_ok (peek_eq _)]
    cases h <;> rfl
  rw [hexpression, expressionStatement, here_bind, bind_of_ok (commaList_one helement (.inr rfl))]
  rfl

lemma simpleLine_of_value {l₁ l₂ : Lexeme} {e₁ e₂ : Expr} (h₁ : AtomAt l₁ e₁) (h₂ : AtomAt l₂ e₂)
    (p o : Nat) :
    simpleLine (nested n)
        ⟨l₁ :: signLexeme .equal p :: l₂ :: newlineLexeme o :: rest, fault, last⟩ =
      .ok ([.assign [e₁] e₂], ⟨rest, fault, o + 1⟩) := by
  have hsmall : smallStatement (nested n)
      ⟨l₁ :: signLexeme .equal p :: l₂ :: newlineLexeme o :: rest, fault, last⟩ =
      .ok (.assign [e₁] e₂, ⟨newlineLexeme o :: rest, fault, l₂.stop⟩) :=
    (smallStatement_eq_assignment n h₁ p).trans (assignment_of_value n h₂ p o)
  have hitem : (do
      if (← nextIs (.sign .semicolon)) && !(← peekSecond) == some .newline then
        skip
        return some (← smallStatement (nested n))
      else return none : Parser (Option Stmt)) ⟨newlineLexeme o :: rest, fault, l₂.stop⟩ =
      .ok (none, ⟨newlineLexeme o :: rest, fault, l₂.stop⟩) := rfl
  rw [simpleLine, bind_of_ok hsmall, bind_of_ok (many_none hitem)]
  rfl

lemma simpleLine_of_dangling {l₁ l₂ : Lexeme} {e₁ e₂ : Expr} (h₁ : AtomAt l₁ e₁)
    (h₂ : AtomAt l₂ e₂) (p q o : Nat) :
    simpleLine (nested n)
        ⟨l₁ :: signLexeme .equal p :: l₂ :: signLexeme .plus q :: newlineLexeme o :: rest, fault,
          last⟩ =
      .error ⟨.unexpectedToken .newline, o⟩ := by
  have hsmall : smallStatement (nested n)
      ⟨l₁ :: signLexeme .equal p :: l₂ :: signLexeme .plus q :: newlineLexeme o :: rest, fault,
        last⟩ =
      .error ⟨.unexpectedToken .newline, o⟩ :=
    (smallStatement_eq_assignment n h₁ p).trans (assignment_of_dangling n h₂ p q o)
  rw [simpleLine, bind_of_error hsmall]

lemma statement_eq_simpleLine (block : Parser (List Stmt)) (depth : Nat) {l : Lexeme} {e : Expr}
    (h : AtomAt l e) :
    statement (nested n) block depth ⟨l :: rest, fault, last⟩ =
      simpleLine (nested n) ⟨l :: rest, fault, last⟩ := by
  rw [statement, bind_of_ok (peek_eq _)]
  cases h <;> rfl

end Statements

/-! ### Items of a module -/

section Module

variable (n depth : Nat)

lemma simpleLine_line (l : AssignmentLine) (o : Nat) :
    simpleLine (nested n) ⟨lexemesOfLine l o ++ rest, fault, last⟩ =
      (stmtOf l o).map fun s => ([s], ⟨rest, fault, o + width l.text + 1⟩) := by
  unfold stmtOf lexemesOfLine
  rw [width_text]
  cases hkind : l.kind with
  | good =>
    dsimp only
    rw [← Nat.add_assoc, ← Nat.add_assoc]
    exact simpleLine_of_value n (.name l.name o) (.number l.number _) _ _
  | badTarget =>
    dsimp only
    rw [← Nat.add_assoc, ← Nat.add_assoc]
    exact simpleLine_of_value n (.number l.number o) (.name l.name _) _ _
  | dangling =>
    dsimp only
    rw [← Nat.add_assoc, ← Nat.add_assoc, ← Nat.add_assoc]
    exact simpleLine_of_dangling n (.name l.name o) (.number l.number _) _ _ _

/-- What a module takes at a time: the end of an empty line, or a statement. -/
def moduleItem (R : ExpressionRules) (depth : Nat) :
    Parser (Option (List Stmt)) := do
  match (← get).lexemes with
  | [] => return none
  | l :: _ =>
    if l.token = .newline then
      skip
      return some []
    else return some (← statement R (block R depth depth) depth)

lemma moduleItem_line (l : AssignmentLine) (o : Nat) :
    moduleItem (nested n) depth ⟨lexemesOfLine l o ++ rest, fault, last⟩ =
      (stmtOf l o).map fun s => (some [s], ⟨rest, fault, o + width l.text + 1⟩) := by
  have hline := @simpleLine_line fault last rest _ n l o
  obtain ⟨first, tail, e, hhead, hatom⟩ := lexemesOfLine_head l o
  rw [hhead, List.cons_append] at hline ⊢
  rw [← statement_eq_simpleLine n (block (nested n) depth depth) depth hatom] at hline
  have hitem : moduleItem (nested n) depth ⟨first :: (tail ++ rest), fault, last⟩ =
      (statement (nested n) (block (nested n) depth depth) depth >>= fun body =>
        pure (some body)) ⟨first :: (tail ++ rest), fault, last⟩ := by
    cases hatom <;> rfl
  rw [hitem]
  cases hstmt : stmtOf l o with
  | error d =>
    rw [hstmt] at hline
    exact bind_of_error hline _
  | ok s =>
    rw [hstmt] at hline
    exact bind_of_ok hline _

/-- A module is what is taken item by item, if its tokens run into no fault. -/
lemma moduleBody_eq (R : ExpressionRules) :
    ∃ finish : List (List Stmt) → Parser (List Stmt),
      moduleBody R depth = many (moduleItem R depth) >>= finish ∧
        ∀ parts last, finish parts ⟨[], none, last⟩ = .ok (parts.flatten, ⟨[], none, last⟩) :=
  ⟨_, rfl, fun _ _ => rfl⟩

lemma moduleItem_end (R : ExpressionRules) :
    moduleItem R depth ⟨[], fault, last⟩ = .ok (none, ⟨[], fault, last⟩) := rfl

/-- With more steps than lines, the steps do not run out. -/
lemma manyUpTo_lines (lines : List AssignmentLine) (o : Nat) {fuel : Nat}
    (hfuel : lines.length < fuel) :
    manyUpTo (moduleItem (nested n) depth) fuel ⟨lexemesOf o lines, fault, o⟩ =
      takenLines fault o lines := by
  induction lines generalizing o fuel with
  | nil =>
    obtain ⟨fuel, rfl⟩ : ∃ k, fuel = k + 1 := ⟨fuel - 1, by omega⟩
    exact manyUpTo_none (moduleItem_end depth (nested n)) fuel
  | cons l tail ih =>
    obtain ⟨fuel, rfl⟩ : ∃ k, fuel = k + 1 := ⟨fuel - 1, by omega⟩
    have hline := @moduleItem_line fault o (lexemesOf (o + width l.text + 1) tail) _ n depth l o
    rw [lexemesOf]
    cases hstmt : stmtOf l o with
    | error d =>
      rw [hstmt] at hline
      rw [manyUpTo_error hline fuel, takenLines_error hstmt]
    | ok s =>
      rw [hstmt] at hline
      rw [manyUpTo_some hline, ih _ (Nat.lt_of_succ_lt_succ hfuel), takenLines_ok hstmt]

lemma many_lines (lines : List AssignmentLine) (o : Nat) :
    many (moduleItem (nested n) depth) ⟨lexemesOf o lines, fault, o⟩ =
      takenLines fault o lines := by
  cases lines with
  | nil => exact many_none (moduleItem_end depth (nested n))
  | cons l tail =>
    have hline := @moduleItem_line fault o (lexemesOf (o + width l.text + 1) tail) _ n depth l o
    rw [lexemesOf]
    cases hstmt : stmtOf l o with
    | error d =>
      rw [hstmt] at hline
      rw [many_error hline, takenLines_error hstmt]
    | ok s =>
      rw [hstmt] at hline
      have hsteps := length_le_length_lexemesOf tail (o + width l.text + 1)
      rw [many_some hline, manyUpTo_lines n depth tail _ (Nat.lt_succ_of_le hsteps),
        takenLines_ok hstmt]

lemma moduleBody_lines (lines : List AssignmentLine) :
    (moduleBody (nested n) depth ⟨lexemesOf 0 lines, none, 0⟩).map (·.1) = stmtsOf 0 lines := by
  have hmany := @many_lines none _ n depth lines 0
  rw [takenLines] at hmany
  obtain ⟨finish, hbody, hfinish⟩ := moduleBody_eq depth (nested n)
  rw [hbody]
  cases hstmts : stmtsOf 0 lines with
  | error d =>
    rw [hstmts] at hmany
    rw [bind_of_error hmany]
    rfl
  | ok body =>
    rw [hstmts] at hmany
    rw [bind_of_ok hmany, hfinish, ← List.flatMap_def, List.flatMap_singleton']
    rfl

end Module

/-! ### The whole text -/

/-- The module that the text of lines is has a statement for each line, if no line breaks off. -/
theorem parseModule_textOf (lines : List AssignmentLine) :
    parseModule (textOf lines) = stmtsOf 0 lines := by
  let depth := 2 * (Letter.ofText 0 (textOf lines)).length + 1
  have hbody := moduleBody_lines depth (depth + 1) lines
  have hparse : parseModule (textOf lines) = (moduleBody (nested depth) (depth + 1)
      ⟨SoftKeyword.resolve true (lex 0 (textOf lines)).lexemes, (lex 0 (textOf lines)).fault,
        0⟩).map (·.1) := by
    rfl
  rw [hparse, lex_textOf, resolve_eq_self (no_keyword_lexemesOf lines 0), hbody]

end SyntaxCheck.Proofs
