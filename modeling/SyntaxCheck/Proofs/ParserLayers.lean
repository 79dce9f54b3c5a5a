import Mathlib.Tactic
import SyntaxCheck.Grammar.Expression

/-!
# Layers of the grammar

Most levels of the expression grammar are one operand of the level below with something optional
around it. Where nothing of it is there, the level does what its operand does, whether that is to
succeed or to fail. What follows the operand decides, so an expression of one operand goes through
all levels as it is.
-/

namespace SyntaxCheck.Proofs

open SyntaxCheck.Parser SyntaxCheck.Grammar

variable {α β : Type} {feed feed' : Feed}

/-- The token that comes next. -/
def nextToken (feed : Feed) : Option Token := feed.lexemes.head?.map (·.token)

/-! ### Sequences -/

lemma bind_of_ok {p : Parser α} {a : α} (h : p feed = .ok (a, feed')) (f : α → Parser β) :
    (p >>= f) feed = f a feed' := by
  change Except.bind (p feed) (fun r => f r.1 r.2) = _
  rw [h]
  rfl

lemma bind_of_error {p : Parser α} {d : Diagnosis} (h : p feed = .error d) (f : α → Parser β) :
    (p >>= f) feed = .error d := by
  change Except.bind (p feed) (fun r => f r.1 r.2) = _
  rw [h]
  rfl

lemma pure_eq (a : α) (feed : Feed) : (pure a : Parser α) feed = .ok (a, feed) := rfl

/-- Wherever a parser succeeds with this outcome, the token that comes next is one of these. -/
def StopsAt (ends : Option Token → Prop) (outcome : Except Diagnosis (α × Feed)) : Prop :=
  ∀ a feed', outcome = .ok (a, feed') → ends (nextToken feed')

/-- A parser that adds nothing where its operand stops has the outcome of its operand. -/
lemma bind_eq_outcome {p : Parser α} {f : α → Parser α} {outcome : Except Diagnosis (α × Feed)}
    {ends : Option Token → Prop} (hp : p feed = outcome) (hstop : StopsAt ends outcome)
    (h : ∀ a feed', ends (nextToken feed') → f a feed' = .ok (a, feed')) :
    (p >>= f) feed = outcome := by
  cases outcome with
  | error d => exact bind_of_error hp f
  | ok result =>
    obtain ⟨a, feed'⟩ := result
    rw [bind_of_ok hp, h a feed' (hstop a feed' rfl)]

/-! ### The next token -/

lemma peek_eq (feed : Feed) : peek feed = .ok (nextToken feed, feed) := rfl

lemma here_bind (f : Nat → Parser β) :
    (here >>= f) feed = f ((feed.lexemes.head?.map (·.start)).getD feed.last) feed := rfl

lemma nextIs_eq (t : Token) (feed : Feed) :
    nextIs t feed = .ok (nextToken feed == some t, feed) := rfl

lemma nextIs_false {t : Token} (h : nextToken feed ≠ some t) :
    nextIs t feed = .ok (false, feed) := by
  rw [nextIs_eq, beq_false_of_ne h]

lemma nextSatisfies_eq (p : Token → Bool) (feed : Feed) :
    nextSatisfies p feed = .ok ((nextToken feed).any p, feed) := rfl

lemma skipIf_false {t : Token} (h : nextToken feed ≠ some t) :
    skipIf t feed = .ok (false, feed) := by
  rw [skipIf, bind_of_ok (nextIs_false h)]
  rfl

lemma skip_cons (l : Lexeme) (rest : List Lexeme) (fault : Option Diagnosis) (last : Nat) :
    skip ⟨l :: rest, fault, last⟩ = .ok ((), ⟨rest, fault, l.stop⟩) := rfl

lemma skipIf_true {l : Lexeme} {t : Token} (h : l.token = t) (rest : List Lexeme)
    (fault : Option Diagnosis) (last : Nat) :
    skipIf t ⟨l :: rest, fault, last⟩ = .ok (true, ⟨rest, fault, l.stop⟩) := by
  have hnext : nextIs t ⟨l :: rest, fault, last⟩ = .ok (true, ⟨l :: rest, fault, last⟩) := by
    simp [nextIs_eq, nextToken, h]
  rw [skipIf, bind_of_ok hnext]
  rfl

/-! ### Repetition -/

lemma many_none {item? : Parser (Option α)} (h : item? feed = .ok (none, feed)) :
    many item? feed = .ok ([], feed) := by
  rw [many, bind_of_ok h]
  rfl

lemma many_error {item? : Parser (Option α)} {d : Diagnosis} (h : item? feed = .error d) :
    many item? feed = .error d := by
  rw [many, bind_of_error h]

lemma many_some {item? : Parser (Option α)} {a : α} (h : item? feed = .ok (some a, feed')) :
    many item? feed =
      (manyUpTo item? (feed'.lexemes.length + 1) feed').map fun r => (a :: r.1, r.2) := by
  have hget : (get : Parser Feed) feed' = .ok (feed', feed') := rfl
  rw [many, bind_of_ok h]
  dsimp only
  rw [bind_of_ok hget]
  cases hrest : manyUpTo item? (feed'.lexemes.length + 1) feed' with
  | error d => rw [bind_of_error hrest]; rfl
  | ok r => rw [bind_of_ok hrest]; rfl

lemma manyUpTo_some {item? : Parser (Option α)} {a : α} (h : item? feed = .ok (some a, feed'))
    (fuel : Nat) :
    manyUpTo item? (fuel + 1) feed =
      (manyUpTo item? fuel feed').map fun r => (a :: r.1, r.2) := by
  rw [manyUpTo, bind_of_ok h]
  dsimp only
  cases hrest : manyUpTo item? fuel feed' with
  | error d => rw [bind_of_error hrest]; rfl
  | ok r => rw [bind_of_ok hrest]; rfl

lemma manyUpTo_none {item? : Parser (Option α)} (h : item? feed = .ok (none, feed)) (fuel : Nat) :
    manyUpTo item? (fuel + 1) feed = .ok ([], feed) := by
  rw [manyUpTo, bind_of_ok h]
  rfl

lemma manyUpTo_error {item? : Parser (Option α)} {d : Diagnosis} (h : item? feed = .error d)
    (fuel : Nat) : manyUpTo item? (fuel + 1) feed = .error d := by
  rw [manyUpTo, bind_of_error h]

lemma many_one {item? : Parser (Option α)} {a : α} (h : item? feed = .ok (some a, feed'))
    (hend : item? feed' = .ok (none, feed')) : many item? feed = .ok ([a], feed') := by
  rw [many_some h, manyUpTo_none hend]
  rfl

lemma after_none {mark : Token} (h : nextToken feed ≠ some mark) (item : Parser α) :
    after? mark item feed = .ok (none, feed) := by
  rw [after?, bind_of_ok (skipIf_false h)]
  rfl

lemma after_ok {l : Lexeme} {mark : Token} (hmark : l.token = mark) {rest : List Lexeme}
    {fault : Option Diagnosis} {last : Nat} {item : Parser α} {a : α}
    (hitem : item ⟨rest, fault, l.stop⟩ = .ok (a, feed')) :
    after? mark item ⟨l :: rest, fault, last⟩ = .ok (some a, feed') := by
  rw [after?, bind_of_ok (skipIf_true hmark rest fault last)]
  change (item >>= fun a => pure (some a)) _ = _
  rw [bind_of_ok hitem, pure_eq]

lemma after_error {l : Lexeme} {mark : Token} (hmark : l.token = mark) {rest : List Lexeme}
    {fault : Option Diagnosis} {last : Nat} {item : Parser α} {d : Diagnosis}
    (hitem : item ⟨rest, fault, l.stop⟩ = .error d) :
    after? mark item ⟨l :: rest, fault, last⟩ = .error d := by
  rw [after?, bind_of_ok (skipIf_true hmark rest fault last)]
  change (item >>= fun a => pure (some a)) _ = _
  rw [bind_of_error hitem]

lemma afterComma_none (h : nextToken feed ≠ some (.sign .comma)) (starts : Token → Bool)
    (item : Parser α) : afterComma? starts item feed = .ok (none, feed) := by
  rw [afterComma?, bind_of_ok (nextIs_false h)]
  rfl

/-! ### Levels -/

section Levels

variable {outcome : Except Diagnosis (Expr × Feed)} {ends : Option Token → Prop}

lemma leftGrouped_eq {operators : List Sign} {operand : Parser Expr}
    (hoperand : operand feed = outcome) (hstop : StopsAt ends outcome)
    (hends : ∀ t, ends t → ∀ s ∈ operators, t ≠ some (.sign s)) :
    leftGrouped operators operand feed = outcome := by
  rw [leftGrouped, here_bind]
  refine bind_eq_outcome hoperand hstop fun e feed' hnext => ?_
  have hnone : (nextToken feed').any (fun t => operators.any fun s => t = .sign s) = false := by
    cases htoken : nextToken feed' with
    | none => rfl
    | some t =>
      simp only [Option.any_some, List.any_eq_false, decide_eq_true_eq]
      rintro s hs rfl
      exact hends _ hnext s hs htoken
  have hitem : (do
      if ← nextSatisfies fun t => operators.any fun s => t = .sign s then
        skip
        return some (← operand)
      else return none : Parser (Option Expr)) feed' = .ok (none, feed') := by
    rw [bind_of_ok (nextSatisfies_eq _ feed'), hnone]
    rfl
  rw [bind_of_ok (many_none hitem)]
  rfl

lemma joined_eq {word : Keyword} {operand : Parser Expr} (hoperand : operand feed = outcome)
    (hstop : StopsAt ends outcome) (hends : ∀ t, ends t → t ≠ some (.keyword word)) :
    joined word operand feed = outcome := by
  rw [joined, here_bind]
  refine bind_eq_outcome hoperand hstop fun e feed' hnext => ?_
  rw [bind_of_ok (many_none (after_none (hends _ hnext) operand))]
  rfl

/-- A token with which an operand without signs, brackets and strings begins, or none does. -/
inductive PlainStart : Option Token → Prop
  | name (id : String) : PlainStart (some (.name id))
  | integer (value : Nat) : PlainStart (some (.integer value))
  | newline : PlainStart (some .newline)

lemma plainStart_ne_sign {t : Option Token} (h : PlainStart t) (s : Sign) : t ≠ some (.sign s) := by
  cases h <;> simp

lemma plainStart_ne_keyword {t : Option Token} (h : PlainStart t) (k : Keyword) :
    t ≠ some (.keyword k) := by
  cases h <;> simp

/-- A token at which a whole expression ends. -/
def EndsSum (t : Option Token) : Prop := t = some .newline ∨ t = some (.sign .equal)

lemma endsSum_ne_keyword {t : Option Token} (h : EndsSum t) (k : Keyword) :
    t ≠ some (.keyword k) := by
  rcases h with rfl | rfl <;> simp

lemma endsSum_ne_sign {t : Option Token} (h : EndsSum t) {s : Sign} (hs : s ≠ .equal) :
    t ≠ some (.sign s) := by
  rcases h with rfl | rfl
  · simp
  · simpa using Ne.symm hs

/-- A token at which a term of a sum ends. -/
def EndsTerm (t : Option Token) : Prop := EndsSum t ∨ t = some (.sign .plus)

lemma endsTerm_ne_sign {t : Option Token} (h : EndsTerm t) {s : Sign} (hs : s ≠ .equal)
    (hplus : s ≠ .plus) : t ≠ some (.sign s) := by
  rcases h with h | rfl
  · exact endsSum_ne_sign h hs
  · simpa using Ne.symm hplus

/-! ### Lists of one -/

variable (R : ExpressionRules)

lemma starOr_eq (hfirst : PlainStart (nextToken feed)) (plain : Parser Expr) :
    starOr R plain feed = plain feed := by
  rw [starOr, here_bind, bind_of_ok (skipIf_false (plainStart_ne_sign hfirst .star))]
  rfl

lemma commaList_one {starts : Token → Bool} {item : Parser α} {a : α}
    (hitem : item feed = .ok (a, feed')) (hnext : EndsSum (nextToken feed')) :
    commaList starts item feed = .ok (([a], false), feed') := by
  have hcomma : nextToken feed' ≠ some (.sign .comma) := endsSum_ne_sign hnext (by decide)
  rw [commaList, bind_of_ok hitem, bind_of_ok (many_none (afterComma_none hcomma starts item)),
    bind_of_ok (skipIf_false hcomma)]
  rfl

lemma commaList_error {starts : Token → Bool} {item : Parser α} {d : Diagnosis}
    (hitem : item feed = .error d) : commaList starts item feed = .error d := by
  rw [commaList, bind_of_error hitem]

lemma testList_eq (hfirst : PlainStart (nextToken feed)) (htest : R.test feed = outcome)
    (hstop : StopsAt EndsSum outcome) : testList R feed = outcome := by
  have helement : starOr R R.test feed = outcome := (starOr_eq R hfirst R.test).trans htest
  rw [testList, here_bind]
  cases outcome with
  | error d => rw [bind_of_error (commaList_error helement)]
  | ok result =>
    obtain ⟨e, feed'⟩ := result
    rw [bind_of_ok (commaList_one helement (hstop e feed' rfl))]
    rfl

/-! ### One operand through the levels -/

variable [CharacterNames]

lemma primary_eq (hatom : atom R feed = outcome) (hstop : StopsAt EndsTerm outcome) :
    primary R feed = outcome := by
  rw [primary, here_bind]
  refine bind_eq_outcome hatom hstop fun e feed' hnext => ?_
  have htrailer : trailer? R feed' = .ok (none, feed') := by
    rw [trailer?, bind_of_ok (peek_eq feed')]
    rcases hnext with (hnext | hnext) | hnext <;> rw [hnext] <;> rfl
  rw [bind_of_ok (many_none htrailer)]
  rfl

lemma power_eq (hfirst : PlainStart (nextToken feed)) (hatom : atom R feed = outcome)
    (hstop : StopsAt EndsTerm outcome) : power R feed = outcome := by
  have hawaited : awaited R feed = outcome := by
    rw [awaited, here_bind, bind_of_ok (skipIf_false (plainStart_ne_keyword hfirst .awaitWord))]
    exact primary_eq R hatom hstop
  rw [power, here_bind]
  refine bind_eq_outcome hawaited hstop fun e feed' hnext => ?_
  have hnone : nextToken feed' ≠ some (.sign .starStar) :=
    endsTerm_ne_sign hnext (by decide) (by decide)
  rw [bind_of_ok (after_none hnone R.factor)]
  rfl

lemma term_eq (hfirst : PlainStart (nextToken feed)) (hatom : atom R feed = outcome)
    (hstop : StopsAt EndsTerm outcome) : term R feed = outcome := by
  have hfactor : factor R feed = outcome := by
    have hnone : (nextToken feed).any
        (fun t => t = .sign .plus || t = .sign .minus || t = .sign .tilde) = false := by
      generalize nextToken feed = t at hfirst
      cases hfirst <;> rfl
    rw [factor, here_bind, bind_of_ok (nextSatisfies_eq _ feed), hnone]
    exact power_eq R hfirst hatom hstop
  refine leftGrouped_eq hfactor hstop fun t ht s hs => ?_
  refine endsTerm_ne_sign ht ?_ ?_
  all_goals
    rintro rfl
    simp at hs

lemma operand_eq (hsum : sum R feed = outcome) (hstop : StopsAt EndsSum outcome) :
    operand R feed = outcome := by
  have hends : ∀ (operators : List Sign), .equal ∉ operators → ∀ t, EndsSum t →
      ∀ s ∈ operators, t ≠ some (.sign s) := by
    intro operators hequal t ht s hs
    refine endsSum_ne_sign ht ?_
    rintro rfl
    exact hequal hs
  have hshift := leftGrouped_eq hsum hstop (hends [.leftShift, .rightShift] (by decide))
  have hand := leftGrouped_eq hshift hstop (hends [.ampersand] (by decide))
  have hxor := leftGrouped_eq hand hstop (hends [.caret] (by decide))
  exact leftGrouped_eq hxor hstop (hends [.bar] (by decide))

lemma comparison_eq (hsum : sum R feed = outcome) (hstop : StopsAt EndsSum outcome) :
    comparison R feed = outcome := by
  rw [comparison, here_bind]
  refine bind_eq_outcome (operand_eq R hsum hstop) hstop fun e feed' hnext => ?_
  have hnone : comparisonOperator? feed' = .ok (false, feed') := by
    rw [comparisonOperator?, bind_of_ok (peek_eq feed')]
    rcases hnext with hnext | hnext <;> rw [hnext] <;> rfl
  have hitem : (do
      if ← comparisonOperator? then return some (← operand R) else return none :
      Parser (Option Expr)) feed' = .ok (none, feed') := by
    rw [bind_of_ok hnone]
    rfl
  rw [bind_of_ok (many_none hitem)]
  rfl

/-- An expression of one sum goes through all levels as it is. -/
lemma test_eq (hfirst : PlainStart (nextToken feed)) (hsum : sum R feed = outcome)
    (hstop : StopsAt EndsSum outcome) : test R feed = outcome := by
  have hnot : notTest R feed = outcome := by
    rw [notTest, here_bind, bind_of_ok (skipIf_false (plainStart_ne_keyword hfirst .notWord))]
    exact comparison_eq R hsum hstop
  have hand := joined_eq hnot hstop fun t ht => endsSum_ne_keyword ht .andWord
  have hor : orTest R feed = outcome :=
    joined_eq hand hstop fun t ht => endsSum_ne_keyword ht .orWord
  rw [test, here_bind, bind_of_ok (nextIs_false (plainStart_ne_keyword hfirst .lambdaWord))]
  refine bind_eq_outcome hor hstop fun e feed' hnext => ?_
  rw [bind_of_ok (skipIf_false (endsSum_ne_keyword hnext .ifWord))]
  rfl

end Levels

end SyntaxCheck.Proofs
