import Mathlib.Tactic
import SyntaxCheck.Grammar.Expression
import SyntaxCheck.Proofs.MovedStrings

/-!
# Expressions on moved tokens

One lemma for each rule of the grammar of expressions: the tree of a moved feed is the moved tree.
-/

namespace SyntaxCheck.Proofs

open SyntaxCheck.Parser SyntaxCheck.Grammar

variable {f : Nat → Nat} {R : ExpressionRules}

/-- The levels that occur inside other expressions make moved trees of moved feeds. -/
structure RulesMove (f : Nat → Nat) (R : ExpressionRules) : Prop where
  test : MovesWith f R.test R.test
  orTest : MovesWith f R.orTest R.orTest
  notTest : MovesWith f R.notTest R.notTest
  operand : MovesWith f R.operand R.operand
  factor : MovesWith f R.factor R.factor
  field : ParsesMoved f R.field
  zero : f 0 = 0

/-! ### Elements -/

@[simp] lemma movedExpr_tupleOf (start : Nat) (elements : List Expr) (trailing : Bool) :
    movedExpr f (tupleOf start elements trailing) =
      tupleOf (f start) (elements.map (movedExpr f)) trailing := by
  cases elements with
  | nil => cases trailing <;> rfl
  | cons e rest =>
    cases rest with
    | nil => cases trailing <;> rfl
    | cons e' rest =>
      simp [tupleOf, movedExpr]

lemma movesWith_namedTest (hR : RulesMove f R) : MovesWith f (namedTest R) (namedTest R) := by
  refine movesWith_here.bind fun start => keeps_peek.bind fun t => keeps_peekSecond.bind fun u => ?_
  split
  · exact keeps_skip.bind fun _ => keeps_skip.bind fun _ => hR.test.bind fun _ => .pure rfl
  · exact hR.test

lemma movesWith_starOr (hR : RulesMove f R) {plain plain' : Parser Expr}
    (h : MovesWith f plain plain') : MovesWith f (starOr R plain) (starOr R plain') :=
  movesWith_here.bind fun _ => (keeps_skipIf _).bind fun _ =>
    .ite (fun _ => hR.operand.bind fun _ => .pure rfl) fun _ => h

lemma movesWith_starOrNamed (hR : RulesMove f R) :
    MovesWith f (starOrNamed R) (starOrNamed R) :=
  movesWith_starOr hR (movesWith_namedTest hR)

lemma movesWith_testList (hR : RulesMove f R) : MovesWith f (testList R) (testList R) := by
  refine movesWith_here.bind fun start => ?_
  refine (movesWith_commaList _ (movesWith_starOr hR hR.test)).bind fun ⟨elements, trailing⟩ => ?_
  exact .pure (movedExpr_tupleOf start elements trailing)

lemma movesWith_operandList (hR : RulesMove f R) :
    MovesWith f (operandList R) (operandList R) :=
  movesWith_commaList _ (movesWith_starOr hR hR.operand)

lemma movesWith_yieldExpr (hR : RulesMove f R) : MovesWith f (yieldExpr R) (yieldExpr R) := by
  refine movesWith_here.bind fun start => (keeps_expect _).bind fun _ => ?_
  refine (keeps_skipIf _).bind fun _ => .ite (fun _ => ?_) fun _ => ?_
  · exact hR.test.bind fun _ => .pure rfl
  · refine (keeps_nextSatisfies _).bind fun _ => .ite (fun _ => ?_) fun _ => .pure rfl
    exact (movesWith_testList hR).bind fun _ => .pure rfl

lemma keeps_clauseNext : Keeps f clauseNext clauseNext := keeps_nextSatisfies _

lemma movesWith_clause (hR : RulesMove f R) : MovesWith f (clause R) (clause R) := by
  refine (keeps_skipIf _).bind fun _ => (keeps_expect _).bind fun _ => ?_
  refine movesWith_here.bind fun start => ?_
  refine (movesWith_operandList hR).bind fun ⟨targets, trailing⟩ => ?_
  refine (keeps_expect _).bind fun _ => hR.orTest.bind fun iterable => ?_
  refine (movesWith_many (movesWith_after _ hR.orTest)).bind fun conditions => .pure ?_
  simp [movedClause]

lemma movesWith_clauses (hR : RulesMove f R) : MovesWith f (clauses R) (clauses R) := by
  refine (movesWith_clause hR).bind fun first => ?_
  have hnext : MovesWith f
      (do if ← clauseNext then return some (← clause R) else return none)
      (do if ← clauseNext then return some (← clause R) else return none) :=
    keeps_clauseNext.bind fun _ =>
      .ite (fun _ => (movesWith_clause hR).bind fun _ => .pure rfl) fun _ => .pure rfl
  exact (movesWith_many hnext).bind fun _ => .pure rfl

/-! ### Arguments -/

/-- An argument as written, moved. -/
def movedArgumentItem (f : Nat → Nat) : ArgumentItem → ArgumentItem
  | .positional value => .positional (movedExpr f value)
  | .keyword start name value => .keyword (f start) name (movedExpr f value)

instance : Movable ArgumentItem := ⟨movedArgumentItem⟩

@[simp] lemma moved_argumentItem :
    (moved f : ArgumentItem → ArgumentItem) = movedArgumentItem f := rfl

lemma movesWith_argument (hR : RulesMove f R) : MovesWith f (argument R) (argument R) := by
  refine movesWith_here.bind fun start => keeps_peek.bind fun t => keeps_peekSecond.bind fun u => ?_
  split
  · exact keeps_skip.bind fun _ => hR.test.bind fun _ => .pure rfl
  · exact keeps_skip.bind fun _ => hR.test.bind fun _ => .pure rfl
  · exact keeps_skip.bind fun _ => keeps_skip.bind fun _ => hR.test.bind fun _ => .pure rfl
  · refine (movesWith_namedTest hR).bind fun value => keeps_clauseNext.bind fun _ => ?_
    refine .ite (fun _ => ?_) fun _ => .pure rfl
    refine (movesWith_clauses hR).bind fun _ => .pure ?_
    simp [movedArgumentItem, movedExpr]

lemma misplacedArgument_moved (names : List String) (named unpacked : Bool)
    (items : List ArgumentItem) :
    misplacedArgument? names named unpacked (items.map (movedArgumentItem f)) =
      (misplacedArgument? names named unpacked items).map (movedFinding f) := by
  induction items generalizing names named unpacked with
  | nil => rfl
  | cons item rest ih =>
    cases item with
    | positional value =>
      simp only [List.map_cons, movedArgumentItem, misplacedArgument?, isStarred_movedExpr,
        start_movedExpr]
      split
      · rfl
      split
      · rfl
      · exact ih _ _ _
    | keyword start name value =>
      cases name with
      | none => exact ih _ _ _
      | some id =>
        simp only [List.map_cons, movedArgumentItem, misplacedArgument?]
        split
        · rfl
        · exact ih _ _ _

lemma movesWith_argumentList (hR : RulesMove f R) :
    MovesWith f (argumentList R) (argumentList R) := by
  refine (keeps_expect _).bind fun _ => ?_
  refine (movesWith_many ?item).bind fun items => (keeps_nextIs _).bind fun _ => ?_
  case item =>
    refine (keeps_nextIs _).bind fun _ => .ite (fun _ => .pure rfl) fun _ => ?_
    refine (movesWith_argument hR).bind fun item => (keeps_skipIf _).bind fun _ => ?_
    refine (keeps_nextIs _).bind fun _ => ?_
    exact .ite (fun _ => Alike.error_bind rfl rfl) fun _ => .pure rfl
  refine .ite (fun _ => Alike.error_bind rfl rfl) fun _ => ?_
  rw [moved_list, moved_argumentItem, misplacedArgument_moved]
  cases misplacedArgument? [] false false items with
  | some fault => exact Alike.error_bind rfl rfl
  | none =>
    refine keeps_skip.bind fun _ => .pure ?_
    simp only [moved_pair, moved_list, List.filterMap_map, List.map_filterMap]
    congr 2
    all_goals
      funext item
      cases item <;> rfl

/-! ### Subscripts -/

lemma movesWith_bound (hR : RulesMove f R) : MovesWith f (bound R) (bound R) :=
  (keeps_nextSatisfies _).bind fun _ =>
    .ite (fun _ => hR.test.bind fun _ => .pure rfl) fun _ => .pure rfl

lemma movesWith_sliceFrom (hR : RulesMove f R) (start : Nat) (lower : Option Expr) :
    MovesWith f (sliceFrom R start lower) (sliceFrom R (f start) (moved f lower)) := by
  refine (keeps_expect _).bind fun _ => (movesWith_bound hR).bind fun upper => ?_
  refine (keeps_skipIf _).bind fun _ => .ite (fun _ => ?_) fun _ => .pure ?_
  · refine (movesWith_bound hR).bind fun step => .pure ?_
    simp [movedExpr]
  · simp [movedExpr]

lemma movesWith_subscript (hR : RulesMove f R) : MovesWith f (subscript R) (subscript R) := by
  refine movesWith_here.bind fun start => keeps_peek.bind fun t => keeps_peekSecond.bind fun u => ?_
  split
  · exact movesWith_starOrNamed hR
  · exact movesWith_starOrNamed hR
  · exact movesWith_sliceFrom hR start none
  · refine hR.test.bind fun value => (keeps_nextIs _).bind fun _ => ?_
    exact .ite (fun _ => movesWith_sliceFrom hR start (some value)) fun _ => .pure rfl

lemma movesWith_subscriptList (hR : RulesMove f R) :
    MovesWith f (subscriptList R) (subscriptList R) := by
  refine (keeps_expect _).bind fun _ => movesWith_here.bind fun start => ?_
  refine (movesWith_commaList _ (movesWith_subscript hR)).bind fun ⟨items, trailing⟩ => ?_
  exact (keeps_expect _).bind fun _ => .pure (movedExpr_tupleOf start items trailing)

/-! ### Atoms -/

/-- A string literal, and the same literal moved as a whole. -/
def MovesPart (f : Nat → Nat) (p p' : Nat × StringLiteral) : Prop :=
  p' = Prod.map f id p ∧ Carries f p.1 p.2

lemma alike_stringPart : ParsesAlike f (Option.Rel (MovesPart f)) stringPart? stringPart? := by
  rintro ⟨lexemes, fault, last⟩ ⟨lexemes', fault', last'⟩ h
  obtain rfl := h.lexemes
  cases lexemes with
  | nil => exact .ok .none h
  | cons l rest =>
    obtain ⟨start, token, stop⟩ := l
    have hstrings := h.strings ⟨start, token, stop⟩ List.mem_cons_self
    have hrest : Follows f ⟨rest, fault, stop⟩ ⟨rest.map (movedLexeme f), fault', f stop⟩ :=
      ⟨rfl, fun m hm => h.strings m (List.mem_cons_of_mem _ hm), h.fault, rfl⟩
    cases token with
    | string s => exact .ok (.some ⟨rfl, hstrings s rfl⟩) hrest
    | _ => exact .ok .none h

lemma map_of_movesPart {parts parts' : List (Nat × StringLiteral)}
    (h : List.Forall₂ (MovesPart f) parts parts') :
    parts' = parts.map (Prod.map f id) ∧ ∀ p ∈ parts, Carries f p.1 p.2 := by
  induction h with
  | nil => exact ⟨rfl, by simp⟩
  | cons hpart _ ih =>
    obtain ⟨rfl, hcarries⟩ := hpart
    obtain ⟨rfl, hrest⟩ := ih
    exact ⟨rfl, List.forall_mem_cons.mpr ⟨hcarries, hrest⟩⟩

lemma movesWith_parenthesized (hR : RulesMove f R) (start : Nat) :
    MovesWith f (parenthesized R start) (parenthesized R (f start)) := by
  refine movesWith_here.bind fun inner => (movesWith_starOrNamed hR).bind fun first => ?_
  refine keeps_clauseNext.bind fun _ => ?_
  rw [moved_expr, isStarred_movedExpr]
  refine .ite (fun _ => ?_) fun _ => ?_
  · refine (movesWith_clauses hR).bind fun _ => (keeps_expect _).bind fun _ => .pure ?_
    simp [movedExpr]
  · refine (movesWith_many (movesWith_afterComma _ (movesWith_starOrNamed hR))).bind fun rest => ?_
    refine (keeps_skipIf _).bind fun trailing => (keeps_expect _).bind fun _ => ?_
    rw [moved_list, List.isEmpty_map]
    refine .ite (fun _ => alike_settle _ (.error _ _)) fun _ => ?_
    exact .pure (movedExpr_tupleOf start (first :: rest) trailing)

lemma movesWith_parentheses (hR : RulesMove f R) :
    MovesWith f (parentheses R) (parentheses R) := by
  refine movesWith_here.bind fun start => (keeps_expect _).bind fun _ => ?_
  refine movesWith_here.bind fun inner => keeps_peek.bind fun t => ?_
  split
  · exact keeps_skip.bind fun _ => .pure rfl
  · refine (movesWith_yieldExpr hR).bind fun value => (keeps_expect _).bind fun _ => ?_
    exact .pure rfl
  · refine keeps_skip.bind fun _ => hR.operand.bind fun _ => (keeps_expect _).bind fun _ => ?_
    exact alike_settle _ (.error _ _)
  · exact movesWith_parenthesized hR start

/-- More elements after a comma, with the comma that may follow them. -/
lemma movesWith_brackets (hR : RulesMove f R) : MovesWith f (brackets R) (brackets R) := by
  refine movesWith_here.bind fun start => (keeps_expect _).bind fun _ => ?_
  refine (keeps_skipIf _).bind fun _ => .ite (fun _ => .pure rfl) fun _ => ?_
  refine (movesWith_starOrNamed hR).bind fun first => keeps_clauseNext.bind fun _ => ?_
  refine .ite (fun _ => ?_) fun _ => ?_
  · refine (movesWith_clauses hR).bind fun _ => (keeps_expect _).bind fun _ => .pure ?_
    simp [movedExpr]
  · refine (movesWith_many (movesWith_afterComma _ (movesWith_starOrNamed hR))).bind fun _ => ?_
    refine (keeps_skipIf _).bind fun _ => (keeps_expect _).bind fun _ => .pure ?_
    simp [movedExpr]

lemma movesWith_entry (hR : RulesMove f R) : MovesWith f (entry R) (entry R) := by
  refine (keeps_skipIf _).bind fun _ => .ite (fun _ => ?_) fun _ => ?_
  · exact hR.operand.bind fun _ => .pure rfl
  · refine hR.test.bind fun key => (keeps_expect _).bind fun _ => ?_
    exact hR.test.bind fun _ => .pure rfl

lemma movesWith_dictRest (hR : RulesMove f R) (start : Nat) (first : Option Expr × Expr) :
    MovesWith f (dictRest R start first) (dictRest R (f start) (moved f first)) := by
  refine (movesWith_many (movesWith_afterComma _ (movesWith_entry hR))).bind fun rest => ?_
  refine (keeps_skipIf _).bind fun _ => (keeps_expect _).bind fun _ => .pure ?_
  obtain ⟨key, value⟩ := first
  simp [movedExpr]

lemma movesWith_setRest (hR : RulesMove f R) (start : Nat) (first : Expr) :
    MovesWith f (setRest R start first) (setRest R (f start) (movedExpr f first)) := by
  refine keeps_clauseNext.bind fun _ => ?_
  rw [isStarred_movedExpr]
  refine .ite (fun _ => ?_) fun _ => ?_
  · refine (movesWith_clauses hR).bind fun _ => (keeps_expect _).bind fun _ => .pure ?_
    simp [movedExpr]
  · refine (movesWith_many (movesWith_afterComma _ (movesWith_starOrNamed hR))).bind fun rest => ?_
    refine (keeps_skipIf _).bind fun _ => (keeps_expect _).bind fun _ => .pure ?_
    simp [movedExpr]

lemma movesWith_braces (hR : RulesMove f R) : MovesWith f (braces R) (braces R) := by
  refine movesWith_here.bind fun start => (keeps_expect _).bind fun _ => ?_
  refine keeps_peek.bind fun t => keeps_peekSecond.bind fun u => ?_
  split
  · exact keeps_skip.bind fun _ => .pure rfl
  · exact (movesWith_entry hR).bind fun first => movesWith_dictRest hR start first
  · exact (movesWith_starOrNamed hR).bind fun first => movesWith_setRest hR start first
  · exact (movesWith_starOrNamed hR).bind fun first => movesWith_setRest hR start first
  · refine hR.test.bind fun first => (keeps_skipIf _).bind fun _ => .ite (fun _ => ?_) fun _ => ?_
    · refine hR.test.bind fun value => keeps_clauseNext.bind fun _ => .ite (fun _ => ?_) fun _ => ?_
      · refine (movesWith_clauses hR).bind fun _ => (keeps_expect _).bind fun _ => .pure ?_
        simp [movedExpr]
      · exact movesWith_dictRest hR start (some first, value)
    · exact movesWith_setRest hR start first

/-! ### Operators -/

/-- A call, a subscript or an attribute, moved. -/
def movedTrailer (f : Nat → Nat) : Trailer → Trailer
  | .call arguments keywords =>
    .call (arguments.map (movedExpr f)) (keywords.map (movedArgument f))
  | .index value => .index (movedExpr f value)
  | .attribute name => .attribute name

instance : Movable Trailer := ⟨movedTrailer⟩

@[simp] lemma moved_trailer : (moved f : Trailer → Trailer) = movedTrailer f := rfl

lemma movesWith_trailer (hR : RulesMove f R) : MovesWith f (trailer? R) (trailer? R) := by
  refine keeps_peek.bind fun t => ?_
  split
  · exact (movesWith_argumentList hR).bind fun ⟨_, _⟩ => .pure rfl
  · exact (movesWith_subscriptList hR).bind fun _ => .pure rfl
  · exact keeps_skip.bind fun _ => keeps_name.bind fun _ => .pure rfl
  · exact .pure rfl

/-- What is put together from the left can be moved part by part. -/
lemma movedExpr_foldl {α : Type} {step : Expr → α → Expr} {step' : Expr → α → Expr} {g : α → α}
    (h : ∀ e a, movedExpr f (step e a) = step' (movedExpr f e) (g a)) (first : Expr)
    (rest : List α) :
    movedExpr f (rest.foldl step first) = (rest.map g).foldl step' (movedExpr f first) := by
  induction rest generalizing first with
  | nil => rfl
  | cons a rest ih => rw [List.foldl_cons, ih, h, List.map_cons, List.foldl_cons]

lemma movesWith_leftGrouped (operators : List Sign) {operand : Parser Expr}
    (h : MovesWith f operand operand) :
    MovesWith f (leftGrouped operators operand) (leftGrouped operators operand) := by
  refine movesWith_here.bind fun start => h.bind fun first => ?_
  refine (movesWith_many ?item).bind fun rest => .pure ?_
  case item =>
    refine (keeps_nextSatisfies _).bind fun _ => .ite (fun _ => ?_) fun _ => .pure rfl
    exact keeps_skip.bind fun _ => h.bind fun _ => .pure rfl
  exact movedExpr_foldl (fun _ _ => rfl) first rest

lemma keeps_comparisonOperator : Keeps f comparisonOperator? comparisonOperator? := by
  refine keeps_peek.bind fun t => ?_
  split
  · exact .ite (fun _ => keeps_skip.bind fun _ => .pure rfl) fun _ => .pure rfl
  · exact keeps_skip.bind fun _ => .pure rfl
  · exact keeps_skip.bind fun _ => (keeps_expect _).bind fun _ => .pure rfl
  · exact keeps_skip.bind fun _ => (keeps_skipIf _).bind fun _ => .pure rfl
  · exact .pure rfl

lemma movesWith_joined (word : Keyword) {operand : Parser Expr}
    (h : MovesWith f operand operand) :
    MovesWith f (joined word operand) (joined word operand) := by
  refine movesWith_here.bind fun start => h.bind fun first => ?_
  refine (movesWith_many (movesWith_after _ h)).bind fun rest => .pure ?_
  cases rest <;> simp [movedExpr]

/-! ### Parameters -/

/-- A parameter list as far as it is read, moved. -/
def movedDraft (f : Nat → Nat) (d : ParameterDraft) : ParameterDraft :=
  ⟨d.stage, d.positionalOnly.map (movedParameter f), d.positional.map (movedParameter f),
    d.star.map f, d.rest.map (movedParameter f), d.keywordOnly.map (movedParameter f),
    d.keywordRest.map (movedParameter f)⟩

instance : Movable ParameterDraft := ⟨movedDraft⟩

@[simp] lemma moved_draft : (moved f : ParameterDraft → ParameterDraft) = movedDraft f := rfl

lemma movesWith_annotationRule (annotated : Bool) {type : Parser Expr} (h : MovesWith f type type) :
    MovesWith f (annotation? annotated type) (annotation? annotated type) :=
  .ite (fun _ => movesWith_after _ h) fun _ => .pure rfl

lemma movesWith_parameter (hR : RulesMove f R) (annotated : Bool) :
    MovesWith f (parameter R annotated) (parameter R annotated) := by
  refine movesWith_here.bind fun start => keeps_name.bind fun id => ?_
  refine (movesWith_annotationRule annotated hR.test).bind fun type => ?_
  refine (movesWith_after _ hR.test).bind fun default => .pure ?_
  simp [movedParameter]

lemma movesWith_starParameter (annotated : Bool) {type : Parser Expr}
    (h : MovesWith f type type) :
    MovesWith f (starParameter annotated type) (starParameter annotated type) := by
  refine movesWith_here.bind fun start => keeps_peek.bind fun t => ?_
  split
  · refine keeps_skip.bind fun _ => (movesWith_annotationRule annotated h).bind fun type => .pure ?_
    simp [movedParameter]
  · exact .pure rfl

lemma movesWith_parameterEntry (hR : RulesMove f R) (annotated : Bool) (d : ParameterDraft) :
    MovesWith f (parameterEntry R annotated d) (parameterEntry R annotated (movedDraft f d)) := by
  have hparameter := movesWith_parameter hR annotated
  have hstar := movesWith_starParameter annotated (movesWith_starOr hR hR.test)
  have hstars := movesWith_starParameter annotated hR.test
  refine movesWith_here.bind fun start => keeps_peek.bind fun t => ?_
  obtain ⟨stage, positionalOnly, positional, star, rest, keywordOnly, keywordRest⟩ := d
  dsimp only [movedDraft]
  split
  · exact hparameter.bind fun _ => .pure (by simp [movedDraft])
  · exact hparameter.bind fun _ => .pure (by simp [movedDraft])
  · exact hparameter.bind fun _ => .pure (by simp [movedDraft])
  · exact hparameter.bind fun _ => .pure (by simp [movedDraft])
  · exact keeps_skip.bind fun _ => .pure rfl
  · exact keeps_skip.bind fun _ => hstar.bind fun _ => .pure rfl
  · exact keeps_skip.bind fun _ => hstar.bind fun _ => .pure rfl
  · exact keeps_skip.bind fun _ => hstar.bind fun _ => .pure rfl
  · exact keeps_skip.bind fun _ => hstars.bind fun _ => .pure rfl
  · exact keeps_skip.bind fun _ => hstars.bind fun _ => .pure rfl
  · exact keeps_skip.bind fun _ => hstars.bind fun _ => .pure rfl
  · exact keeps_skip.bind fun _ => hstars.bind fun _ => .pure rfl
  · exact alike_refuse

lemma movesWith_parameterEntries (hR : RulesMove f R) (annotated : Bool) (closing : Token)
    (fuel : Nat) (d : ParameterDraft) :
    MovesWith f (parameterEntries R annotated closing fuel d)
      (parameterEntries R annotated closing fuel (movedDraft f d)) := by
  induction fuel generalizing d with
  | zero => exact alike_refuse
  | succ fuel ih =>
    refine (movesWith_parameterEntry hR annotated d).bind fun d => (keeps_skipIf _).bind fun _ => ?_
    refine .ite (fun _ => ?_) fun _ => ?_
    · exact (keeps_nextIs _).bind fun _ => .ite (fun _ => .pure rfl) fun _ => ih d
    · exact (keeps_nextIs _).bind fun _ => .ite (fun _ => .pure rfl) fun _ => alike_refuse

lemma name_movedParameter (p : Parameter) : (movedParameter f p).name = p.name := by
  cases p
  rfl

lemma start_movedParameter (p : Parameter) : (movedParameter f p).start = f p.start := by
  cases p
  rfl

lemma isSome_default_movedParameter (p : Parameter) :
    (movedParameter f p).default.isSome = p.default.isSome := by
  cases p
  simp [movedParameter, Parameter.default]

lemma missingDefault_moved (seen : Bool) (ps : List Parameter) :
    missingDefault? seen (ps.map (movedParameter f)) =
      (missingDefault? seen ps).map (movedParameter f) := by
  induction ps generalizing seen with
  | nil => rfl
  | cons p ps ih =>
    simp only [List.map_cons, missingDefault?, isSome_default_movedParameter]
    split
    · exact ih true
    split
    · rfl
    · exact ih false

lemma misorderedParameter_moved (d : ParameterDraft) :
    misorderedParameter? (movedDraft f d) = (misorderedParameter? d).map (movedFinding f) := by
  obtain ⟨stage, positionalOnly, positional, star, rest, keywordOnly, keywordRest⟩ := d
  rw [movedDraft, misorderedParameter?, misorderedParameter?]
  dsimp only
  rw [Option.isNone_map, List.isEmpty_map, ← List.map_append, missingDefault_moved]
  generalize (rest.isNone && keywordOnly.isEmpty && decide (stage = Stage.afterStar)) = bare
  cases bare <;> cases star <;> cases missingDefault? false (positionalOnly ++ positional) <;>
    simp [movedFinding, start_movedParameter]

lemma movesWith_parameterList (hR : RulesMove f R) (annotated : Bool) (closing : Token) :
    MovesWith f (parameterList R annotated closing) (parameterList R annotated closing) := by
  refine (keeps_nextIs _).bind fun _ => .ite (fun _ => ?none) fun _ => ?some
  case' none => refine MovesWith.bind (.pure rfl) fun d => ?_
  case' some =>
    refine alike_get.bind fun feed feed' hfeed => ?_
    rw [length_of_follows hfeed]
    refine (movesWith_parameterEntries hR annotated closing _ {}).bind fun d => ?_
  all_goals
    dsimp only [moved_draft]
    rw [misorderedParameter_moved]
    cases misorderedParameter? d with
    | some fault => exact Alike.error_bind rfl rfl
    | none =>
      refine .pure ?_
      simp [movedDraft, movedParameters]

lemma repeatedName_moved (seen : List String) (ps : List Parameter) :
    repeatedName? seen (ps.map (movedParameter f)) =
      (repeatedName? seen ps).map (movedParameter f) := by
  induction ps generalizing seen with
  | nil => rfl
  | cons p ps ih =>
    simp only [List.map_cons, repeatedName?, name_movedParameter]
    split
    · rfl
    · exact ih _

lemma distinctNames_moved (ps : Parameters) :
    Verdicts Eq (distinctNames ps) (distinctNames (movedParameters f ps)) := by
  obtain ⟨positionalOnly, positional, rest, keywordOnly, keywordRest⟩ := ps
  simp only [movedParameters, movedKind_eq_map, movedRest_eq_map, distinctNames]
  have hall : positionalOnly.map (movedParameter f) ++ positional.map (movedParameter f) ++
        keywordOnly.map (movedParameter f) ++ (rest.map (movedParameter f)).toList ++
        (keywordRest.map (movedParameter f)).toList =
      (positionalOnly ++ positional ++ keywordOnly ++ rest.toList ++ keywordRest.toList).map
        (movedParameter f) := by
    cases rest <;> cases keywordRest <;> simp
  rw [hall, repeatedName_moved]
  cases repeatedName? [] (positionalOnly ++ positional ++ keywordOnly ++ rest.toList ++
    keywordRest.toList) with
  | none => exact .ok rfl
  | some p => exact .error _ _

/-! ### Expressions -/

lemma movesWith_lambda (hR : RulesMove f R) : MovesWith f (lambda R) (lambda R) := by
  refine movesWith_here.bind fun start => (keeps_expect _).bind fun _ => ?_
  refine (movesWith_parameterList hR _ _).bind fun parameters => (keeps_expect _).bind fun _ => ?_
  refine hR.test.bind fun body => ?_
  exact Keeps.bind (alike_settle _ (distinctNames_moved parameters)) fun _ => .pure rfl

variable [CharacterNames]

lemma movesWith_strings (hR : RulesMove f R) (follows : Token → Bool) :
    MovesWith f (strings R follows) (strings R follows) := by
  refine Alike.bind (alike_many alike_stringPart) fun parts parts' hparts => alike_settle _ ?_
  obtain ⟨rfl, hcarries⟩ := map_of_movesPart hparts
  exact verdicts_stringExpr hR.field hR.zero hcarries

lemma movesWith_atom (hR : RulesMove f R) : MovesWith f (atom R) (atom R) := by
  refine movesWith_here.bind fun start => keeps_peek.bind fun t => ?_
  split
  · exact alike_refuse
  · exact keeps_skip.bind fun _ => .pure rfl
  · exact movesWith_strings hR _
  · exact movesWith_parentheses hR
  · exact movesWith_brackets hR
  · exact movesWith_braces hR
  · split
    · exact keeps_skip.bind fun _ => .pure rfl
    · exact alike_refuse

lemma movesWith_primary (hR : RulesMove f R) :
    MovesWith f (primary R) (primary R) := by
  refine movesWith_here.bind fun start => (movesWith_atom hR).bind fun first => ?_
  refine (movesWith_many (movesWith_trailer hR)).bind fun trailers => .pure ?_
  refine movedExpr_foldl (fun e a => ?_) first trailers
  cases a <;> simp [Trailer.apply, movedTrailer, movedExpr]

lemma movesWith_awaited (hR : RulesMove f R) :
    MovesWith f (awaited R) (awaited R) := by
  refine movesWith_here.bind fun start => (keeps_skipIf _).bind fun _ => ?_
  refine .ite (fun _ => ?_) fun _ => movesWith_primary hR
  exact (movesWith_primary hR).bind fun _ => .pure rfl

lemma movesWith_power (hR : RulesMove f R) : MovesWith f (power R) (power R) := by
  refine movesWith_here.bind fun start => (movesWith_awaited hR).bind fun base => ?_
  refine (movesWith_after _ hR.factor).bind fun exponent => ?_
  cases exponent <;> exact .pure rfl

lemma movesWith_factor (hR : RulesMove f R) :
    MovesWith f (factor R) (factor R) := by
  refine movesWith_here.bind fun start => (keeps_nextSatisfies _).bind fun _ => ?_
  refine .ite (fun _ => ?_) fun _ => movesWith_power hR
  exact keeps_skip.bind fun _ => hR.factor.bind fun _ => .pure rfl

lemma movesWith_operand (hR : RulesMove f R) :
    MovesWith f (operand R) (operand R) :=
  have hsum := movesWith_leftGrouped [.plus, .minus]
    (movesWith_leftGrouped [.star, .slash, .slashSlash, .percent, .atSign] (movesWith_factor hR))
  movesWith_leftGrouped [.bar] (movesWith_leftGrouped [.caret]
    (movesWith_leftGrouped [.ampersand] (movesWith_leftGrouped [.leftShift, .rightShift] hsum)))

lemma movesWith_comparison (hR : RulesMove f R) :
    MovesWith f (comparison R) (comparison R) := by
  refine movesWith_here.bind fun start => (movesWith_operand hR).bind fun first => ?_
  refine (movesWith_many ?item).bind fun rest => .pure ?_
  case item =>
    refine keeps_comparisonOperator.bind fun _ => .ite (fun _ => ?_) fun _ => .pure rfl
    exact (movesWith_operand hR).bind fun _ => .pure rfl
  cases rest <;> simp [movedExpr]

lemma movesWith_notTest (hR : RulesMove f R) :
    MovesWith f (notTest R) (notTest R) := by
  refine movesWith_here.bind fun start => (keeps_skipIf _).bind fun _ => ?_
  refine .ite (fun _ => ?_) fun _ => movesWith_comparison hR
  exact hR.notTest.bind fun _ => .pure rfl

lemma movesWith_orTest (hR : RulesMove f R) : MovesWith f (orTest R) (orTest R) :=
  movesWith_joined _ (movesWith_joined _ (movesWith_notTest hR))

lemma movesWith_test (hR : RulesMove f R) : MovesWith f (test R) (test R) := by
  refine movesWith_here.bind fun start => (keeps_nextIs _).bind fun _ => ?_
  refine .ite (fun _ => movesWith_lambda hR) fun _ => ?_
  refine (movesWith_orTest hR).bind fun value => (keeps_skipIf _).bind fun _ => ?_
  refine .ite (fun _ => ?_) fun _ => .pure rfl
  refine hR.orTest.bind fun condition => (keeps_expect _).bind fun _ => ?_
  exact hR.test.bind fun _ => .pure rfl

end SyntaxCheck.Proofs
