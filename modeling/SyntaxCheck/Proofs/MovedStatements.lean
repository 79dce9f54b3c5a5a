import Mathlib.Tactic
import SyntaxCheck.Grammar.Statement
import SyntaxCheck.Proofs.MovedExpressions

/-!
# Statements on moved tokens

One lemma for each rule of the grammar of patterns and statements, up to the body of a module.
-/

namespace SyntaxCheck.Proofs

open SyntaxCheck.Parser SyntaxCheck.Grammar

variable {f : Nat → Nat} {R : ExpressionRules}

/-- Names stay as they are. -/
lemma movesWith_name : MovesWith f name name := keeps_name

/-! ### Patterns -/

lemma movesWith_unsignedNumber : MovesWith f unsignedNumber unsignedNumber := by
  refine movesWith_here.bind fun start => keeps_peek.bind fun t => ?_
  split
  · exact keeps_skip.bind fun _ => .pure rfl
  · exact keeps_skip.bind fun _ => .pure rfl
  · exact keeps_skip.bind fun _ => .pure rfl
  · exact alike_refuse

lemma movesWith_signedNumber : MovesWith f signedNumber signedNumber :=
  movesWith_here.bind fun _ => (keeps_skipIf _).bind fun _ =>
    .ite (fun _ => movesWith_unsignedNumber.bind fun _ => .pure rfl) fun _ =>
      movesWith_unsignedNumber

lemma movesWith_numberPattern : MovesWith f numberPattern numberPattern := by
  refine movesWith_here.bind fun start => movesWith_signedNumber.bind fun left => ?_
  refine (keeps_nextIs _).bind fun _ => (keeps_nextIs _).bind fun _ => ?_
  refine .ite (fun _ => ?_) fun _ => .pure rfl
  exact keeps_skip.bind fun _ => movesWith_unsignedNumber.bind fun _ => .pure rfl

lemma movesWith_attributes (start : Nat) (base : Expr) :
    MovesWith f (attributes start base) (attributes (f start) (movedExpr f base)) := by
  refine (movesWith_many (movesWith_after _ movesWith_name)).bind fun names => .pure ?_
  exact movedExpr_foldl (fun _ _ => rfl) base names

/-- An entry of a mapping pattern, moved. -/
def movedMappingEntry (f : Nat → Nat) : MappingEntry → MappingEntry
  | .pair key pattern => .pair (movedExpr f key) (movedPattern f pattern)
  | .rest name => .rest name

instance : Movable MappingEntry := ⟨movedMappingEntry⟩

@[simp] lemma moved_mappingEntry :
    (moved f : MappingEntry → MappingEntry) = movedMappingEntry f := rfl

section Nested

variable {pattern : Parser Pattern}

lemma movesWith_keywordPattern (h : MovesWith f pattern pattern) :
    MovesWith f (keywordPattern pattern) (keywordPattern pattern) :=
  keeps_name.bind fun _ => (keeps_expect _).bind fun _ => h.bind fun _ => .pure rfl

lemma movesWith_classPattern (h : MovesWith f pattern pattern) (cls : Expr) :
    MovesWith f (classPattern pattern cls) (classPattern pattern (movedExpr f cls)) := by
  refine (keeps_expect _).bind fun _ => (movesWith_many ?positional).bind fun positional => ?_
  case positional =>
    refine keeps_peek.bind fun t => keeps_peekSecond.bind fun u => ?_
    split
    · exact .pure rfl
    · exact .pure rfl
    · refine h.bind fun p => (keeps_skipIf _).bind fun _ => (keeps_nextIs _).bind fun _ => ?_
      exact .ite (fun _ => Alike.error_bind rfl rfl) fun _ => .pure rfl
  refine (movesWith_many ?keyword).bind fun keywords => (keeps_expect _).bind fun _ => .pure ?_
  case keyword =>
    refine (keeps_nextIs _).bind fun _ => .ite (fun _ => .pure rfl) fun _ => ?_
    refine (movesWith_keywordPattern h).bind fun k => (keeps_skipIf _).bind fun _ => ?_
    refine (keeps_nextIs _).bind fun _ => ?_
    exact .ite (fun _ => Alike.error_bind rfl rfl) fun _ => .pure rfl
  simp only [moved_pattern, movedPattern, movedPatterns_eq_map, movedKeywords_eq_map, moved_list]
  rfl

lemma movesWith_namePattern (h : MovesWith f pattern pattern) :
    MovesWith f (namePattern pattern) (namePattern pattern) := by
  refine movesWith_here.bind fun start => keeps_name.bind fun id => ?_
  refine (keeps_nextIs _).bind fun _ => ?_
  refine .ite (fun _ => ?_) fun _ => ?_
  · refine (movesWith_attributes start _).bind fun value => (keeps_nextIs _).bind fun _ => ?_
    exact .ite (fun _ => movesWith_classPattern h value) fun _ => .pure rfl
  · refine (keeps_nextIs _).bind fun _ => ?_
    exact .ite (fun _ => movesWith_classPattern h _) fun _ => .pure rfl

lemma movesWith_groupPattern (h : MovesWith f pattern pattern) :
    MovesWith f (groupPattern pattern) (groupPattern pattern) := by
  refine (keeps_expect _).bind fun _ => (keeps_skipIf _).bind fun _ => ?_
  refine .ite (fun _ => .pure rfl) fun _ => ?_
  refine (movesWith_commaList _ h).bind fun ⟨items, trailing⟩ => (keeps_expect _).bind fun _ => ?_
  cases items with
  | nil => exact .pure rfl
  | cons p rest =>
    cases rest with
    | nil => cases trailing <;> exact .pure rfl
    | cons q rest => exact .pure (by simp [movedPattern])

lemma movesWith_listPattern (h : MovesWith f pattern pattern) :
    MovesWith f (listPattern pattern) (listPattern pattern) := by
  refine (keeps_expect _).bind fun _ => (keeps_skipIf _).bind fun _ => ?_
  refine .ite (fun _ => .pure rfl) fun _ => ?_
  refine (movesWith_commaList _ h).bind fun ⟨items, _⟩ => (keeps_expect _).bind fun _ => .pure ?_
  simp [movedPattern]

variable [CharacterNames]

lemma movesWith_mappingKey (hR : RulesMove f R) :
    MovesWith f (mappingKey R) (mappingKey R) := by
  refine movesWith_here.bind fun start => keeps_peek.bind fun t => ?_
  split
  · exact alike_refuse
  · exact movesWith_strings hR _
  · refine keeps_skip.bind fun _ => (keeps_expect _).bind fun _ => keeps_name.bind fun _ => ?_
    exact movesWith_attributes start _
  · split
    · exact keeps_skip.bind fun _ => .pure rfl
    · exact movesWith_numberPattern

lemma movesWith_mappingItem (hR : RulesMove f R) (h : MovesWith f pattern pattern) :
    MovesWith f (mappingItem? R pattern) (mappingItem? R pattern) := by
  refine (keeps_nextIs _).bind fun _ => .ite (fun _ => .pure rfl) fun _ => ?_
  refine (keeps_skipIf _).bind fun _ => .ite (fun _ => ?rest) fun _ => ?pair
  case' rest =>
    refine MovesWith.bind (Alike.map keeps_name fun _ _ hname => ?_) fun entry => ?_
    · exact congrArg MappingEntry.rest hname
  case' pair =>
    refine (movesWith_mappingKey hR).bind fun key => (keeps_expect _).bind fun _ => ?_
    refine h.bind fun p => MovesWith.bind (.pure rfl) fun entry => ?_
  all_goals
    refine (keeps_skipIf _).bind fun comma => (keeps_nextIs _).bind fun closed => ?_
    cases entry <;> exact .ite (fun _ => Alike.error_bind rfl rfl) fun _ => .pure rfl

lemma movesWith_mappingPattern (hR : RulesMove f R)
    (h : MovesWith f pattern pattern) :
    MovesWith f (mappingPattern R pattern) (mappingPattern R pattern) := by
  refine (keeps_expect _).bind fun _ => ?_
  refine (movesWith_many (movesWith_mappingItem hR h)).bind fun entries => ?_
  refine (keeps_expect _).bind fun _ => .pure ?_
  induction entries with
  | nil => rfl
  | cons entry entries ih => cases entry <;> simp_all [movedPattern, movedMappingEntry]

lemma movesWith_closedPattern (hR : RulesMove f R)
    (h : MovesWith f pattern pattern) :
    MovesWith f (closedPattern R pattern) (closedPattern R pattern) := by
  refine keeps_peek.bind fun t => ?_
  split
  · exact alike_refuse
  · exact (movesWith_strings hR _).bind fun _ => .pure rfl
  · exact movesWith_namePattern h
  · exact keeps_skip.bind fun _ => keeps_name.bind fun _ => .pure rfl
  · exact movesWith_groupPattern h
  · exact movesWith_listPattern h
  · exact movesWith_mappingPattern hR h
  · split
    · exact keeps_skip.bind fun _ => .pure rfl
    · exact movesWith_numberPattern.bind fun _ => .pure rfl

lemma movesWith_namedPattern (hR : RulesMove f R) (h : MovesWith f pattern pattern) :
    MovesWith f (namedPattern R pattern) (namedPattern R pattern) := by
  have hclosed := movesWith_closedPattern hR h
  refine movesWith_here.bind fun start => hclosed.bind fun first => ?_
  refine (movesWith_many (movesWith_after _ hclosed)).bind fun rest => ?_
  refine (movesWith_after _ movesWith_name).bind fun id => ?_
  have halternatives : movedPattern f
        (if rest.isEmpty = true then first else .alternatives (first :: rest)) =
      if (moved f rest).isEmpty = true then movedPattern f first
      else .alternatives (movedPattern f first :: moved f rest) := by
    cases rest <;> simp [movedPattern]
  cases id with
  | none => exact .pure halternatives
  | some id =>
    refine .ite (fun _ => alike_settle _ (.error _ _)) fun _ => .pure ?_
    rw [moved_pattern, movedPattern, movedCapture, halternatives]
    rfl

end Nested

section

variable [CharacterNames]

lemma movesWith_pattern (hR : RulesMove f R) (n : Nat) :
    MovesWith f (pattern R n) (pattern R n) := by
  induction n with
  | zero => exact alike_refuse
  | succ n ih => exact movesWith_namedPattern hR ih

lemma movesWith_casePattern (hR : RulesMove f R) (n : Nat) :
    MovesWith f (casePattern R n) (casePattern R n) := by
  refine (movesWith_commaList _ (movesWith_pattern hR n)).bind fun ⟨items, trailing⟩ => ?_
  cases items with
  | nil => exact .pure rfl
  | cons p rest =>
    cases rest with
    | nil => cases trailing <;> exact .pure rfl
    | cons q rest => exact .pure (by simp [movedPattern])

end

/-! ### Simple statements -/

lemma movesWith_assigned (hR : RulesMove f R) : MovesWith f (assigned R) (assigned R) :=
  (keeps_nextIs _).bind fun _ =>
    .ite (fun _ => movesWith_yieldExpr hR) fun _ => movesWith_testList hR

lemma movesWith_assignment (hR : RulesMove f R) (first : Expr) :
    MovesWith f (assignment R first) (assignment R (movedExpr f first)) := by
  refine (movesWith_many (movesWith_after _ (movesWith_assigned hR))).bind fun rest => .pure ?_
  simp only [moved_stmt, movedStmt, movedAll_eq_map, moved_list, moved_expr, ← List.map_cons,
    List.map_dropLast, List.getLastD_eq_getLast?, List.getLast?_map]
  cases (first :: rest).getLast? <;> rfl

lemma movesWith_expressionStatement (hR : RulesMove f R) :
    MovesWith f (expressionStatement R) (expressionStatement R) := by
  refine movesWith_here.bind fun start => ?_
  refine (movesWith_commaList _ (movesWith_starOr hR hR.test)).bind fun ⟨elements, trailing⟩ => ?_
  refine keeps_peek.bind fun t => ?_
  simp only [moved_list, moved_bool, moved_nat, moved_expr, id, List.length_map,
    ← movedExpr_tupleOf, isStarred_movedExpr]
  generalize tupleOf start elements trailing = target
  split
  · exact movesWith_assignment hR target
  · refine .ite (fun _ => ?_) fun _ => .pure rfl
    refine keeps_skip.bind fun _ => hR.test.bind fun annotation => ?_
    exact (movesWith_after _ (movesWith_assigned hR)).bind fun _ => .pure (by simp [movedStmt])
  · refine .ite (fun _ => ?_) fun _ => .pure rfl
    exact keeps_skip.bind fun _ => (movesWith_assigned hR).bind fun _ => .pure rfl
  · exact .pure rfl

lemma movesWith_testOption (hR : RulesMove f R) : MovesWith f (test? R) (test? R) :=
  (keeps_nextSatisfies _).bind fun _ =>
    .ite (fun _ => hR.test.bind fun _ => .pure rfl) fun _ => .pure rfl

lemma movesWith_returnStatement (hR : RulesMove f R) :
    MovesWith f (returnStatement R) (returnStatement R) := by
  refine keeps_skip.bind fun _ => (keeps_nextSatisfies _).bind fun _ => ?_
  refine .ite (fun _ => ?_) fun _ => .pure rfl
  exact (movesWith_testList hR).bind fun _ => .pure rfl

lemma movesWith_raiseStatement (hR : RulesMove f R) :
    MovesWith f (raiseStatement R) (raiseStatement R) := by
  refine keeps_skip.bind fun _ => (movesWith_testOption hR).bind fun exception => ?_
  cases exception with
  | none => exact .pure rfl
  | some exception =>
    exact (movesWith_after _ hR.test).bind fun _ => .pure (by simp [movedStmt])

lemma movesWith_assertStatement (hR : RulesMove f R) :
    MovesWith f (assertStatement R) (assertStatement R) := by
  refine keeps_skip.bind fun _ => hR.test.bind fun condition => ?_
  exact (movesWith_after _ hR.test).bind fun _ => .pure (by simp [movedStmt])

lemma movesWith_dottedName : MovesWith f dottedName dottedName := by
  refine keeps_name.bind fun first => ?_
  exact (movesWith_many (movesWith_after _ movesWith_name)).bind fun rest => .pure (by simp)

lemma movesWith_alias {plain : Parser String} (h : MovesWith f plain plain) :
    MovesWith f (alias_ plain) (alias_ plain) := by
  refine h.bind fun id => ?_
  refine (movesWith_after _ movesWith_name).bind fun other => .pure ?_
  cases other <;> rfl

lemma movesWith_importDots : MovesWith f importDots importDots := by
  refine movesWith_many ?_
  refine (keeps_nextIs _).bind fun _ => (keeps_nextIs _).bind fun _ => ?_
  exact .ite (fun _ => keeps_skip.bind fun _ => .pure rfl) fun _ => .pure rfl

lemma movesWith_importedNames : MovesWith f importedNames importedNames := by
  refine (keeps_skipIf _).bind fun _ => .ite (fun _ => .pure rfl) fun _ => ?_
  refine (keeps_skipIf _).bind fun _ => .ite (fun _ => ?_) fun _ => ?_
  · refine (movesWith_commaList _ (movesWith_alias movesWith_name)).bind fun ⟨names, _⟩ => ?_
    exact (keeps_expect _).bind fun _ => .pure rfl
  · exact movesWith_strictCommaList (movesWith_alias movesWith_name)

lemma movesWith_fromStatement : MovesWith f fromStatement fromStatement := by
  have hnames : MovesWith f
      (do
        expect (.keyword .importWord)
        return Stmt.import_ (← importedNames))
      (do
        expect (.keyword .importWord)
        return Stmt.import_ (← importedNames)) :=
    (keeps_expect _).bind fun _ =>
      movesWith_importedNames.bind fun _ => .pure (by simp [movedStmt])
  refine keeps_skip.bind fun _ => movesWith_importDots.bind fun dots => ?_
  refine (keeps_nextSatisfies _).bind fun _ => ?_
  rw [moved_list, List.isEmpty_map]
  exact .ite (fun _ => movesWith_dottedName.bind fun _ => hnames) fun _ => hnames

lemma movesWith_typeParameter (hR : RulesMove f R) :
    MovesWith f (typeParameter R) (typeParameter R) := by
  refine (keeps_nextIs _).bind fun _ => (keeps_nextIs _).bind fun _ => ?_
  refine .ite (fun _ => keeps_skip.bind fun _ => keeps_name.bind fun _ => .pure rfl) fun _ => ?_
  refine keeps_name.bind fun id => (movesWith_after _ hR.test).bind fun bound => .pure ?_
  simp [movedTypeParameter]

lemma movesWith_typeParameters (hR : RulesMove f R) :
    MovesWith f (typeParameters R) (typeParameters R) := by
  refine (keeps_skipIf _).bind fun _ => .ite (fun _ => ?_) fun _ => .pure rfl
  refine (movesWith_commaList _ (movesWith_typeParameter hR)).bind fun ⟨parameters, _⟩ => ?_
  exact (keeps_expect _).bind fun _ => .pure rfl

lemma movesWith_typeStatement (hR : RulesMove f R) :
    MovesWith f (typeStatement R) (typeStatement R) := by
  refine keeps_skip.bind fun _ => movesWith_here.bind fun start => keeps_name.bind fun id => ?_
  refine (movesWith_typeParameters hR).bind fun parameters => (keeps_expect _).bind fun _ => ?_
  exact hR.test.bind fun _ => .pure rfl

lemma movesWith_smallStatement (hR : RulesMove f R) :
    MovesWith f (smallStatement R) (smallStatement R) := by
  have hnames := movesWith_strictCommaList (f := f) movesWith_name
  refine keeps_peek.bind fun t => ?_
  split
  · exact keeps_skip.bind fun _ => .pure rfl
  · exact keeps_skip.bind fun _ => .pure rfl
  · exact keeps_skip.bind fun _ => .pure rfl
  · refine keeps_skip.bind fun _ => (movesWith_operandList hR).bind fun ⟨targets, _⟩ => .pure ?_
    simp [movedStmt]
  · exact movesWith_returnStatement hR
  · exact movesWith_raiseStatement hR
  · exact movesWith_assertStatement hR
  · exact keeps_skip.bind fun _ => hnames.bind fun _ => .pure (by simp [movedStmt])
  · exact keeps_skip.bind fun _ => hnames.bind fun _ => .pure (by simp [movedStmt])
  · refine keeps_skip.bind fun _ => ?_
    exact (movesWith_strictCommaList (movesWith_alias movesWith_dottedName)).bind fun _ =>
      .pure (by simp [movedStmt])
  · exact movesWith_fromStatement
  · exact movesWith_typeStatement hR
  · exact (movesWith_yieldExpr hR).bind fun _ => .pure rfl
  · exact movesWith_expressionStatement hR

lemma movesWith_simpleLine (hR : RulesMove f R) : MovesWith f (simpleLine R) (simpleLine R) := by
  refine (movesWith_smallStatement hR).bind fun first => (movesWith_many ?item).bind fun rest => ?_
  case item =>
    refine (keeps_nextIs _).bind fun _ => keeps_peekSecond.bind fun _ => ?_
    refine .ite (fun _ => ?_) fun _ => .pure rfl
    exact keeps_skip.bind fun _ => (movesWith_smallStatement hR).bind fun _ => .pure rfl
  exact (keeps_skipIf _).bind fun _ => (keeps_expect _).bind fun _ => .pure rfl

/-! ### Compound statements -/

section Compound

variable {block : Parser (List Stmt)}

lemma movesWith_headed (h : MovesWith f block block) :
    MovesWith f (headed block) (headed block) :=
  (keeps_expect _).bind fun _ => h

lemma movesWith_optionalBlock (h : MovesWith f block block) (word : Keyword) :
    MovesWith f (optionalBlock block word) (optionalBlock block word) := by
  refine (movesWith_after _ (movesWith_headed h)).bind fun body => .pure ?_
  cases body <;> rfl

lemma nestElse_moved (orelse : List Stmt) (alternatives : List (Expr × List Stmt)) :
    (nestElse orelse alternatives).map (movedStmt f) =
      nestElse (orelse.map (movedStmt f)) (moved f alternatives) := by
  induction alternatives with
  | nil => rfl
  | cons alternative rest ih =>
    obtain ⟨condition, body⟩ := alternative
    simp only [nestElse, moved_list, List.map_cons, moved_pair, List.map_nil, movedStmt,
      movedBlock_eq_map, ih]
    rfl

lemma movesWith_ifStatement (hR : RulesMove f R) (h : MovesWith f block block) :
    MovesWith f (ifStatement R block) (ifStatement R block) := by
  have hheaded := movesWith_headed h
  refine keeps_skip.bind fun _ => (movesWith_namedTest hR).bind fun condition => ?_
  refine hheaded.bind fun body => (movesWith_many ?item).bind fun alternatives => ?_
  case item =>
    refine movesWith_after _ ((movesWith_namedTest hR).bind fun condition => ?_)
    exact hheaded.bind fun _ => .pure rfl
  refine (movesWith_optionalBlock h _).bind fun orelse => .pure ?_
  simp [movedStmt, nestElse_moved]

lemma movesWith_whileStatement (hR : RulesMove f R) (h : MovesWith f block block) :
    MovesWith f (whileStatement R block) (whileStatement R block) := by
  refine keeps_skip.bind fun _ => (movesWith_namedTest hR).bind fun condition => ?_
  refine (movesWith_headed h).bind fun body => (movesWith_optionalBlock h _).bind fun orelse => ?_
  exact .pure (by simp [movedStmt])

lemma movesWith_forStatement (hR : RulesMove f R) (h : MovesWith f block block) (async : Bool) :
    MovesWith f (forStatement R block async) (forStatement R block async) := by
  refine keeps_skip.bind fun _ => movesWith_here.bind fun start => ?_
  refine (movesWith_operandList hR).bind fun ⟨targets, trailing⟩ => ?_
  refine (keeps_expect _).bind fun _ => ?_
  refine (movesWith_testList hR).bind fun iterable => (movesWith_headed h).bind fun body => ?_
  exact (movesWith_optionalBlock h _).bind fun orelse => .pure (by simp [movedStmt])

lemma movesWith_handler (hR : RulesMove f R) (h : MovesWith f block block) (star : Bool) :
    MovesWith f (handler R block star) (handler R block star) := by
  have hend : ∀ type : Option Expr, MovesWith f
      (do
        let id ← if type.isSome then after? (.keyword .asWord) name else pure none
        return Handler.mk type id (← headed block))
      (do
        let id ← if (moved f type).isSome then after? (.keyword .asWord) name else pure none
        return Handler.mk (moved f type) id (← headed block)) := by
    intro type
    dsimp only
    rw [moved_option, Option.isSome_map]
    refine .ite (fun _ => (movesWith_after _ movesWith_name).bind fun id => ?_) fun _ =>
      MovesWith.bind (.pure rfl) fun id => ?_
    all_goals exact (movesWith_headed h).bind fun body => .pure (by simp [movedHandler])
  have htype : MovesWith f (some <$> R.test) (some <$> R.test) :=
    Alike.map hR.test fun _ _ hvalue => congrArg some hvalue
  refine keeps_skip.bind fun _ => .ite (fun _ => (keeps_expect _).bind fun _ => ?_) fun _ => ?_
  all_goals exact .ite (fun _ => htype.bind hend) fun _ => (movesWith_testOption hR).bind hend

lemma movesWith_tryStatement (hR : RulesMove f R) (h : MovesWith f block block) :
    MovesWith f (tryStatement R block) (tryStatement R block) := by
  refine keeps_skip.bind fun _ => (movesWith_headed h).bind fun body => ?_
  refine (keeps_nextIs _).bind fun _ => .ite (fun _ => ?_) fun _ => ?_
  · refine keeps_peekSecond.bind fun second => (movesWith_many ?item).bind fun handlers => ?_
    case item =>
      refine (keeps_nextIs _).bind fun _ => .ite (fun _ => ?_) fun _ => .pure rfl
      exact (movesWith_handler hR h _).bind fun _ => .pure rfl
    refine (movesWith_optionalBlock h _).bind fun orelse => ?_
    exact (movesWith_optionalBlock h _).bind fun finally_ => .pure (by simp [movedStmt])
  · refine (keeps_expect _).bind fun _ => (movesWith_headed h).bind fun finally_ => ?_
    exact .pure (by simp [movedStmt])

lemma movesWith_withItem (hR : RulesMove f R) : MovesWith f (withItem R) (withItem R) := by
  refine hR.test.bind fun context => (movesWith_after _ hR.operand).bind fun target => .pure ?_
  simp [movedItem]

lemma keeps_itemsInParentheses (hR : RulesMove f R) :
    Keeps f (itemsInParentheses R) (itemsInParentheses R) := by
  have hahead : Keeps f
      (do
        expect (.sign .lparen)
        let _ ← R.test
        let _ ← many (afterComma? startsTest R.test)
        nextIs (.keyword .asWord))
      (do
        expect (.sign .lparen)
        let _ ← R.test
        let _ ← many (afterComma? startsTest R.test)
        nextIs (.keyword .asWord)) :=
    (keeps_expect _).bind fun _ => hR.test.bind fun _ =>
      (movesWith_many (movesWith_afterComma _ hR.test)).bind fun _ => keeps_nextIs _
  intro feed feed' hfeed
  unfold itemsInParentheses
  dsimp only
  rcases (hahead feed feed' hfeed).cases_eq with
    ⟨d, d', hfirst, hsecond⟩ | ⟨a, b, t, t', hfirst, hsecond, rfl, -⟩
  · rw [hfirst, hsecond]
    exact .ok rfl hfeed
  · rw [hfirst, hsecond]
    cases a <;> exact .ok rfl hfeed

lemma keeps_checkItemString : Keeps f checkItemString checkItemString := by
  refine alike_get.bind fun feed feed' hfeed => ?_
  have htoken : (fun l : Lexeme => isString l.token) ∘ movedLexeme f = fun l => isString l.token :=
    rfl
  rw [hfeed.lexemes, List.dropWhile_map, htoken]
  cases feed.lexemes.dropWhile fun l => isString l.token with
  | nil => exact .pure rfl
  | cons l rest =>
    refine (keeps_nextSatisfies _).bind fun _ => ?_
    exact .ite (fun _ => Alike.error rfl rfl) fun _ => .pure rfl

lemma movesWith_withItems (hR : RulesMove f R) : MovesWith f (withItems R) (withItems R) := by
  refine keeps_checkItemString.bind fun _ => (keeps_itemsInParentheses hR).bind fun _ => ?_
  refine .ite (fun _ => ?_) fun _ => movesWith_strictCommaList (movesWith_withItem hR)
  refine (keeps_expect _).bind fun _ => ?_
  refine (movesWith_commaList _ (movesWith_withItem hR)).bind fun ⟨items, _⟩ => ?_
  exact (keeps_expect _).bind fun _ => .pure rfl

lemma movesWith_withStatement (hR : RulesMove f R) (h : MovesWith f block block) (async : Bool) :
    MovesWith f (withStatement R block async) (withStatement R block async) := by
  refine keeps_skip.bind fun _ => (movesWith_withItems hR).bind fun items => ?_
  exact (movesWith_headed h).bind fun body => .pure (by simp [movedStmt])

lemma movesWith_functionStatement (hR : RulesMove f R) (h : MovesWith f block block)
    (async : Bool) (decorators : List Expr) :
    MovesWith f (functionStatement R block async decorators)
      (functionStatement R block async (decorators.map (movedExpr f))) := by
  refine keeps_skip.bind fun _ => keeps_name.bind fun id => ?_
  refine (movesWith_typeParameters hR).bind fun typeParameters => (keeps_expect _).bind fun _ => ?_
  refine (movesWith_parameterList hR _ _).bind fun parameters => (keeps_expect _).bind fun _ => ?_
  refine Keeps.bind (alike_settle _ (distinctNames_moved parameters)) fun _ => ?_
  refine (movesWith_after _ hR.test).bind fun returns => (movesWith_headed h).bind fun body => ?_
  exact .pure (by simp [movedStmt, movedFunctionHead])

lemma movesWith_classStatement (hR : RulesMove f R) (h : MovesWith f block block)
    (decorators : List Expr) :
    MovesWith f (classStatement R block decorators)
      (classStatement R block (decorators.map (movedExpr f))) := by
  refine keeps_skip.bind fun _ => keeps_name.bind fun id => ?_
  refine (movesWith_typeParameters hR).bind fun typeParameters => (keeps_nextIs _).bind fun _ => ?_
  refine .ite (fun _ => (movesWith_argumentList hR).bind fun ⟨bases, keywords⟩ => ?_) fun _ =>
    MovesWith.bind (.pure rfl) fun ⟨bases, keywords⟩ => ?_
  all_goals
    exact (movesWith_headed h).bind fun body => .pure (by simp [movedStmt, movedClassHead])

lemma movesWith_asyncStatement (hR : RulesMove f R) (h : MovesWith f block block)
    (decorators : List Expr) :
    MovesWith f (asyncStatement R block decorators)
      (asyncStatement R block (decorators.map (movedExpr f))) := by
  refine keeps_skip.bind fun _ => keeps_peek.bind fun t => ?_
  cases decorators with
  | nil =>
    rw [List.map_nil]
    split
    · exact movesWith_functionStatement hR h true []
    · exact movesWith_forStatement hR h true
    · exact movesWith_withStatement hR h true
    · exact alike_refuse
  | cons decorator decorators =>
    have hfunction := movesWith_functionStatement hR h true (decorator :: decorators)
    rw [List.map_cons] at hfunction ⊢
    split
    · exact hfunction
    · simp at *
    · simp at *
    · next hdef hfor hwith =>
      split
      · exact absurd rfl hdef
      · simp at *
      · simp at *
      · exact alike_refuse

lemma movesWith_decorator (hR : RulesMove f R) : MovesWith f (decorator R) (decorator R) :=
  (movesWith_namedTest hR).bind fun _ => (keeps_expect _).bind fun _ => .pure rfl

lemma movesWith_decorated (hR : RulesMove f R) (h : MovesWith f block block) :
    MovesWith f (decorated R block) (decorated R block) := by
  refine (movesWith_many (movesWith_after _ (movesWith_decorator hR))).bind fun decorators => ?_
  refine keeps_peek.bind fun t => ?_
  split
  · exact movesWith_functionStatement hR h false decorators
  · exact movesWith_classStatement hR h decorators
  · exact movesWith_asyncStatement hR h decorators
  · exact alike_refuse

variable [CharacterNames]

lemma movesWith_caseClause (hR : RulesMove f R) (h : MovesWith f block block)
    (depth : Nat) :
    MovesWith f (caseClause R block depth) (caseClause R block depth) := by
  refine (keeps_expect _).bind fun _ => (movesWith_casePattern hR depth).bind fun pattern => ?_
  refine (movesWith_after _ (movesWith_namedTest hR)).bind fun guard => ?_
  exact (movesWith_headed h).bind fun body => .pure (by simp [movedCase])

lemma movesWith_matchStatement (hR : RulesMove f R) (h : MovesWith f block block)
    (depth : Nat) :
    MovesWith f (matchStatement R block depth) (matchStatement R block depth) := by
  have hcase := movesWith_caseClause hR h depth
  refine keeps_skip.bind fun _ => movesWith_here.bind fun start => ?_
  refine (movesWith_commaList _ (movesWith_starOrNamed hR)).bind fun ⟨subjects, trailing⟩ => ?_
  refine (keeps_expect _).bind fun _ => (keeps_expect _).bind fun _ => ?_
  refine keeps_expectIndent.bind fun _ => hcase.bind fun first => ?_
  refine (movesWith_many ?item).bind fun rest => (keeps_expect _).bind fun _ => .pure ?_
  case item =>
    refine (keeps_nextIs _).bind fun _ => .ite (fun _ => ?_) fun _ => .pure rfl
    exact hcase.bind fun _ => .pure rfl
  simp [movedStmt]

lemma movesWith_statement (hR : RulesMove f R) (h : MovesWith f block block)
    (depth : Nat) :
    MovesWith f (statement R block depth) (statement R block depth) := by
  refine keeps_peek.bind fun t => ?_
  split
  · exact (movesWith_ifStatement hR h).bind fun _ => .pure rfl
  · exact (movesWith_whileStatement hR h).bind fun _ => .pure rfl
  · exact (movesWith_forStatement hR h false).bind fun _ => .pure rfl
  · exact (movesWith_tryStatement hR h).bind fun _ => .pure rfl
  · exact (movesWith_withStatement hR h false).bind fun _ => .pure rfl
  · exact (movesWith_functionStatement hR h false []).bind fun _ => .pure rfl
  · exact (movesWith_classStatement hR h []).bind fun _ => .pure rfl
  · exact (movesWith_asyncStatement hR h []).bind fun _ => .pure rfl
  · exact (movesWith_matchStatement hR h depth).bind fun _ => .pure rfl
  · exact (movesWith_decorated hR h).bind fun _ => .pure rfl
  · exact movesWith_simpleLine hR

end Compound

variable [CharacterNames]

lemma movesWith_block (hR : RulesMove f R) (depth n : Nat) :
    MovesWith f (block R depth n) (block R depth n) := by
  induction n with
  | zero => exact alike_refuse
  | succ n ih =>
    have hstatement := movesWith_statement hR ih depth
    refine (keeps_skipIf _).bind fun _ => .ite (fun _ => ?_) fun _ => movesWith_simpleLine hR
    refine keeps_expectIndent.bind fun _ => hstatement.bind fun first => ?_
    refine (movesWith_many ?item).bind fun rest => (keeps_expect _).bind fun _ => .pure ?_
    case item =>
      refine (keeps_nextIs _).bind fun _ => .ite (fun _ => .pure rfl) fun _ => ?_
      exact hstatement.bind fun _ => .pure rfl
    simp

/-- The body of a module, taken from a moved feed, is the moved body. -/
theorem movesWith_moduleBody (hR : RulesMove f R) (depth : Nat) :
    MovesWith f (moduleBody R depth) (moduleBody R depth) := by
  refine (movesWith_many ?item).bind fun parts => alike_get.bind fun feed feed' hfeed => ?_
  case item =>
    refine alike_get.bind fun feed feed' hfeed => ?_
    rw [hfeed.lexemes]
    cases feed.lexemes with
    | nil => exact .pure rfl
    | cons l rest =>
      refine .ite (fun _ => keeps_skip.bind fun _ => .pure rfl) fun _ => ?_
      exact (movesWith_statement hR (movesWith_block hR depth depth) depth).bind fun _ => .pure rfl
  have hfault := hfeed.fault
  cases hfirst : feed.fault with
  | none =>
    cases hsecond : feed'.fault with
    | none => exact .pure (by simp)
    | some d => simp [hfirst, hsecond] at hfault
  | some d =>
    cases hsecond : feed'.fault with
    | none => simp [hfirst, hsecond] at hfault
    | some d => exact Alike.error_bind rfl rfl

end SyntaxCheck.Proofs
