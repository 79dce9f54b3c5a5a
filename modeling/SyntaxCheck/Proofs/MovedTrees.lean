import Mathlib.Tactic
import SyntaxCheck.Proofs.TargetGrammar
import SyntaxCheck.Target.Places

/-!
# Trees with moved offsets

A text can be changed in a way that only moves what stands in it. The tree of the changed text is
the tree of the text with every offset moved. Faults of targets move along, and the first of them
stays the first if what comes later is moved to where it comes later.
-/

namespace SyntaxCheck.Proofs

variable {f : Nat → Nat}

/-- A found value at the place where it is moved to. -/
def movedFinding {α : Type} (f : Nat → Nat) (d : Located α) : Located α :=
  ⟨d.value, f d.offset⟩

/-! ### Expressions -/

mutual

/-- An expression with every offset in it moved. -/
def movedExpr (f : Nat → Nat) : Expr → Expr
  | .literal s value => .literal (f s) value
  | .name s id => .name (f s) id
  | .attribute s value attr => .attribute (f s) (movedExpr f value) attr
  | .subscript s value index => .subscript (f s) (movedExpr f value) (movedExpr f index)
  | .slice s lower upper step =>
    .slice (f s) (movedOption f lower) (movedOption f upper) (movedOption f step)
  | .starred s value => .starred (f s) (movedExpr f value)
  | .tuple s elements => .tuple (f s) (movedAll f elements)
  | .list s elements => .list (f s) (movedAll f elements)
  | .set s elements => .set (f s) (movedAll f elements)
  | .dict s keys values => .dict (f s) (movedKeys f keys) (movedAll f values)
  | .call s function arguments keywords =>
    .call (f s) (movedExpr f function) (movedAll f arguments) (movedArguments f keywords)
  | .boolean s operands => .boolean (f s) (movedAll f operands)
  | .binary s left right => .binary (f s) (movedExpr f left) (movedExpr f right)
  | .unary s operand => .unary (f s) (movedExpr f operand)
  | .compare s left comparators => .compare (f s) (movedExpr f left) (movedAll f comparators)
  | .conditional s condition thenValue elseValue =>
    .conditional (f s) (movedExpr f condition) (movedExpr f thenValue) (movedExpr f elseValue)
  | .named s target value => .named (f s) (movedExpr f target) (movedExpr f value)
  | .lambda s parameters body => .lambda (f s) (movedParameters f parameters) (movedExpr f body)
  | .await s value => .await (f s) (movedExpr f value)
  | .yield s value => .yield (f s) (movedOption f value)
  | .yieldFrom s value => .yieldFrom (f s) (movedExpr f value)
  | .listComprehension s element clauses =>
    .listComprehension (f s) (movedExpr f element) (movedClauses f clauses)
  | .setComprehension s element clauses =>
    .setComprehension (f s) (movedExpr f element) (movedClauses f clauses)
  | .dictComprehension s key value clauses =>
    .dictComprehension (f s) (movedExpr f key) (movedExpr f value) (movedClauses f clauses)
  | .generator s element clauses =>
    .generator (f s) (movedExpr f element) (movedClauses f clauses)
  | .formatted s parts => .formatted (f s) (movedAll f parts)
  | .field s value spec => .field (f s) (movedExpr f value) (movedOption f spec)

/-- An expression that may be missing, moved. -/
def movedOption (f : Nat → Nat) : Option Expr → Option Expr
  | none => none
  | some e => some (movedExpr f e)

/-- Expressions, moved. -/
def movedAll (f : Nat → Nat) : List Expr → List Expr
  | [] => []
  | e :: rest => movedExpr f e :: movedAll f rest

/-- The keys of a dictionary display, moved. -/
def movedKeys (f : Nat → Nat) : List (Option Expr) → List (Option Expr)
  | [] => []
  | key :: rest => movedOption f key :: movedKeys f rest

/-- A clause of a comprehension, moved. -/
def movedClause (f : Nat → Nat) : Clause → Clause
  | .mk target iterable conditions =>
    .mk (movedExpr f target) (movedExpr f iterable) (movedAll f conditions)

/-- The clauses of a comprehension, moved. -/
def movedClauses (f : Nat → Nat) : List Clause → List Clause
  | [] => []
  | c :: rest => movedClause f c :: movedClauses f rest

/-- A keyword argument, moved. -/
def movedArgument (f : Nat → Nat) : Argument → Argument
  | .mk name value => .mk name (movedExpr f value)

/-- Keyword arguments, moved. -/
def movedArguments (f : Nat → Nat) : List Argument → List Argument
  | [] => []
  | a :: rest => movedArgument f a :: movedArguments f rest

/-- A parameter, moved. -/
def movedParameter (f : Nat → Nat) : Parameter → Parameter
  | .mk s name type default => .mk (f s) name (movedOption f type) (movedOption f default)

/-- A parameter that may be missing, moved. -/
def movedRest (f : Nat → Nat) : Option Parameter → Option Parameter
  | none => none
  | some p => some (movedParameter f p)

/-- Parameters of one kind, moved. -/
def movedKind (f : Nat → Nat) : List Parameter → List Parameter
  | [] => []
  | p :: rest => movedParameter f p :: movedKind f rest

/-- A parameter list, moved. -/
def movedParameters (f : Nat → Nat) : Parameters → Parameters
  | .mk positionalOnly positional rest keywordOnly keywordRest =>
    .mk (movedKind f positionalOnly) (movedKind f positional) (movedRest f rest)
      (movedKind f keywordOnly) (movedRest f keywordRest)

end

@[simp] lemma movedOption_eq_map (e : Option Expr) : movedOption f e = e.map (movedExpr f) := by
  cases e <;> rfl

@[simp] lemma movedAll_eq_map (es : List Expr) : movedAll f es = es.map (movedExpr f) := by
  induction es with
  | nil => rfl
  | cons e es ih => rw [movedAll, ih, List.map_cons]

@[simp] lemma movedKeys_eq_map (keys : List (Option Expr)) :
    movedKeys f keys = keys.map (Option.map (movedExpr f)) := by
  induction keys with
  | nil => rfl
  | cons key keys ih => rw [movedKeys, ih, movedOption_eq_map, List.map_cons]

@[simp] lemma movedClauses_eq_map (cs : List Clause) :
    movedClauses f cs = cs.map (movedClause f) := by
  induction cs with
  | nil => rfl
  | cons c cs ih => rw [movedClauses, ih, List.map_cons]

@[simp] lemma movedArguments_eq_map (as : List Argument) :
    movedArguments f as = as.map (movedArgument f) := by
  induction as with
  | nil => rfl
  | cons a as ih => rw [movedArguments, ih, List.map_cons]

@[simp] lemma movedRest_eq_map (p : Option Parameter) :
    movedRest f p = p.map (movedParameter f) := by
  cases p <;> rfl

@[simp] lemma movedKind_eq_map (ps : List Parameter) :
    movedKind f ps = ps.map (movedParameter f) := by
  induction ps with
  | nil => rfl
  | cons p ps ih => rw [movedKind, ih, List.map_cons]

@[simp] lemma start_movedExpr (e : Expr) : (movedExpr f e).start = f e.start := by
  cases e <;> rfl

@[simp] lemma isStarred_movedExpr (e : Expr) : (movedExpr f e).isStarred = e.isStarred := by
  cases e <;> rfl

@[simp] lemma description_movedExpr (e : Expr) : (movedExpr f e).description = e.description := by
  cases e with
  | literal s value => cases value <;> rfl
  | _ => rfl

/-! ### Statements -/

/-- A parameter of a generic definition, moved. -/
def movedTypeParameter (f : Nat → Nat) (p : TypeParameter) : TypeParameter :=
  { p with bound := movedOption f p.bound }

/-- An item of a `with` statement, moved. -/
def movedItem (f : Nat → Nat) (item : WithItem) : WithItem :=
  ⟨movedExpr f item.context, movedOption f item.target⟩

/-- The head of a function definition, moved. -/
def movedFunctionHead (f : Nat → Nat) (head : FunctionHead) : FunctionHead :=
  { head with
    parameters := movedParameters f head.parameters
    decorators := movedAll f head.decorators
    returns := movedOption f head.returns
    typeParameters := head.typeParameters.map (movedTypeParameter f) }

/-- The head of a class definition, moved. -/
def movedClassHead (f : Nat → Nat) (head : ClassHead) : ClassHead :=
  { head with
    bases := movedAll f head.bases
    keywords := movedArguments f head.keywords
    decorators := movedAll f head.decorators
    typeParameters := head.typeParameters.map (movedTypeParameter f) }

mutual

/-- A pattern, moved. -/
def movedPattern (f : Nat → Nat) : Pattern → Pattern
  | .value value => .value (movedExpr f value)
  | .singleton value => .singleton value
  | .sequence patterns => .sequence (movedPatterns f patterns)
  | .mapping keys patterns rest => .mapping (movedAll f keys) (movedPatterns f patterns) rest
  | .class_ name patterns keywords =>
    .class_ (movedExpr f name) (movedPatterns f patterns) (movedKeywords f keywords)
  | .star name => .star name
  | .capture pattern name => .capture (movedCapture f pattern) name
  | .alternatives patterns => .alternatives (movedPatterns f patterns)

/-- Patterns, moved. -/
def movedPatterns (f : Nat → Nat) : List Pattern → List Pattern
  | [] => []
  | p :: rest => movedPattern f p :: movedPatterns f rest

/-- A pattern that may be missing, moved. -/
def movedCapture (f : Nat → Nat) : Option Pattern → Option Pattern
  | none => none
  | some p => some (movedPattern f p)

/-- The keywords of a class pattern, moved. -/
def movedKeywords (f : Nat → Nat) : List (String × Pattern) → List (String × Pattern)
  | [] => []
  | (name, p) :: rest => (name, movedPattern f p) :: movedKeywords f rest

end

mutual

/-- A statement with every offset in it moved. -/
def movedStmt (f : Nat → Nat) : Stmt → Stmt
  | .expression value => .expression (movedExpr f value)
  | .assign targets value => .assign (movedAll f targets) (movedExpr f value)
  | .augment target value => .augment (movedExpr f target) (movedExpr f value)
  | .annotate target annotation value =>
    .annotate (movedExpr f target) (movedExpr f annotation) (movedOption f value)
  | .delete targets => .delete (movedAll f targets)
  | .return_ value => .return_ (movedOption f value)
  | .raise exception cause => .raise (movedOption f exception) (movedOption f cause)
  | .assert condition message => .assert (movedExpr f condition) (movedOption f message)
  | .pass => .pass
  | .break_ => .break_
  | .continue_ => .continue_
  | .import_ names => .import_ names
  | .global names => .global names
  | .nonlocal names => .nonlocal names
  | .typeAlias name parameters value =>
    .typeAlias (movedExpr f name) (parameters.map (movedTypeParameter f)) (movedExpr f value)
  | .function head body => .function (movedFunctionHead f head) (movedBlock f body)
  | .class_ head body => .class_ (movedClassHead f head) (movedBlock f body)
  | .if_ condition body orelse =>
    .if_ (movedExpr f condition) (movedBlock f body) (movedBlock f orelse)
  | .while_ condition body orelse =>
    .while_ (movedExpr f condition) (movedBlock f body) (movedBlock f orelse)
  | .for_ async target iterable body orelse =>
    .for_ async (movedExpr f target) (movedExpr f iterable) (movedBlock f body)
      (movedBlock f orelse)
  | .with_ async items body => .with_ async (items.map (movedItem f)) (movedBlock f body)
  | .try_ star body handlers orelse finally_ =>
    .try_ star (movedBlock f body) (movedHandlers f handlers) (movedBlock f orelse)
      (movedBlock f finally_)
  | .match_ subject cases => .match_ (movedExpr f subject) (movedCases f cases)

/-- Statements, moved. -/
def movedBlock (f : Nat → Nat) : List Stmt → List Stmt
  | [] => []
  | s :: rest => movedStmt f s :: movedBlock f rest

/-- A clause for exceptions, moved. -/
def movedHandler (f : Nat → Nat) : Handler → Handler
  | .mk type name body => .mk (movedOption f type) name (movedBlock f body)

/-- Clauses for exceptions, moved. -/
def movedHandlers (f : Nat → Nat) : List Handler → List Handler
  | [] => []
  | h :: rest => movedHandler f h :: movedHandlers f rest

/-- A clause of a `match`, moved. -/
def movedCase (f : Nat → Nat) : Case → Case
  | .mk pattern guard body => .mk (movedPattern f pattern) (movedOption f guard) (movedBlock f body)

/-- Clauses of a `match`, moved. -/
def movedCases (f : Nat → Nat) : List Case → List Case
  | [] => []
  | c :: rest => movedCase f c :: movedCases f rest

end

@[simp] lemma movedPatterns_eq_map (ps : List Pattern) :
    movedPatterns f ps = ps.map (movedPattern f) := by
  induction ps with
  | nil => rfl
  | cons p ps ih => rw [movedPatterns, ih, List.map_cons]

@[simp] lemma movedCapture_eq_map (p : Option Pattern) :
    movedCapture f p = p.map (movedPattern f) := by
  cases p <;> rfl

@[simp] lemma movedKeywords_eq_map (ks : List (String × Pattern)) :
    movedKeywords f ks = ks.map (Prod.map id (movedPattern f)) := by
  induction ks with
  | nil => rfl
  | cons k ks ih =>
    obtain ⟨name, p⟩ := k
    rw [movedKeywords, ih, List.map_cons]
    rfl

@[simp] lemma movedBlock_eq_map (block : List Stmt) :
    movedBlock f block = block.map (movedStmt f) := by
  induction block with
  | nil => rfl
  | cons s block ih => rw [movedBlock, ih, List.map_cons]

@[simp] lemma movedHandlers_eq_map (hs : List Handler) :
    movedHandlers f hs = hs.map (movedHandler f) := by
  induction hs with
  | nil => rfl
  | cons h hs ih => rw [movedHandlers, ih, List.map_cons]

@[simp] lemma movedCases_eq_map (cs : List Case) :
    movedCases f cs = cs.map (movedCase f) := by
  induction cs with
  | nil => rfl
  | cons c cs ih => rw [movedCases, ih, List.map_cons]

/-! ### Faults of targets -/

/-- A target, moved. -/
def movedTarget (f : Nat → Nat) : Target → Target
  | .stored e => .stored (movedExpr f e)
  | .deleted e => .deleted (movedExpr f e)
  | .augmented e => .augmented (movedExpr f e)
  | .annotated e => .annotated (movedExpr f e)

lemma nameFault_moved (use : TargetUse) (start : Nat) (id : String) :
    Expr.nameFault? use (f start) id = (Expr.nameFault? use start id).map (movedFinding f) := by
  unfold Expr.nameFault?
  split <;> rfl

mutual

lemma targetFault_movedExpr (use : TargetUse) (e : Expr) :
    (movedExpr f e).targetFault? use = (e.targetFault? use).map (movedFinding f) := by
  cases e with
  | name s id => exact nameFault_moved use s id
  | tuple s elements => exact sequenceFault_movedAll use false elements
  | list s elements => exact sequenceFault_movedAll use false elements
  | starred s value => cases use <;> rfl
  | literal s value => cases value <;> rfl
  | _ => rfl
termination_by sizeOf e

lemma sequenceFault_movedAll (use : TargetUse) (seen : Bool) (elements : List Expr) :
    Expr.sequenceFault? use seen (movedAll f elements) =
      (Expr.sequenceFault? use seen elements).map (movedFinding f) := by
  cases elements with
  | nil => rfl
  | cons e rest =>
    rw [movedAll]
    cases hstar : e.isStarred with
    | true =>
      obtain ⟨start, value, rfl⟩ := exists_of_isStarred hstar
      have hvalue := targetFault_movedExpr .store value
      have hrest := sequenceFault_movedAll .store true rest
      cases use with
      | delete => rfl
      | store =>
        cases seen with
        | true => rfl
        | false =>
          simp only [movedExpr, Expr.sequenceFault?, Bool.false_eq_true, if_false,
            Option.orElse_eq_orElse, Option.orElse_eq_or, hvalue, hrest, Option.map_or]
    | false =>
      have hmoved : (movedExpr f e).isStarred = false := by rw [isStarred_movedExpr, hstar]
      have hfirst := targetFault_movedExpr use e
      have hrest := sequenceFault_movedAll use seen rest
      rw [sequenceFault_cons_plain hstar, sequenceFault_cons_plain hmoved, hfirst, hrest,
        Option.map_or]
termination_by sizeOf elements

end

lemma fault_movedTarget (t : Target) :
    (movedTarget f t).fault? = t.fault?.map (movedFinding f) := by
  cases t with
  | stored e => exact targetFault_movedExpr .store e
  | deleted e => exact targetFault_movedExpr .delete e
  | augmented e =>
    cases e with
    | name s id => exact nameFault_moved .store s id
    | literal s value => cases value <;> rfl
    | _ => rfl
  | annotated e =>
    cases e with
    | name s id => exact nameFault_moved .store s id
    | _ => rfl

/-! ### The targets of a module -/

mutual

lemma targets_movedExpr (e : Expr) : (movedExpr f e).targets = e.targets.map (movedTarget f) := by
  cases e with
  | literal | name => rfl
  | _ =>
    simp only [movedExpr, Expr.targets, List.map_append]
    simp only [targets_movedExpr, targets_movedOption, targets_movedAll, targets_movedKeys,
      targets_movedClauses]

lemma targets_movedOption (e : Option Expr) :
    targetsOfOption (movedOption f e) = (targetsOfOption e).map (movedTarget f) := by
  cases e with
  | none => rfl
  | some e => exact targets_movedExpr e

lemma targets_movedAll (es : List Expr) :
    targetsOfAll (movedAll f es) = (targetsOfAll es).map (movedTarget f) := by
  cases es with
  | nil => rfl
  | cons e es =>
    rw [movedAll, targetsOfAll, targetsOfAll, List.map_append, targets_movedExpr e,
      targets_movedAll es]

lemma targets_movedKeys (keys : List (Option Expr)) :
    targetsOfKeys (movedKeys f keys) = (targetsOfKeys keys).map (movedTarget f) := by
  cases keys with
  | nil => rfl
  | cons key keys =>
    rw [movedKeys, targetsOfKeys, targetsOfKeys, List.map_append, targets_movedOption key,
      targets_movedKeys keys]

lemma targets_movedClause (c : Clause) :
    (movedClause f c).targets = c.targets.map (movedTarget f) := by
  cases c with
  | mk target iterable conditions =>
    rw [movedClause, Clause.targets, Clause.targets, List.map_cons, List.map_append,
      List.map_append, targets_movedExpr target, targets_movedExpr iterable,
      targets_movedAll conditions]
    rfl

lemma targets_movedClauses (cs : List Clause) :
    targetsOfClauses (movedClauses f cs) = (targetsOfClauses cs).map (movedTarget f) := by
  cases cs with
  | nil => rfl
  | cons c cs =>
    rw [movedClauses, targetsOfClauses, targetsOfClauses, List.map_append, targets_movedClause c,
      targets_movedClauses cs]

end

lemma targets_movedBounds (parameters : List TypeParameter) :
    targetsOfBounds (parameters.map (movedTypeParameter f)) =
      (targetsOfBounds parameters).map (movedTarget f) := by
  rw [targetsOfBounds, targetsOfBounds, List.flatMap_map, List.map_flatMap]
  congr 1
  funext p
  exact targets_movedOption p.bound

lemma targets_movedItem (item : WithItem) :
    (movedItem f item).targets = item.targets.map (movedTarget f) := by
  rw [movedItem, WithItem.targets, WithItem.targets, List.map_append, List.map_append,
    targets_movedExpr, targets_movedOption]
  cases item.target <;> rfl

lemma targets_movedItems (items : List WithItem) :
    (items.map (movedItem f)).flatMap WithItem.targets =
      (items.flatMap WithItem.targets).map (movedTarget f) := by
  rw [List.flatMap_map, List.map_flatMap]
  congr 1
  funext item
  exact targets_movedItem item

lemma stored_movedAll (es : List Expr) :
    (movedAll f es).map Target.stored = (es.map Target.stored).map (movedTarget f) := by
  rw [movedAll_eq_map, List.map_map, List.map_map]
  rfl

lemma deleted_movedAll (es : List Expr) :
    (movedAll f es).map Target.deleted = (es.map Target.deleted).map (movedTarget f) := by
  rw [movedAll_eq_map, List.map_map, List.map_map]
  rfl

mutual

lemma targets_movedStmt (s : Stmt) : (movedStmt f s).targets = s.targets.map (movedTarget f) := by
  cases s with
  | pass | break_ | continue_ | import_ | global | nonlocal => rfl
  | function | class_ | if_ | while_ | for_ | with_ | try_ | match_ =>
    simp only [movedStmt, Stmt.targets, movedFunctionHead, FunctionHead.targets, movedClassHead,
      movedTarget, List.map_append, List.map_cons, targets_movedBounds, targets_movedItems,
      targets_movedExpr, targets_movedOption, targets_movedAll]
    simp only [targets_movedBlock, targets_movedHandlers, targets_movedCases]
  | _ =>
    simp only [movedStmt, Stmt.targets, movedTarget, List.map_append, List.map_cons,
      stored_movedAll, deleted_movedAll, targets_movedBounds, targets_movedExpr,
      targets_movedOption, targets_movedAll]

lemma targets_movedBlock (block : List Stmt) :
    targetsOfBlock (movedBlock f block) = (targetsOfBlock block).map (movedTarget f) := by
  cases block with
  | nil => rfl
  | cons s block =>
    rw [movedBlock, targetsOfBlock, targetsOfBlock, List.map_append, targets_movedStmt s,
      targets_movedBlock block]

lemma targets_movedHandler (h : Handler) :
    (movedHandler f h).targets = h.targets.map (movedTarget f) := by
  cases h with
  | mk type name body =>
    rw [movedHandler, Handler.targets, Handler.targets, List.map_append, targets_movedOption,
      targets_movedBlock body]

lemma targets_movedHandlers (hs : List Handler) :
    targetsOfHandlers (movedHandlers f hs) = (targetsOfHandlers hs).map (movedTarget f) := by
  cases hs with
  | nil => rfl
  | cons h hs =>
    rw [movedHandlers, targetsOfHandlers, targetsOfHandlers, List.map_append,
      targets_movedHandler h, targets_movedHandlers hs]

lemma targets_movedCase (c : Case) :
    (movedCase f c).targets = c.targets.map (movedTarget f) := by
  cases c with
  | mk pattern guard body =>
    rw [movedCase, Case.targets, Case.targets, List.map_append, targets_movedOption,
      targets_movedBlock body]

lemma targets_movedCases (cs : List Case) :
    targetsOfCases (movedCases f cs) = (targetsOfCases cs).map (movedTarget f) := by
  cases cs with
  | nil => rfl
  | cons c cs =>
    rw [movedCases, targetsOfCases, targetsOfCases, List.map_append, targets_movedCase c,
      targets_movedCases cs]

end

/-! ### The first fault -/

lemma earlier_moved (hf : StrictMono f) {α : Type} (a b : Option (Located α)) :
    earlier (a.map (movedFinding f)) (b.map (movedFinding f)) =
      (earlier a b).map (movedFinding f) := by
  cases a with
  | none => rfl
  | some a =>
    cases b with
    | none => rfl
    | some b =>
      simp only [Option.map_some, earlier, movedFinding, hf.lt_iff_lt]
      split <;> rfl

lemma earliest_moved (hf : StrictMono f) {α : Type} (findings : List (Located α)) :
    earliest (findings.map (movedFinding f)) = (earliest findings).map (movedFinding f) := by
  induction findings with
  | nil => rfl
  | cons a rest ih =>
    rw [List.map_cons, earliest, earliest, ih, ← earlier_moved hf]
    rfl

/-- The first unfit target of a module moves with the module. -/
theorem firstInvalid_movedBlock (hf : StrictMono f) (module : List Stmt) :
    firstInvalid? (movedBlock f module) = (firstInvalid? module).map (movedFinding f) := by
  have hfaults : (targetsOfBlock (movedBlock f module)).filterMap Target.fault? =
      ((targetsOfBlock module).filterMap Target.fault?).map (movedFinding f) := by
    rw [targets_movedBlock, List.filterMap_map, List.map_filterMap]
    congr 1
    funext t
    exact fault_movedTarget t
  rw [firstInvalid?, hfaults, earliest_moved hf, firstInvalid?]

end SyntaxCheck.Proofs
