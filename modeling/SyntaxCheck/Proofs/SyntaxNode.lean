import Mathlib.Logic.Relation
import SyntaxCheck.Target.Places

/-!
# The nodes of a module tree

Every kind of node that a module tree is made of, with all the nodes directly below it. What occurs
anywhere in a module is what is reached from one of its statements by going down. A target is
exposed if the way down to it enters no keyword argument, no parameter list and no pattern.
-/

namespace SyntaxCheck.Proofs

/-- A node of a module tree. -/
inductive SyntaxNode
  | statement (s : Stmt)
  | expression (e : Expr)
  | clause (c : Clause)
  | argument (a : Argument)
  | parameters (p : Parameters)
  | parameter (p : Parameter)
  | typeParameter (p : TypeParameter)
  | pattern (p : Pattern)
  | withItem (i : WithItem)
  | handler (h : Handler)
  | case (c : Case)

/-- The nodes directly below an expression. -/
def nodesOfExpr : Expr → List SyntaxNode
  | .literal .. | .name .. => []
  | .attribute _ value _ | .starred _ value | .unary _ value | .await _ value
  | .yieldFrom _ value => [.expression value]
  | .subscript _ value index => [.expression value, .expression index]
  | .slice _ lower upper step =>
    (lower.toList ++ upper.toList ++ step.toList).map .expression
  | .tuple _ elements | .list _ elements | .set _ elements | .boolean _ elements
  | .formatted _ elements => elements.map .expression
  | .dict _ keys values => (keys.flatMap Option.toList ++ values).map .expression
  | .call _ function arguments keywords =>
    .expression function :: (arguments.map .expression ++ keywords.map .argument)
  | .binary _ left right => [.expression left, .expression right]
  | .compare _ left comparators => .expression left :: comparators.map .expression
  | .conditional _ condition thenValue elseValue =>
    [.expression condition, .expression thenValue, .expression elseValue]
  | .named _ target value => [.expression target, .expression value]
  | .lambda _ parameters body => [.parameters parameters, .expression body]
  | .yield _ value => value.toList.map .expression
  | .listComprehension _ element clauses | .setComprehension _ element clauses
  | .generator _ element clauses => .expression element :: clauses.map .clause
  | .dictComprehension _ key value clauses =>
    .expression key :: .expression value :: clauses.map .clause
  | .field _ value spec => .expression value :: spec.toList.map .expression

/-- The nodes directly below a pattern. -/
def nodesOfPattern : Pattern → List SyntaxNode
  | .value value => [.expression value]
  | .singleton _ | .star _ => []
  | .sequence patterns | .alternatives patterns => patterns.map .pattern
  | .mapping keys patterns _ => keys.map .expression ++ patterns.map .pattern
  | .class_ name patterns keywords =>
    .expression name :: (patterns.map .pattern ++ keywords.map fun k => .pattern k.2)
  | .capture pattern _ => pattern.toList.map .pattern

/-- The nodes directly below a statement. -/
def nodesOfStmt : Stmt → List SyntaxNode
  | .expression value => [.expression value]
  | .assign targets value => targets.map .expression ++ [.expression value]
  | .augment target value => [.expression target, .expression value]
  | .annotate target type value =>
    .expression target :: .expression type :: value.toList.map .expression
  | .delete targets => targets.map .expression
  | .return_ value => value.toList.map .expression
  | .raise exception cause => (exception.toList ++ cause.toList).map .expression
  | .assert condition message => .expression condition :: message.toList.map .expression
  | .pass | .break_ | .continue_ | .import_ _ | .global _ | .nonlocal _ => []
  | .typeAlias name parameters value =>
    .expression name :: (parameters.map .typeParameter ++ [.expression value])
  | .function head body =>
    head.decorators.map .expression ++ [.parameters head.parameters] ++
      head.returns.toList.map .expression ++ head.typeParameters.map .typeParameter ++
      body.map .statement
  | .class_ head body =>
    head.bases.map .expression ++ head.keywords.map .argument ++
      head.decorators.map .expression ++ head.typeParameters.map .typeParameter ++
      body.map .statement
  | .if_ condition body orelse | .while_ condition body orelse =>
    .expression condition :: (body ++ orelse).map .statement
  | .for_ _ target iterable body orelse =>
    .expression target :: .expression iterable :: (body ++ orelse).map .statement
  | .with_ _ items body => items.map .withItem ++ body.map .statement
  | .try_ _ body handlers orelse finally_ =>
    handlers.map .handler ++ (body ++ orelse ++ finally_).map .statement
  | .match_ subject cases => .expression subject :: cases.map .case

namespace SyntaxNode

/-- The nodes directly below a node. -/
def children : SyntaxNode → List SyntaxNode
  | .statement s => nodesOfStmt s
  | .expression e => nodesOfExpr e
  | .clause (.mk target iterable conditions) =>
    .expression target :: .expression iterable :: conditions.map .expression
  | .argument (.mk _ value) => [.expression value]
  | .parameters (.mk positionalOnly positional rest keywordOnly keywordRest) =>
    (positionalOnly ++ positional ++ rest.toList ++ keywordOnly ++ keywordRest.toList).map
      .parameter
  | .parameter (.mk _ _ type default) => (type.toList ++ default.toList).map .expression
  | .typeParameter p => p.bound.toList.map .expression
  | .pattern p => nodesOfPattern p
  | .withItem item => .expression item.context :: item.target.toList.map .expression
  | .handler (.mk type _ body) => type.toList.map .expression ++ body.map .statement
  | .case (.mk p guard body) =>
    .pattern p :: (guard.toList.map .expression ++ body.map .statement)

/-- The targets that stand directly in a node. -/
def ownTargets : SyntaxNode → List Target
  | .statement (.assign targets _) => targets.map .stored
  | .statement (.augment target _) => [.augmented target]
  | .statement (.annotate target _ _) => [.annotated target]
  | .statement (.delete targets) => targets.map .deleted
  | .statement (.for_ _ target _ _ _) => [.stored target]
  | .clause (.mk target _ _) => [.stored target]
  | .withItem item => item.target.toList.map .stored
  | _ => []

/-- Whether the node is one that the listing of targets goes into. -/
def isOpen : SyntaxNode → Bool
  | .argument _ | .parameters _ | .parameter _ | .pattern _ => false
  | _ => true

/-- Going down from a node to any node below it. -/
def Below : SyntaxNode → SyntaxNode → Prop :=
  Relation.ReflTransGen fun parent child => child ∈ parent.children

/-- Going down from a node through open nodes only. -/
def OpenlyBelow : SyntaxNode → SyntaxNode → Prop :=
  Relation.ReflTransGen fun parent child => child ∈ parent.children ∧ child.isOpen = true

end SyntaxNode

/-- The target stands somewhere in the module. -/
def OccursIn (module : List Stmt) (t : Target) : Prop :=
  ∃ s ∈ module, ∃ node, SyntaxNode.Below (.statement s) node ∧ t ∈ node.ownTargets

/-- The target stands in the module outside of keyword arguments, parameter lists and patterns. -/
def ExposedIn (module : List Stmt) (t : Target) : Prop :=
  ∃ s ∈ module, ∃ node, SyntaxNode.OpenlyBelow (.statement s) node ∧ t ∈ node.ownTargets

lemma below_of_openlyBelow {a b : SyntaxNode} (h : a.OpenlyBelow b) : a.Below b := by
  induction h with
  | refl => exact Relation.ReflTransGen.refl
  | tail _ hstep ih => exact ih.tail hstep.1

theorem occursIn_of_exposedIn {module : List Stmt} {t : Target} (h : ExposedIn module t) :
    OccursIn module t := by
  obtain ⟨s, hs, node, hbelow, ht⟩ := h
  exact ⟨s, hs, node, below_of_openlyBelow hbelow, ht⟩

/-! ### Nodes below a node are smaller -/

lemma sizeOf_lt_of_mem_nodesOfExpr (e : Expr) :
    ∀ c ∈ nodesOfExpr e, sizeOf c < sizeOf (SyntaxNode.expression e) := by
  intro c hc
  cases e <;> grind [nodesOfExpr, → List.sizeOf_lt_of_mem]

lemma sizeOf_lt_of_mem_nodesOfPattern (p : Pattern) :
    ∀ c ∈ nodesOfPattern p, sizeOf c < sizeOf (SyntaxNode.pattern p) := by
  intro c hc
  cases p <;> grind [nodesOfPattern, → List.sizeOf_lt_of_mem]

lemma sizeOf_lt_of_mem_nodesOfStmt (s : Stmt) :
    ∀ c ∈ nodesOfStmt s, sizeOf c < sizeOf (SyntaxNode.statement s) := by
  intro c hc
  cases s with
  | function head body | class_ head body =>
    cases head
    grind [nodesOfStmt, → List.sizeOf_lt_of_mem]
  | _ => grind [nodesOfStmt, → List.sizeOf_lt_of_mem]

theorem sizeOf_lt_of_mem_children (node : SyntaxNode) :
    ∀ c ∈ node.children, sizeOf c < sizeOf node := by
  cases node with
  | statement s => exact sizeOf_lt_of_mem_nodesOfStmt s
  | expression e => exact sizeOf_lt_of_mem_nodesOfExpr e
  | pattern p => exact sizeOf_lt_of_mem_nodesOfPattern p
  | clause x | argument x | parameters x | parameter x | typeParameter x | withItem x
  | handler x | case x =>
    intro c hc
    cases x
    grind [SyntaxNode.children, → List.sizeOf_lt_of_mem]

end SyntaxCheck.Proofs
