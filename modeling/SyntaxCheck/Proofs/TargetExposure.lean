import Mathlib.Tactic
import SyntaxCheck.Proofs.SyntaxNode
import SyntaxCheck.Source

/-!
# Which unfit targets are found

The listing of targets holds exactly those that are exposed. So a module is rejected for an unfit
target exactly if one of its exposed targets is unfit; an unfit target inside a keyword argument, a
parameter list or a pattern goes unnoticed.
-/

namespace SyntaxCheck.Proofs

@[simp] lemma mem_targetsOfOption {e : Option Expr} {t : Target} :
    t ∈ targetsOfOption e ↔ ∃ x, e = some x ∧ t ∈ x.targets := by
  cases e <;> simp [targetsOfOption]

@[simp] lemma mem_targetsOfAll {es : List Expr} {t : Target} :
    t ∈ targetsOfAll es ↔ ∃ e ∈ es, t ∈ e.targets := by
  induction es with
  | nil => simp [targetsOfAll]
  | cons e es ih => simp [targetsOfAll, ih]

@[simp] lemma mem_targetsOfKeys {keys : List (Option Expr)} {t : Target} :
    t ∈ targetsOfKeys keys ↔ ∃ e, some e ∈ keys ∧ t ∈ e.targets := by
  induction keys with
  | nil => simp [targetsOfKeys]
  | cons key keys ih => simp [targetsOfKeys, ih, or_and_right, exists_or, eq_comm]

@[simp] lemma mem_targetsOfClauses {cs : List Clause} {t : Target} :
    t ∈ targetsOfClauses cs ↔ ∃ c ∈ cs, t ∈ c.targets := by
  induction cs with
  | nil => simp [targetsOfClauses]
  | cons c cs ih => simp [targetsOfClauses, ih]

@[simp] lemma mem_targetsOfBlock {block : List Stmt} {t : Target} :
    t ∈ targetsOfBlock block ↔ ∃ s ∈ block, t ∈ s.targets := by
  induction block with
  | nil => simp [targetsOfBlock]
  | cons s block ih => simp [targetsOfBlock, ih]

@[simp] lemma mem_targetsOfHandlers {hs : List Handler} {t : Target} :
    t ∈ targetsOfHandlers hs ↔ ∃ h ∈ hs, t ∈ h.targets := by
  induction hs with
  | nil => simp [targetsOfHandlers]
  | cons h hs ih => simp [targetsOfHandlers, ih]

@[simp] lemma mem_targetsOfCases {cs : List Case} {t : Target} :
    t ∈ targetsOfCases cs ↔ ∃ c ∈ cs, t ∈ c.targets := by
  induction cs with
  | nil => simp [targetsOfCases]
  | cons c cs ih => simp [targetsOfCases, ih]

@[simp] lemma mem_targetsOfBounds {ps : List TypeParameter} {t : Target} :
    t ∈ targetsOfBounds ps ↔ ∃ p ∈ ps, ∃ e, p.bound = some e ∧ t ∈ e.targets := by
  simp [targetsOfBounds]

namespace SyntaxNode

/-- What the listing of targets makes of a node. -/
def listed : SyntaxNode → List Target
  | .statement s => s.targets
  | .expression e => e.targets
  | .clause c => c.targets
  | .typeParameter p => targetsOfOption p.bound
  | .withItem item => item.targets
  | .handler h => h.targets
  | .case c => c.targets
  | .argument _ | .parameters _ | .parameter _ | .pattern _ => []

@[simp] lemma listed_statement (s : Stmt) : (statement s).listed = s.targets := rfl
@[simp] lemma listed_expression (e : Expr) : (expression e).listed = e.targets := rfl
@[simp] lemma listed_clause (c : Clause) : (clause c).listed = c.targets := rfl
@[simp] lemma listed_typeParameter (p : TypeParameter) :
    (typeParameter p).listed = targetsOfOption p.bound := rfl
@[simp] lemma listed_withItem (item : WithItem) : (withItem item).listed = item.targets := rfl
@[simp] lemma listed_handler (h : Handler) : (handler h).listed = h.targets := rfl
@[simp] lemma listed_case (c : Case) : (case c).listed = c.targets := rfl
@[simp] lemma listed_argument (a : Argument) : (argument a).listed = [] := rfl
@[simp] lemma listed_parameters (p : Parameters) : (parameters p).listed = [] := rfl
@[simp] lemma listed_pattern (p : Pattern) : (pattern p).listed = [] := rfl

end SyntaxNode

/-! ### One step down -/

lemma mem_targets_expr {e : Expr} {t : Target} :
    t ∈ e.targets ↔ ∃ c ∈ nodesOfExpr e, t ∈ c.listed := by
  cases e <;> simp [nodesOfExpr, Expr.targets, or_and_right, exists_or]

lemma mem_targets_stmt {s : Stmt} {t : Target} :
    t ∈ s.targets ↔
      t ∈ (SyntaxNode.statement s).ownTargets ∨ ∃ c ∈ nodesOfStmt s, t ∈ c.listed := by
  cases s with
  | function head body =>
    simp [nodesOfStmt, SyntaxNode.ownTargets, Stmt.targets, FunctionHead.targets, or_and_right,
      exists_or, or_comm, or_left_comm]
  | class_ head body =>
    simp [nodesOfStmt, SyntaxNode.ownTargets, Stmt.targets, or_and_right, exists_or, or_comm,
      or_left_comm]
  | try_ star body handlers orelse finally_ =>
    simp [nodesOfStmt, SyntaxNode.ownTargets, Stmt.targets, or_and_right, exists_or, or_left_comm]
  | _ => simp [nodesOfStmt, SyntaxNode.ownTargets, Stmt.targets, or_and_right, exists_or]

/-- The listing of an open node: its own targets, and the listings of the nodes below it. -/
lemma mem_listed_iff {node : SyntaxNode} (hopen : node.isOpen = true) {t : Target} :
    t ∈ node.listed ↔ t ∈ node.ownTargets ∨ ∃ c ∈ node.children, t ∈ c.listed := by
  cases node with
  | statement s => exact mem_targets_stmt
  | expression e => simpa [SyntaxNode.ownTargets, SyntaxNode.children] using mem_targets_expr
  | argument a | parameters p | parameter p | pattern p => simp [SyntaxNode.isOpen] at hopen
  | typeParameter p => simp [SyntaxNode.ownTargets, SyntaxNode.children]
  | clause c =>
    cases c
    simp [SyntaxNode.ownTargets, SyntaxNode.children, Clause.targets]
  | withItem item => simp [SyntaxNode.ownTargets, SyntaxNode.children, WithItem.targets]
  | handler h =>
    cases h
    simp [SyntaxNode.ownTargets, SyntaxNode.children, Handler.targets, or_and_right, exists_or]
  | case c =>
    cases c
    simp [SyntaxNode.ownTargets, SyntaxNode.children, Case.targets, or_and_right, exists_or]

lemma isOpen_of_mem_listed {node : SyntaxNode} {t : Target} (h : t ∈ node.listed) :
    node.isOpen = true := by
  cases node with
  | argument a | parameters p | parameter p | pattern p => simp [SyntaxNode.listed] at h
  | _ => rfl

/-! ### All the way down -/

lemma listed_of_openlyBelow {a b : SyntaxNode} (hopen : a.isOpen = true) (h : a.OpenlyBelow b)
    {t : Target} (ht : t ∈ b.ownTargets) : t ∈ a.listed := by
  induction h using Relation.ReflTransGen.head_induction_on with
  | refl => exact (mem_listed_iff hopen).mpr (.inl ht)
  | head hstep _ ih => exact (mem_listed_iff hopen).mpr (.inr ⟨_, hstep.1, ih hstep.2⟩)

-- The induction is on the size of the node: every node below it is smaller.
lemma openlyBelow_of_listed (a : SyntaxNode) {t : Target} (ht : t ∈ a.listed) :
    ∃ b, a.OpenlyBelow b ∧ t ∈ b.ownTargets := by
  induction hn : sizeOf a using Nat.strong_induction_on generalizing a with
  | _ n ih =>
    rcases (mem_listed_iff (isOpen_of_mem_listed ht)).mp ht with hown | ⟨c, hc, hlisted⟩
    · exact ⟨a, Relation.ReflTransGen.refl, hown⟩
    · have hsize : sizeOf c < n := hn ▸ sizeOf_lt_of_mem_children a c hc
      obtain ⟨b, hbelow, hb⟩ := ih (sizeOf c) hsize c hlisted rfl
      exact ⟨b, hbelow.head ⟨hc, isOpen_of_mem_listed hlisted⟩, hb⟩

theorem mem_targetsOfBlock_iff_exposedIn {module : List Stmt} {t : Target} :
    t ∈ targetsOfBlock module ↔ ExposedIn module t := by
  rw [mem_targetsOfBlock]
  constructor
  · rintro ⟨s, hs, ht⟩
    obtain ⟨node, hbelow, hown⟩ := openlyBelow_of_listed (.statement s) ht
    exact ⟨s, hs, node, hbelow, hown⟩
  · rintro ⟨s, hs, node, hbelow, hown⟩
    exact ⟨s, hs, listed_of_openlyBelow (a := .statement s) rfl hbelow hown⟩

/-! ### Rejection -/

lemma earliest_isSome_iff {α : Type} {l : List (Located α)} :
    (earliest l).isSome = true ↔ l ≠ [] := by
  cases l with
  | nil => simp [earliest]
  | cons a rest =>
    cases h : earliest rest with
    | none => simp [earliest, earlier, h]
    | some b =>
      simp only [earliest, earlier, h]
      split <;> simp

lemma firstInvalid_isSome_iff {module : List Stmt} :
    (firstInvalid? module).isSome = true ↔
      ∃ t, ExposedIn module t ∧ t.fault?.isSome = true := by
  rw [firstInvalid?, earliest_isSome_iff, Ne, List.filterMap_eq_nil_iff]
  simp only [mem_targetsOfBlock_iff_exposedIn, Option.isSome_iff_ne_none]
  push Not
  rfl

lemma checkSource_error_iff [CharacterNames] {text : List Char} :
    (∃ r, checkSource text = .error r) ↔
      (∃ d, parseModule text = .error d) ∨
        ∃ module, parseModule text = .ok module ∧ (firstInvalid? module).isSome = true := by
  unfold checkSource
  cases hparse : parseModule text with
  | error d => simp
  | ok module => cases hfirst : firstInvalid? module <;> simp [hfirst]

lemma checkSource_eq_ok [CharacterNames] {text : List Char} {module : List Stmt}
    (hparse : parseModule text = .ok module) (hfirst : firstInvalid? module = none) :
    checkSource text = .ok () := by
  simp [checkSource, hparse, hfirst]

/-- An unfit target makes the check of a module fail exactly if one is exposed. -/
theorem rejected_iff_exposed_target_unfit [CharacterNames] (module : List Stmt) (text : List Char) :
    ((firstInvalid? module).isSome = true ↔
      ∃ t, ExposedIn module t ∧ t.fault?.isSome = true) ∧
    ((∃ r, checkSource text = .error r) ↔
      (∃ d, parseModule text = .error d) ∨
        ∃ tree, parseModule text = .ok tree ∧
          ∃ t, ExposedIn tree t ∧ t.fault?.isSome = true) := by
  refine ⟨firstInvalid_isSome_iff, ?_⟩
  rw [checkSource_error_iff]
  simp only [firstInvalid_isSome_iff]

/-- A call whose only argument is a comprehension with one clause, given by keyword. -/
def keywordComprehension (keyword : Option String) (function element : Expr) (clause : Clause)
    (start listStart : Nat) : Stmt :=
  .expression
    (.call start function [] [.mk keyword (.listComprehension listStart element [clause])])

lemma occursIn_keywordComprehension (keyword : Option String) (function element target : Expr)
    (iterable : Expr) (conditions : List Expr) (start listStart : Nat) :
    OccursIn [keywordComprehension keyword function element (.mk target iterable conditions)
      start listStart] (.stored target) := by
  refine ⟨_, List.mem_singleton_self _, .clause (.mk target iterable conditions), ?_,
    List.mem_singleton_self _⟩
  let list := Expr.listComprehension listStart element [.mk target iterable conditions]
  let call := Expr.call start function [] [.mk keyword list]
  have hcall : SyntaxNode.Below (.statement (.expression call)) (.expression call) :=
    Relation.ReflTransGen.single (by simp [SyntaxNode.children, nodesOfStmt])
  have hargument :
      SyntaxNode.Below (.statement (.expression call)) (.argument (.mk keyword list)) :=
    hcall.tail (by simp [SyntaxNode.children, nodesOfExpr, call])
  have hlist : SyntaxNode.Below (.statement (.expression call)) (.expression list) :=
    hargument.tail (by simp [SyntaxNode.children])
  exact hlist.tail (by simp [SyntaxNode.children, nodesOfExpr, list])

/-- Whether a parse came to such a call, in which the clause binds a number. -/
def bindsNumberByKeyword : Except Diagnosis (List Stmt) → Bool
  | .ok [.expression (.call _ (.name _ _) []
      [.mk _ (.listComprehension _ _ [.mk (.literal _ .number) _ _])])] => true
  | _ => false

/-- A comprehension that binds a number is accepted where it is given by keyword. -/
theorem unfit_target_in_keyword_argument_accepted :
    ∃ tree t, parseModule "f(x=[a for 1 in b])\n".toList = .ok tree ∧ OccursIn tree t ∧
      t.fault?.isSome = true ∧ firstInvalid? tree = none ∧
      checkSource "f(x=[a for 1 in b])\n".toList = .ok () := by
  have hshape : bindsNumberByKeyword (parseModule "f(x=[a for 1 in b])\n".toList) = true := by
    decide +kernel
  unfold bindsNumberByKeyword at hshape
  split at hshape
  · next start nameStart name keyword listStart element number iterable conditions hparse =>
    have hnone : firstInvalid? [keywordComprehension keyword (.name nameStart name) element
        (.mk (.literal number .number) iterable conditions) start listStart] = none := rfl
    refine ⟨_, _, hparse, occursIn_keywordComprehension keyword (.name nameStart name) element
      (.literal number .number) iterable conditions start listStart, rfl, hnone, ?_⟩
    exact checkSource_eq_ok hparse hnone
  · simp at hshape

end SyntaxCheck.Proofs
