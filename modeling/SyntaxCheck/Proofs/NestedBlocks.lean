import Mathlib.Tactic
import SyntaxCheck.Proofs.EarliestTarget

/-!
# Blocks in statements

The pass over the targets of a statement goes through each of its blocks without a break, with the
targets of its head and of its other blocks before and after. So what is found in a block and what
is found around it can be told apart: of the two the one with the smaller offset counts, and where
nothing is found around a block, at whatever depth it stands, what is found in the block counts.
-/

namespace SyntaxCheck.Proofs

/-! ### Statements one after the other -/

lemma targetsOfBlock_append (a b : List Stmt) :
    targetsOfBlock (a ++ b) = targetsOfBlock a ++ targetsOfBlock b := by
  induction a with
  | nil => rfl
  | cons s a ih => rw [List.cons_append, targetsOfBlock, ih, targetsOfBlock, List.append_assoc]

lemma targetsOfHandlers_append (a b : List Handler) :
    targetsOfHandlers (a ++ b) = targetsOfHandlers a ++ targetsOfHandlers b := by
  induction a with
  | nil => rfl
  | cons h a ih =>
    rw [List.cons_append, targetsOfHandlers, ih, targetsOfHandlers, List.append_assoc]

lemma targetsOfCases_append (a b : List Case) :
    targetsOfCases (a ++ b) = targetsOfCases a ++ targetsOfCases b := by
  induction a with
  | nil => rfl
  | cons c a ih => rw [List.cons_append, targetsOfCases, ih, targetsOfCases, List.append_assoc]

lemma firstInvalid_append (a b : List Stmt) :
    firstInvalid? (a ++ b) = earlier (firstInvalid? a) (firstInvalid? b) := by
  simp only [firstInvalid_eq_recordAll, targetsOfBlock_append, recordAll_append]

lemma earlier_eq_none_iff {α : Type} {a b : Option (Located α)} :
    earlier a b = none ↔ a = none ∧ b = none := by
  cases a with
  | none => simp [earlier]
  | some a =>
    cases b with
    | none => simp [earlier]
    | some b =>
      rw [earlier]
      split <;> simp

/-! ### One statement -/

/-- The block of a clause for exceptions. -/
def handlerBlock : Handler → List Stmt
  | .mk _ _ body => body

/-- The block of a clause of a `match`. -/
def caseBlock : Case → List Stmt
  | .mk _ _ body => body

/-- The blocks of a statement. -/
def blocksOf : Stmt → List (List Stmt)
  | .function _ body | .class_ _ body | .with_ _ _ body => [body]
  | .if_ _ body orelse | .while_ _ body orelse | .for_ _ _ _ body orelse => [body, orelse]
  | .try_ _ body handlers orelse finally_ => body :: handlers.map handlerBlock ++ [orelse, finally_]
  | .match_ _ cases => cases.map caseBlock
  | _ => []

/-- A compound statement without one of its blocks. -/
inductive BlockFrame
  | function (head : FunctionHead)
  | class_ (head : ClassHead)
  | ifBody (condition : Expr) (orelse : List Stmt)
  | ifElse (condition : Expr) (body : List Stmt)
  | whileBody (condition : Expr) (orelse : List Stmt)
  | whileElse (condition : Expr) (body : List Stmt)
  | forBody (async : Bool) (target iterable : Expr) (orelse : List Stmt)
  | forElse (async : Bool) (target iterable : Expr) (body : List Stmt)
  | with_ (async : Bool) (items : List WithItem)
  | tryBody (star : Bool) (handlers : List Handler) (orelse finally_ : List Stmt)
  | tryHandler (star : Bool) (body : List Stmt) (before : List Handler) (type : Option Expr)
      (name : Option String) (after : List Handler) (orelse finally_ : List Stmt)
  | tryElse (star : Bool) (body : List Stmt) (handlers : List Handler) (finally_ : List Stmt)
  | tryFinally (star : Bool) (body : List Stmt) (handlers : List Handler) (orelse : List Stmt)
  | matchCase (subject : Expr) (before : List Case) (pattern : Pattern) (guard : Option Expr)
      (after : List Case)

namespace BlockFrame

/-- The statement with a block put in. -/
def fill (block : List Stmt) : BlockFrame → Stmt
  | function head => .function head block
  | class_ head => .class_ head block
  | ifBody condition orelse => .if_ condition block orelse
  | ifElse condition body => .if_ condition body block
  | whileBody condition orelse => .while_ condition block orelse
  | whileElse condition body => .while_ condition body block
  | forBody async target iterable orelse => .for_ async target iterable block orelse
  | forElse async target iterable body => .for_ async target iterable body block
  | with_ async items => .with_ async items block
  | tryBody star handlers orelse finally_ => .try_ star block handlers orelse finally_
  | tryHandler star body before type name after orelse finally_ =>
    .try_ star body (before ++ .mk type name block :: after) orelse finally_
  | tryElse star body handlers finally_ => .try_ star body handlers block finally_
  | tryFinally star body handlers orelse => .try_ star body handlers orelse block
  | matchCase subject before pattern guard after =>
    .match_ subject (before ++ .mk pattern guard block :: after)

/-- The targets that the pass comes upon before those of the block. -/
def front : BlockFrame → List Target
  | function _ => []
  | class_ head => targetsOfAll head.bases
  | ifBody condition _ | whileBody condition _ => condition.targets
  | ifElse condition body | whileElse condition body => condition.targets ++ targetsOfBlock body
  | forBody _ target iterable _ => .stored target :: (target.targets ++ iterable.targets)
  | forElse _ target iterable body =>
    .stored target :: (target.targets ++ iterable.targets ++ targetsOfBlock body)
  | with_ _ items => items.flatMap WithItem.targets
  | tryBody .. => []
  | tryHandler _ body before type _ _ _ _ =>
    targetsOfBlock body ++ targetsOfHandlers before ++ targetsOfOption type
  | tryElse _ body handlers _ => targetsOfBlock body ++ targetsOfHandlers handlers
  | tryFinally _ body handlers orelse =>
    targetsOfBlock body ++ targetsOfHandlers handlers ++ targetsOfBlock orelse
  | matchCase subject before _ guard _ =>
    subject.targets ++ targetsOfCases before ++ targetsOfOption guard

/-- The targets that the pass comes upon after those of the block. -/
def back : BlockFrame → List Target
  | function head => head.targets
  | class_ head => targetsOfAll head.decorators ++ targetsOfBounds head.typeParameters
  | ifBody _ orelse | whileBody _ orelse | forBody _ _ _ orelse => targetsOfBlock orelse
  | ifElse .. | whileElse .. | forElse .. | with_ .. | tryFinally .. => []
  | tryBody _ handlers orelse finally_ =>
    targetsOfHandlers handlers ++ targetsOfBlock orelse ++ targetsOfBlock finally_
  | tryHandler _ _ _ _ _ after orelse finally_ =>
    targetsOfHandlers after ++ targetsOfBlock orelse ++ targetsOfBlock finally_
  | tryElse _ _ _ finally_ => targetsOfBlock finally_
  | matchCase _ _ _ _ after => targetsOfCases after

end BlockFrame

lemma targets_fill (block : List Stmt) (f : BlockFrame) :
    (f.fill block).targets = f.front ++ targetsOfBlock block ++ f.back := by
  cases f <;>
    simp [BlockFrame.fill, BlockFrame.front, BlockFrame.back, Stmt.targets, Handler.targets,
      Case.targets, targetsOfHandlers, targetsOfHandlers_append, targetsOfCases,
      targetsOfCases_append]

lemma mem_blocksOf_fill (block : List Stmt) (f : BlockFrame) : block ∈ blocksOf (f.fill block) := by
  cases f <;> simp [BlockFrame.fill, blocksOf, handlerBlock, caseBlock]

/-- Every block of a statement can be taken out of it. -/
lemma exists_fill_eq {s : Stmt} {block : List Stmt} (h : block ∈ blocksOf s) :
    ∃ f : BlockFrame, f.fill block = s := by
  cases s with
  | function head body =>
    obtain rfl : block = body := by simpa [blocksOf] using h
    exact ⟨.function head, rfl⟩
  | class_ head body =>
    obtain rfl : block = body := by simpa [blocksOf] using h
    exact ⟨.class_ head, rfl⟩
  | with_ async items body =>
    obtain rfl : block = body := by simpa [blocksOf] using h
    exact ⟨.with_ async items, rfl⟩
  | if_ condition body orelse =>
    obtain rfl | rfl : block = body ∨ block = orelse := by simpa [blocksOf] using h
    · exact ⟨.ifBody condition orelse, rfl⟩
    · exact ⟨.ifElse condition body, rfl⟩
  | while_ condition body orelse =>
    obtain rfl | rfl : block = body ∨ block = orelse := by simpa [blocksOf] using h
    · exact ⟨.whileBody condition orelse, rfl⟩
    · exact ⟨.whileElse condition body, rfl⟩
  | for_ async target iterable body orelse =>
    obtain rfl | rfl : block = body ∨ block = orelse := by simpa [blocksOf] using h
    · exact ⟨.forBody async target iterable orelse, rfl⟩
    · exact ⟨.forElse async target iterable body, rfl⟩
  | try_ star body handlers orelse finally_ =>
    rw [blocksOf, List.mem_append, List.mem_cons, List.mem_map, List.mem_pair] at h
    rcases h with (rfl | ⟨⟨type, name, body'⟩, hmem, rfl⟩) | rfl | rfl
    · exact ⟨.tryBody star handlers orelse finally_, rfl⟩
    · obtain ⟨before, after, rfl⟩ := List.append_of_mem hmem
      exact ⟨.tryHandler star body before type name after orelse finally_, rfl⟩
    · exact ⟨.tryElse star body handlers finally_, rfl⟩
    · exact ⟨.tryFinally star body handlers orelse, rfl⟩
  | match_ subject cases =>
    rw [blocksOf, List.mem_map] at h
    obtain ⟨⟨pattern, guard, body⟩, hmem, rfl⟩ := h
    obtain ⟨before, after, rfl⟩ := List.append_of_mem hmem
    exact ⟨.matchCase subject before pattern guard after, rfl⟩
  | _ => simp [blocksOf] at h

lemma mem_blocksOf_iff {s : Stmt} {block : List Stmt} :
    block ∈ blocksOf s ↔ ∃ f : BlockFrame, f.fill block = s := by
  constructor
  · exact exists_fill_eq
  · rintro ⟨f, rfl⟩
    exact mem_blocksOf_fill block f

/-! ### Statements in statements -/

/-- What stands around a block: the rest of its statement, among other statements. -/
structure Layer where
  before : List Stmt
  frame : BlockFrame
  after : List Stmt

namespace Layer

/-- The statements with a block put in. -/
def fill (l : Layer) (block : List Stmt) : List Stmt :=
  l.before ++ l.frame.fill block :: l.after

/-- Nothing around the block is found unfit. -/
def Fit (l : Layer) : Prop :=
  ∀ t, ExposedIn (l.fill []) t → t.fault? = none

end Layer

/-- A block inside of layers, the first of which is the outermost. -/
def nest (layers : List Layer) (block : List Stmt) : List Stmt :=
  layers.foldr Layer.fill block

/-- Of what is found before a block, in it and after it, the earliest counts. -/
lemma firstInvalid_fill (l : Layer) (block : List Stmt) :
    firstInvalid? (l.fill block) =
      earlier (earlier (recordAll (targetsOfBlock l.before ++ l.frame.front)) (firstInvalid? block))
        (recordAll (l.frame.back ++ targetsOfBlock l.after)) := by
  have htargets : targetsOfBlock (l.fill block) =
      (targetsOfBlock l.before ++ l.frame.front) ++ targetsOfBlock block ++
        (l.frame.back ++ targetsOfBlock l.after) := by
    rw [Layer.fill, targetsOfBlock_append, targetsOfBlock, targets_fill]
    simp only [List.append_assoc]
  rw [firstInvalid_eq_recordAll, htargets, recordAll_append, recordAll_append,
    ← firstInvalid_eq_recordAll]

lemma firstInvalid_fill_of_fit {l : Layer} (h : l.Fit) (block : List Stmt) :
    firstInvalid? (l.fill block) = firstInvalid? block := by
  -- Nothing is found around an empty block, and around another block the same is found.
  have hempty := firstInvalid_eq_none_iff.mpr h
  rw [firstInvalid_fill, earlier_eq_none_iff, earlier_eq_none_iff] at hempty
  obtain ⟨⟨hfront, _⟩, hback⟩ := hempty
  rw [firstInvalid_fill, hfront, hback, earlier_none_right, earlier]

lemma firstInvalid_nest {layers : List Layer} (h : ∀ l ∈ layers, l.Fit) (block : List Stmt) :
    firstInvalid? (nest layers block) = firstInvalid? block := by
  induction layers with
  | nil => rfl
  | cons l layers ih =>
    rw [List.forall_mem_cons] at h
    rw [nest, List.foldr_cons, firstInvalid_fill_of_fit h.1]
    exact ih h.2

/-- Of statements one after the other the finding with the smaller offset counts, and a block that
stands in any place for a block, at any depth, is found to be what it is found to be alone, if
nothing around it is unfit. -/
theorem nesting_keeps_firstInvalid :
    (∀ a b, firstInvalid? (a ++ b) = earlier (firstInvalid? a) (firstInvalid? b)) ∧
    (∀ layers block, (∀ l ∈ layers, Layer.Fit l) →
      firstInvalid? (nest layers block) = firstInvalid? block) ∧
    ∀ s block, block ∈ blocksOf s ↔ ∃ f : BlockFrame, f.fill block = s :=
  ⟨firstInvalid_append, fun _ block h => firstInvalid_nest h block, fun _ _ => mem_blocksOf_iff⟩

/-- An asynchronous function with a `match`, in one case of which the starred clause of a `try`
stands. -/
def deepLayers : List Layer :=
  [⟨[.pass], .function ⟨true, "f", .mk [] [] none [] none, [.name 1 "d"], none, []⟩, []⟩,
    ⟨[], .matchCase (.name 30 "x") [.mk (.singleton .none) none [.pass]] (.capture none none)
      (some (.name 60 "g")) [], [.return_ none]⟩,
    ⟨[], .tryHandler true [.pass] [] (some (.name 90 "E")) (some "e") [] [] [.pass], [.break_]⟩]

theorem nesting_keeps_firstInvalid_deepLayers :
    (∀ l ∈ deepLayers, Layer.Fit l) ∧
    firstInvalid? (nest deepLayers [.assign [.literal 100 .number] (.name 104 "x")]) =
      some ⟨.impossible .store "literal", 100⟩ := by
  have hfit : ∀ l ∈ deepLayers, Layer.Fit l := by
    simp only [deepLayers, List.forall_mem_cons, Layer.Fit, ← firstInvalid_eq_none_iff]
    exact ⟨rfl, rfl, rfl, by simp⟩
  refine ⟨hfit, ?_⟩
  rw [nesting_keeps_firstInvalid.2.1 deepLayers _ hfit]
  rfl

end SyntaxCheck.Proofs
