import SyntaxCheck.Target.Basic

/-!
# The targets of a module

`Stmt.targets` lists the targets in a statement, each before those inside it. The list reaches every
block and nearly every expression; parameter lists, keyword arguments and patterns are not looked
into. `firstInvalid?` picks the unfit target that stands first in the text.
-/

namespace SyntaxCheck

mutual

def Expr.targets : Expr → List Target
  | .literal .. | .name .. => []
  | .attribute _ value _ | .starred _ value | .unary _ value | .await _ value
  | .yieldFrom _ value => value.targets
  | .subscript _ value index => value.targets ++ index.targets
  | .slice _ lower upper step =>
    targetsOfOption lower ++ targetsOfOption upper ++ targetsOfOption step
  | .tuple _ elements | .list _ elements | .set _ elements | .boolean _ elements
  | .formatted _ elements => targetsOfAll elements
  | .dict _ keys values => targetsOfKeys keys ++ targetsOfAll values
  | .call _ function arguments _ => function.targets ++ targetsOfAll arguments
  | .binary _ left right => left.targets ++ right.targets
  | .compare _ left comparators => left.targets ++ targetsOfAll comparators
  | .conditional _ condition thenValue elseValue =>
    condition.targets ++ thenValue.targets ++ elseValue.targets
  | .named _ target value => target.targets ++ value.targets
  | .lambda _ _ body => body.targets
  | .yield _ value => targetsOfOption value
  | .listComprehension _ element clauses | .setComprehension _ element clauses
  | .generator _ element clauses => element.targets ++ targetsOfClauses clauses
  | .dictComprehension _ key value clauses =>
    key.targets ++ value.targets ++ targetsOfClauses clauses
  | .field _ value spec => value.targets ++ targetsOfOption spec

def targetsOfOption : Option Expr → List Target
  | none => []
  | some e => e.targets

def targetsOfAll : List Expr → List Target
  | [] => []
  | e :: rest => e.targets ++ targetsOfAll rest

def targetsOfKeys : List (Option Expr) → List Target
  | [] => []
  | key :: rest => targetsOfOption key ++ targetsOfKeys rest

/-- The targets in a clause of a comprehension: its own, then those inside it. -/
def Clause.targets : Clause → List Target
  | .mk target iterable conditions =>
    .stored target :: (target.targets ++ iterable.targets ++ targetsOfAll conditions)

def targetsOfClauses : List Clause → List Target
  | [] => []
  | c :: rest => c.targets ++ targetsOfClauses rest

end

def targetsOfBounds (parameters : List TypeParameter) : List Target :=
  parameters.flatMap fun p => targetsOfOption p.bound

/-- The targets in an item of a `with` statement: its own, then those inside it. -/
def WithItem.targets (item : WithItem) : List Target :=
  item.target.toList.map .stored ++ item.context.targets ++ targetsOfOption item.target

def FunctionHead.targets (head : FunctionHead) : List Target :=
  targetsOfAll head.decorators ++ targetsOfOption head.returns ++
    targetsOfBounds head.typeParameters

mutual

def Stmt.targets : Stmt → List Target
  | .expression value => value.targets
  | .assign targets value => targets.map .stored ++ targetsOfAll targets ++ value.targets
  | .augment target value => .augmented target :: (target.targets ++ value.targets)
  | .annotate target type value =>
    .annotated target :: (target.targets ++ type.targets ++ targetsOfOption value)
  | .delete targets => targets.map .deleted ++ targetsOfAll targets
  | .return_ value => targetsOfOption value
  | .raise exception cause => targetsOfOption exception ++ targetsOfOption cause
  | .assert condition message => condition.targets ++ targetsOfOption message
  | .pass | .break_ | .continue_ | .import_ _ | .global _ | .nonlocal _ => []
  | .typeAlias name parameters value => name.targets ++ targetsOfBounds parameters ++ value.targets
  | .function head body => targetsOfBlock body ++ head.targets
  | .class_ head body =>
    targetsOfAll head.bases ++ targetsOfBlock body ++ targetsOfAll head.decorators ++
      targetsOfBounds head.typeParameters
  | .if_ condition body orelse | .while_ condition body orelse =>
    condition.targets ++ targetsOfBlock body ++ targetsOfBlock orelse
  | .for_ _ target iterable body orelse =>
    .stored target ::
      (target.targets ++ iterable.targets ++ targetsOfBlock body ++ targetsOfBlock orelse)
  | .with_ _ items body => items.flatMap WithItem.targets ++ targetsOfBlock body
  | .try_ _ body handlers orelse finally_ =>
    targetsOfBlock body ++ targetsOfHandlers handlers ++ targetsOfBlock orelse ++
      targetsOfBlock finally_
  | .match_ subject cases => subject.targets ++ targetsOfCases cases

def targetsOfBlock : List Stmt → List Target
  | [] => []
  | s :: rest => s.targets ++ targetsOfBlock rest

def Handler.targets : Handler → List Target
  | .mk type _ body => targetsOfOption type ++ targetsOfBlock body

def targetsOfHandlers : List Handler → List Target
  | [] => []
  | h :: rest => h.targets ++ targetsOfHandlers rest

def Case.targets : Case → List Target
  | .mk _ guard body => targetsOfOption guard ++ targetsOfBlock body

def targetsOfCases : List Case → List Target
  | [] => []
  | c :: rest => c.targets ++ targetsOfCases rest

end

/-- The one of two findings that has the smaller offset; the first of them if they are equal. -/
def earlier {α : Type} : Option (Located α) → Option (Located α) → Option (Located α)
  | none, b => b
  | some a, none => some a
  | some a, some b => if b.offset < a.offset then some b else some a

/-- The finding with the smallest offset, the first of those that share it. -/
def earliest {α : Type} : List (Located α) → Option (Located α)
  | [] => none
  | a :: rest => earlier (some a) (earliest rest)

/-- The unfit target that stands first in the text of a module. -/
def firstInvalid? (module : List Stmt) : Option TargetDiagnosis :=
  earliest ((targetsOfBlock module).filterMap Target.fault?)

end SyntaxCheck
