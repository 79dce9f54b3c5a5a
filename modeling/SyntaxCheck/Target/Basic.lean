import SyntaxCheck.Ast
import SyntaxCheck.Fault

/-!
# Targets

The grammar takes any expression where something is bound or deleted. `Target.fault?` says which of
them can stand there: names, attributes and subscripts, and, where several values can be bound,
tuples and lists of those with at most one starred element each.
-/

namespace SyntaxCheck

/-- How messages call an expression. -/
def Expr.description : Expr → String
  | .literal _ .none => "None"
  | .literal _ .true => "True"
  | .literal _ .false => "False"
  | .literal _ .ellipsis => "ellipsis"
  | .literal _ _ => "literal"
  | .call .. => "function call"
  | .compare .. => "comparison"
  | .lambda .. => "lambda"
  | .conditional .. => "conditional expression"
  | .dict .. => "dict literal"
  | .set .. => "set display"
  | .listComprehension .. => "list comprehension"
  | .setComprehension .. => "set comprehension"
  | .dictComprehension .. => "dict comprehension"
  | .generator .. => "generator expression"
  | .await .. => "await expression"
  | .yield .. | .yieldFrom .. => "yield expression"
  | .formatted .. | .field .. => "f-string expression"
  | .named .. => "named expression"
  | .starred .. => "starred"
  | .tuple .. => "tuple"
  | .list .. => "list"
  | .name .. => "name"
  | .attribute .. => "attribute"
  | .subscript .. => "subscript"
  | .slice .. | .boolean .. | .binary .. | .unary .. => "expression"

/-- What is done to a target that may hold several values. -/
inductive TargetUse
  | store
  | delete
deriving DecidableEq

namespace TargetUse

/-- How messages call what is done. -/
def verb : TargetUse → String
  | .store => "assign to"
  | .delete => "delete"

end TargetUse

/-- Why an expression cannot be a target. -/
inductive TargetFault
  | impossible (use : TargetUse) (description : String)
  | debugName (use : TargetUse)
  | starredAlone
  | starredDeleted
  | severalStarred
  | augmented (description : String)
  | annotatedSequence (description : String)
  | annotated
deriving DecidableEq

namespace TargetFault

def message : TargetFault → String
  | .impossible use description => "cannot " ++ use.verb ++ " " ++ description
  | .debugName use => "cannot " ++ use.verb ++ " __debug__"
  | .starredAlone => "starred assignment target must be in a list or tuple"
  | .starredDeleted => "cannot delete starred"
  | .severalStarred => "multiple starred expressions in assignment"
  | .augmented description =>
    "'" ++ description ++ "' is an illegal expression for augmented assignment"
  | .annotatedSequence description =>
    "only single target (not " ++ description ++ ") can be annotated"
  | .annotated => "illegal target for annotation"

end TargetFault

/-- A target found unfit, at the offset of the expression to blame. -/
abbrev TargetDiagnosis := Located TargetFault

namespace Expr

/-- A name can be bound or deleted unless it is `__debug__`. -/
def nameFault? (use : TargetUse) (start : Nat) (id : String) : Option TargetDiagnosis :=
  if id = "__debug__" then some ⟨.debugName use, start⟩ else none

mutual

/-- Why the expression cannot be stored to or deleted. -/
def targetFault? (use : TargetUse) : Expr → Option TargetDiagnosis
  | .attribute .. | .subscript .. => none
  | .name start id => nameFault? use start id
  | .tuple _ elements | .list _ elements => sequenceFault? use false elements
  | .starred start _ =>
    match use with
    | .store => some ⟨.starredAlone, start⟩
    | .delete => some ⟨.starredDeleted, start⟩
  | e => some ⟨.impossible use e.description, e.start⟩

/-- Why the elements of a tuple or a list cannot be stored to or deleted; `seen` tells whether one
of them has been starred. -/
def sequenceFault? (use : TargetUse) (seen : Bool) : List Expr → Option TargetDiagnosis
  | [] => none
  | .starred start value :: rest =>
    match use with
    | .delete => some ⟨.starredDeleted, start⟩
    | .store =>
      if seen then some ⟨.severalStarred, start⟩
      else targetFault? use value <|> sequenceFault? use true rest
  | e :: rest => targetFault? use e <|> sequenceFault? use seen rest

end

/-- Why the expression cannot be assigned to with an operator. -/
def augmentedFault? : Expr → Option TargetDiagnosis
  | .attribute .. | .subscript .. => none
  | .name start id => nameFault? .store start id
  | e => some ⟨.augmented e.description, e.start⟩

/-- Why the expression cannot be annotated. -/
def annotatedFault? : Expr → Option TargetDiagnosis
  | .attribute .. | .subscript .. => none
  | .name start id => nameFault? .store start id
  | .tuple start _ => some ⟨.annotatedSequence "tuple", start⟩
  | .list start _ => some ⟨.annotatedSequence "list", start⟩
  | e => some ⟨.annotated, e.start⟩

end Expr

/-- A place where something is bound or deleted, with the expression that stands there. -/
inductive Target
  | stored (value : Expr)
  | deleted (value : Expr)
  | augmented (value : Expr)
  | annotated (value : Expr)

/-- Why the expression cannot stand where it stands. -/
def Target.fault? : Target → Option TargetDiagnosis
  | .stored e => e.targetFault? .store
  | .deleted e => e.targetFault? .delete
  | .augmented e => e.augmentedFault?
  | .annotated e => e.annotatedFault?

end SyntaxCheck
