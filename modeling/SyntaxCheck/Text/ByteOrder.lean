import SyntaxCheck.Text.Utf8

/-!
# The order of names

Names are ordered by their bytes. `sortByName` arranges values by the names that they belong to;
values of one name keep their order.
-/

namespace SyntaxCheck

/-- Whether the bytes of a name come before those of another. -/
def bytesBefore (a b : String) : Bool :=
  decide (Utf8.encode a.toList < Utf8.encode b.toList)

/-- Put a value among others, before those whose names do not come before its own. -/
def insertByName {α : Type} (name : String) (value : α) : List (String × α) → List (String × α)
  | [] => [(name, value)]
  | (other, old) :: rest =>
    if bytesBefore other name then (other, old) :: insertByName name value rest
    else (name, value) :: (other, old) :: rest

def sortByName {α : Type} : List (String × α) → List (String × α)
  | [] => []
  | (name, value) :: rest => insertByName name value (sortByName rest)

end SyntaxCheck
