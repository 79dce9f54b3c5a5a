/-!
# Ignore rules

A path is ignored if a fragment occurs anywhere in its text. Fragments are tried in order; they are
not bound to whole names.
-/

namespace SyntaxCheck

/-- Whether a fragment occurs in a text. -/
def occursIn (fragment : List Char) : List Char → Bool
  | [] => fragment.isEmpty
  | c :: rest => fragment.isPrefixOf (c :: rest) || occursIn fragment rest

/-- The fragments that exclude a path, in the order in which they are tried. -/
structure IgnoreRules where
  fragments : List String
deriving DecidableEq

namespace IgnoreRules

/-- The first fragment that occurs in the path. -/
def matching? (rules : IgnoreRules) (path : String) : Option String :=
  rules.fragments.find? fun fragment => occursIn fragment.toList path.toList

def isIgnored (rules : IgnoreRules) (path : String) : Bool :=
  (rules.matching? path).isSome

end IgnoreRules

end SyntaxCheck
