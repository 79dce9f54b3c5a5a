/-!
# Lines
-/

namespace SyntaxCheck

/-- Lines as they are printed, each with a line end after it. -/
def unlines (lines : List String) : String :=
  lines.foldr (fun line rest => line ++ "\n" ++ rest) ""

end SyntaxCheck
