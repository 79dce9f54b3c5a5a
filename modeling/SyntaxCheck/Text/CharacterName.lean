/-!
# Characters by name

A string may write a character by its name. Which names there are is no business of the grammar: it
looks them up in a table that is given, and all that is said of it holds for every table.
-/

namespace SyntaxCheck

/-- The table of the characters that can be written by name. -/
class CharacterNames where
  character? : List Char → Option Char

/-- A table of two names, in letters of either case, for texts that use no others. -/
instance twoNames : CharacterNames where
  character? name :=
    [("BULLET", '\u2022'), ("LATIN SMALL LETTER A", 'a')].lookup
      (String.ofList (name.map Char.toUpper))

end SyntaxCheck
