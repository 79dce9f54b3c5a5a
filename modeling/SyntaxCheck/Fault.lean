import SyntaxCheck.Token.Basic

/-!
# Faults

The reasons to reject a source text before its meaning is looked at. Each reason is a cause, found
at a byte offset; `Fault.message` gives its wording.
-/

namespace SyntaxCheck

/-- A value found at a byte offset of the text. -/
structure Located (α : Type) where
  value : α
  offset : Nat
deriving DecidableEq

/-- What can be wrong with the braces of a formatted string. -/
inductive FieldFault
  | expectedBrace
  | emptyExpression
  | invalidConversion
  | mismatched (closer opener : Char)
  | unmatched (closer : Char)
  | unterminatedString
  | nestedTooDeeply
  | singleBrace
deriving DecidableEq

namespace FieldFault

def message : FieldFault → String
  | .expectedBrace => "expecting '\x7d'"
  | .emptyExpression => "empty expression not allowed"
  | .invalidConversion => "invalid conversion character"
  | .mismatched closer opener =>
    "closing parenthesis '" ++ closer.toString ++ "' does not match opening parenthesis '" ++
      opener.toString ++ "'"
  | .unmatched closer => "unmatched '" ++ closer.toString ++ "'"
  | .unterminatedString => "unterminated string"
  | .nestedTooDeeply => "expressions nested too deeply"
  | .singleBrace => "single '\x7d' is not allowed"

end FieldFault

/-- Why a text is no module. -/
inductive Fault
  | unexpectedCharacter (c : Char)
  | unexpectedNesting
  | unfinishedText
  | lineContinuation
  | lineEndInString
  | unfinishedString
  | invalidEscape
  | noDigits
  | misplacedUnderscore
  | invalidDecimal
  | leadingZero
  | tabAfterSpace
  | inconsistentTabs
  | unindent
  | unexpectedIndent
  | expectedBlock
  | unexpectedToken (token : Token)
  | unexpectedEnd
  | defaultOrder
  | duplicateParameter (name : String)
  | bareStar
  | positionalAfterKeyword
  | starredAfterUnpacking
  | repeatedKeyword (name : String)
  | starredInParentheses
  | doubleStarredInParentheses
  | wildcardTarget
  | mixedLiterals
  | nonAsciiBytes
  | field (fault : FieldFault)
  | inField (fault : Fault)
deriving DecidableEq

namespace Fault

def message : Fault → String
  | .unexpectedCharacter c => "Got unexpected token " ++ c.toString
  | .unexpectedNesting => "Got unexpected nesting"
  | .unfinishedText => "unexpected EOF while parsing"
  | .lineContinuation => "unexpected character after line continuation character"
  | .lineEndInString => "EOL while scanning string literal"
  | .unfinishedString => "Got unexpected string"
  | .invalidEscape => "Got unexpected unicode"
  | .noDigits => "ParseBigIntError \x7b kind: Empty \x7d"
  | .misplacedUnderscore => "Invalid Syntax"
  | .invalidDecimal => "Invalid decimal literal"
  | .leadingZero => "Invalid Token"
  | .tabAfterSpace => "Tabs not allowed as part of indentation after spaces"
  | .inconsistentTabs => "inconsistent use of tabs and spaces in indentation"
  | .unindent => "unindent does not match any outer indentation level"
  | .unexpectedIndent => "unexpected indent"
  | .expectedBlock => "expected an indented block"
  | .unexpectedToken t => "invalid syntax. Got unexpected token " ++ t.text
  | .unexpectedEnd => "Got unexpected EOF"
  | .defaultOrder => "non-default argument follows default argument"
  | .duplicateParameter x => "duplicate argument '" ++ x ++ "' in function definition"
  | .bareStar => "named arguments must follow bare *"
  | .positionalAfterKeyword => "positional argument follows keyword argument"
  | .starredAfterUnpacking => "iterable argument unpacking follows keyword argument unpacking"
  | .repeatedKeyword x => "keyword argument repeated: " ++ x
  | .starredInParentheses => "cannot use starred expression here"
  | .doubleStarredInParentheses => "cannot use double starred expression here"
  | .wildcardTarget => "cannot use '_' as a target"
  | .mixedLiterals => "cannot mix bytes and nonbytes literals"
  | .nonAsciiBytes => "bytes can only contain ASCII literal characters"
  | .field f => "f-string: " ++ f.message
  | .inField f => "f-string: " ++ f.message

end Fault

/-- A fault at the byte offset where it was found. -/
abbrev Diagnosis := Located Fault

end SyntaxCheck
