/-!
# Faults of settings texts

The ways in which a text is no TOML document. A fault tells what is wrong and, after it, what would
have been right in its place.
-/

namespace SyntaxCheck.Toml

/-- The four ways to quote a string. -/
inductive Quoting
  | basic
  | literal
  | multilineBasic
  | multilineLiteral
deriving DecidableEq

namespace Quoting

/-- How messages call a string of this kind. -/
def noun : Quoting → String
  | .basic => "basic string"
  | .literal => "literal string"
  | .multilineBasic => "multi-line basic string"
  | .multilineLiteral => "multi-line literal string"

/-- The character that the quotes are made of. -/
def quote : Quoting → Char
  | .basic | .multilineBasic => '"'
  | .literal | .multilineLiteral => '\''

def isMultiline : Quoting → Bool
  | .multilineBasic | .multilineLiteral => true
  | _ => false

/-- What stands on either side of the string. -/
def quotes (q : Quoting) : List Char :=
  if q.isMultiline then [q.quote, q.quote, q.quote] else [q.quote]

/-- What a message asks for in place of a character that cannot stand in the string. -/
def visible : Quoting → String
  | .basic => "non-double-quote visible characters, `\\`"
  | .literal => "non-single-quote visible characters"
  | .multilineBasic => "non-double-quote characters, `\\`"
  | .multilineLiteral => "non-single-quote characters"

end Quoting

/-- What an inline table goes on with. -/
inductive InlineNeed
  | key
  | equals
  | value
  | comma
deriving DecidableEq

def InlineNeed.text : InlineNeed → String
  | .key => "key"
  | .equals => "`=`"
  | .value => "value"
  | .comma => "`,`"

/-- What is wrong with a text. -/
inductive Fault
  | invalidComment
  | loneReturn
  | keyWithoutValue
  | missingTableOpen
  | invalidPair
  | unclosedTable
  | unclosedTableArray (missing : String)
  | unexpectedAfterValue
  | extraEquals
  | missingArrayOpen
  | missingInlineOpen
  | unclosedArray
  | missingComma
  | extraComma
  | equalsInArray
  | unclosedInline
  | extraInlineComma (need : InlineNeed)
  | extraAssignment (need : InlineNeed)
  | missingAssignment
  | missingPairComma
  | missingInlineKey (need : InlineNeed)
  | invalidInlineElement (need : InlineNeed)
  | nestedTooDeeply
  | emptyKey
  | invalidKey
  | multilineKey (quoting : Quoting)
  | unterminated (quoting : Quoting)
  | invalidCharacter (quoting : Quoting)
  | returnInString (quoting : Quoting)
  | escapedText (quoting : Quoting)
  | missingEscape
  | tooFewDigits
  | invalidCodePoint
  | missingQuote (quotes : String)
  | unquoted
  | invalidBoolean (word : String)
  | invalidFloatWord (word : String)
  | repeatedSign
  | signedRadix
  | upperCaseRadix (lower : String)
  | decimalRadix
  | invalidDigit (numeral : String)
  | leadingZero
  | misplacedUnderscore
  | noDigits (part : String)
  | invalidFloat
  | invalidDateTime (what : Option String) (expected : Option String)
  | duplicateKey
  | cannotExtend (type : String)
deriving DecidableEq

namespace Fault

def message : Fault → String
  | .invalidComment => "invalid comment character, expected printable characters"
  | .loneReturn => "carriage return must be followed by newline, expected newline"
  | .keyWithoutValue => "key with no value, expected `=`"
  | .missingTableOpen => "missing table open, expected `[`"
  | .invalidPair => "invalid key-value pair, expected key"
  | .unclosedTable => "unclosed table, expected `]`"
  | .unclosedTableArray missing => "unclosed array table, expected `" ++ missing ++ "`"
  | .unexpectedAfterValue => "unexpected key or value, expected newline, `#`"
  | .extraEquals => "extra `=`, expected nothing"
  | .missingArrayOpen => "missing array opening, expected `[`"
  | .missingInlineOpen => "missing inline table opening, expected `\x7b`"
  | .unclosedArray => "unclosed array, expected `]`"
  | .missingComma => "missing comma between array elements, expected `,`"
  | .extraComma => "extra comma in array, expected value"
  | .equalsInArray => "unexpected `=` in array, expected value, `]`"
  | .unclosedInline => "unclosed inline table, expected `\x7d`"
  | .extraInlineComma need => "extra comma in inline table, expected " ++ need.text
  | .extraAssignment need =>
    "extra assignment between key-value pairs, expected " ++ need.text
  | .missingAssignment => "missing assignment between key-value pairs, expected `=`"
  | .missingPairComma => "missing comma between key-value pairs, expected `,`"
  | .missingInlineKey need => "missing key for inline table element, expected " ++ need.text
  | .invalidInlineElement need => "invalid inline table element, expected " ++ need.text
  | .nestedTooDeeply => "cannot recurse further; max recursion depth met"
  | .emptyKey => "unquoted keys cannot be empty, expected letters, numbers, `-`, `_`"
  | .invalidKey => "invalid unquoted key, expected letters, numbers, `-`, `_`"
  | .multilineKey quoting =>
    "keys cannot be " ++ quoting.noun ++ "s, expected basic string, literal string"
  | .unterminated quoting =>
    "invalid " ++ quoting.noun ++ ", expected `" ++ quoting.quote.toString ++ "`"
  | .invalidCharacter quoting => "invalid " ++ quoting.noun ++ ", expected " ++ quoting.visible
  | .returnInString quoting | .escapedText quoting =>
    "invalid " ++ quoting.noun ++ ", expected newline"
  | .missingEscape =>
    "missing escaped value, expected `b`, `e`, `f`, `n`, `r`, `\\`, `\"`, `x`, `u`, `U`"
  | .tooFewDigits => "too few unicode value digits, expected unicode hexadecimal value"
  | .invalidCodePoint => "invalid value, expected unicode hexadecimal value"
  | .missingQuote quotes => "missing opening quote, expected `" ++ quotes ++ "`"
  | .unquoted => "string values must be quoted, expected literal string"
  | .invalidBoolean word => "invalid boolean, expected `" ++ word ++ "`"
  | .invalidFloatWord word => "invalid float, expected `" ++ word ++ "`"
  | .repeatedSign => "redundant numeric sign, expected nothing"
  | .signedRadix => "integers with a radix cannot be signed, expected nothing"
  | .upperCaseRadix lower => "radix must be lowercase, expected `" ++ lower ++ "`"
  | .decimalRadix => "redundant integer number prefix, expected nothing"
  | .invalidDigit numeral => "invalid " ++ numeral ++ " number, expected digits"
  | .leadingZero => "unexpected leading zero, expected nothing"
  | .misplacedUnderscore => "`_` may only go between digits, expected nothing"
  | .noDigits part => "invalid " ++ part ++ ", expected digits"
  | .invalidFloat => "invalid float, expected nothing"
  | .invalidDateTime what expected =>
    "invalid " ++ what.getD "datetime" ++
      match expected with
      | some text => ", expected " ++ text
      | none => ""
  | .duplicateKey => "duplicate key"
  | .cannotExtend type => "cannot extend value of type " ++ type ++ " with a dotted key"

end Fault

end SyntaxCheck.Toml
