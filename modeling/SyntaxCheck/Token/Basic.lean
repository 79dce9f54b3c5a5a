import SyntaxCheck.Decimal.Binary64

/-!
# Tokens

The words of a source text. A token carries what the grammar and the messages need of it, and
`Token.text` is how a message quotes it.
-/

namespace SyntaxCheck

/-- The reserved words, with the three words that are reserved only where a statement of theirs
begins: `match`, `case` and `type`. -/
inductive Keyword
  | falseWord | noneWord | trueWord | andWord | asWord | assertWord | asyncWord | awaitWord
  | breakWord | classWord | continueWord | defWord | delWord | elifWord | elseWord | exceptWord
  | finallyWord | forWord | fromWord | globalWord | ifWord | importWord | inWord | isWord
  | lambdaWord | nonlocalWord | notWord | orWord | passWord | raiseWord | returnWord | tryWord
  | whileWord | withWord | yieldWord | matchWord | caseWord | typeWord
deriving DecidableEq

namespace Keyword

def spelling : Keyword → String
  | .falseWord => "False"
  | .noneWord => "None"
  | .trueWord => "True"
  | .andWord => "and"
  | .asWord => "as"
  | .assertWord => "assert"
  | .asyncWord => "async"
  | .awaitWord => "await"
  | .breakWord => "break"
  | .classWord => "class"
  | .continueWord => "continue"
  | .defWord => "def"
  | .delWord => "del"
  | .elifWord => "elif"
  | .elseWord => "else"
  | .exceptWord => "except"
  | .finallyWord => "finally"
  | .forWord => "for"
  | .fromWord => "from"
  | .globalWord => "global"
  | .ifWord => "if"
  | .importWord => "import"
  | .inWord => "in"
  | .isWord => "is"
  | .lambdaWord => "lambda"
  | .nonlocalWord => "nonlocal"
  | .notWord => "not"
  | .orWord => "or"
  | .passWord => "pass"
  | .raiseWord => "raise"
  | .returnWord => "return"
  | .tryWord => "try"
  | .whileWord => "while"
  | .withWord => "with"
  | .yieldWord => "yield"
  | .matchWord => "match"
  | .caseWord => "case"
  | .typeWord => "type"

def all : List Keyword :=
  [.falseWord, .noneWord, .trueWord, .andWord, .asWord, .assertWord, .asyncWord, .awaitWord,
  .breakWord, .classWord, .continueWord, .defWord, .delWord, .elifWord, .elseWord, .exceptWord,
  .finallyWord, .forWord, .fromWord, .globalWord, .ifWord, .importWord, .inWord, .isWord,
  .lambdaWord, .nonlocalWord, .notWord, .orWord, .passWord, .raiseWord, .returnWord, .tryWord,
  .whileWord, .withWord, .yieldWord, .matchWord, .caseWord, .typeWord]

def ofSpelling? (s : String) : Option Keyword :=
  all.find? fun k => k.spelling == s

/-- Whether the word may also be a name. -/
def isSoft : Keyword → Bool
  | .matchWord | .caseWord | .typeWord => true
  | _ => false

end Keyword

/-- Operators and delimiters. -/
inductive Sign
  | lparen | rparen | lbracket | rbracket | lbrace | rbrace | colon | comma | semicolon | plus
  | minus | star | slash | bar | ampersand | less | greater | equal | dot | percent | tilde
  | caret | atSign | equalEqual | notEqual | lessEqual | greaterEqual | leftShift | rightShift
  | starStar | slashSlash | arrow | walrus | plusEqual | minusEqual | starEqual | slashEqual
  | percentEqual | ampersandEqual | barEqual | caretEqual | atEqual | ellipsis | leftShiftEqual
  | rightShiftEqual | starStarEqual | slashSlashEqual
deriving DecidableEq

namespace Sign

def spelling : Sign → String
  | .lparen => "("
  | .rparen => ")"
  | .lbracket => "["
  | .rbracket => "]"
  | .lbrace => "\x7b"
  | .rbrace => "\x7d"
  | .colon => ":"
  | .comma => ","
  | .semicolon => ";"
  | .plus => "+"
  | .minus => "-"
  | .star => "*"
  | .slash => "/"
  | .bar => "|"
  | .ampersand => "&"
  | .less => "<"
  | .greater => ">"
  | .equal => "="
  | .dot => "."
  | .percent => "%"
  | .tilde => "~"
  | .caret => "^"
  | .atSign => "@"
  | .equalEqual => "=="
  | .notEqual => "!="
  | .lessEqual => "<="
  | .greaterEqual => ">="
  | .leftShift => "<<"
  | .rightShift => ">>"
  | .starStar => "**"
  | .slashSlash => "//"
  | .arrow => "->"
  | .walrus => ":="
  | .plusEqual => "+="
  | .minusEqual => "-="
  | .starEqual => "*="
  | .slashEqual => "/="
  | .percentEqual => "%="
  | .ampersandEqual => "&="
  | .barEqual => "|="
  | .caretEqual => "^="
  | .atEqual => "@="
  | .ellipsis => "..."
  | .leftShiftEqual => "<<="
  | .rightShiftEqual => ">>="
  | .starStarEqual => "**="
  | .slashSlashEqual => "//="

def all : List Sign :=
  [.lparen, .rparen, .lbracket, .rbracket, .lbrace, .rbrace, .colon, .comma, .semicolon, .plus,
  .minus, .star, .slash, .bar, .ampersand, .less, .greater, .equal, .dot, .percent, .tilde,
  .caret, .atSign, .equalEqual, .notEqual, .lessEqual, .greaterEqual, .leftShift, .rightShift,
  .starStar, .slashSlash, .arrow, .walrus, .plusEqual, .minusEqual, .starEqual, .slashEqual,
  .percentEqual, .ampersandEqual, .barEqual, .caretEqual, .atEqual, .ellipsis, .leftShiftEqual,
  .rightShiftEqual, .starStarEqual, .slashSlashEqual]

def ofSpelling? (s : String) : Option Sign :=
  all.find? fun x => x.spelling == s

def opens : Sign → Bool
  | .lparen | .lbracket | .lbrace => true
  | _ => false

def closes : Sign → Bool
  | .rparen | .rbracket | .rbrace => true
  | _ => false

/-- Whether the sign is an operator joined to an assignment. -/
def isAugmented : Sign → Bool
  | .plusEqual | .minusEqual | .starEqual | .slashEqual | .percentEqual | .ampersandEqual
  | .barEqual | .caretEqual | .atEqual | .leftShiftEqual | .rightShiftEqual | .starStarEqual
  | .slashSlashEqual => true
  | _ => false

end Sign

/-- What the letters before the opening quote make of a string. -/
inductive StringForm
  | plain | unicode | raw | formatted | rawFormatted | bytes | rawBytes
deriving DecidableEq

namespace StringForm

/-- The letters before the quote, in lower case. -/
def letters : StringForm → String
  | .plain => ""
  | .unicode => "u"
  | .raw => "r"
  | .formatted => "f"
  | .rawFormatted => "rf"
  | .bytes => "b"
  | .rawBytes => "rb"

/-- Whether a backslash stands for itself. -/
def isRaw : StringForm → Bool
  | .raw | .rawFormatted | .rawBytes => true
  | _ => false

/-- Whether the string has replacement fields. -/
def isFormatted : StringForm → Bool
  | .formatted | .rawFormatted => true
  | _ => false

def isBytes : StringForm → Bool
  | .bytes | .rawBytes => true
  | _ => false

/-- The form that the letters before a quote select; case and order do not matter. -/
def ofLetters? (text : List Char) : Option StringForm :=
  match text.map Char.toLower with
  | [] => some .plain
  | ['u'] => some .unicode
  | ['r'] => some .raw
  | ['f'] => some .formatted
  | ['b'] => some .bytes
  | ['r', 'f'] | ['f', 'r'] => some .rawFormatted
  | ['r', 'b'] | ['b', 'r'] => some .rawBytes
  | _ => none

end StringForm

/-- A string as it stands in the source: its content is the text between the quotes, escapes and
all, with line ends read as line feeds. -/
structure StringLiteral where
  form : StringForm
  triple : Bool
  content : List Char
deriving DecidableEq

/-- The words of a source text. -/
inductive Token
  | name (id : String)
  | integer (value : Nat)
  | float (value : Decimal)
  | imaginary (value : Decimal)
  | string (literal : StringLiteral)
  | keyword (word : Keyword)
  | sign (sign : Sign)
  | newline
  | indent
  | dedent
deriving DecidableEq

namespace Token

/-- A string literal as messages quote it: always in double quotes. -/
def stringText (s : StringLiteral) : String :=
  let quotes := if s.triple then "\"\"\"" else "\""
  s.form.letters ++ quotes ++ String.ofList s.content ++ quotes

/-- How messages quote a token. -/
def text : Token → String
  | .name id => "'" ++ id ++ "'"
  | .integer n => "'" ++ toString n ++ "'"
  | .float x => "'" ++ (Binary64.ofDecimal x).text ++ "'"
  | .imaginary x => "0j" ++ (Binary64.ofDecimal x).text
  | .string s => stringText s
  | .keyword k => "'" ++ k.spelling ++ "'"
  | .sign s => "'" ++ s.spelling ++ "'"
  | .newline => "Newline"
  | .indent => "Indent"
  | .dedent => "Dedent"

end Token

/-- A token with the byte offsets of its two ends. -/
structure Lexeme where
  start : Nat
  token : Token
  stop : Nat
deriving DecidableEq

end SyntaxCheck
