/-!
# JSON

Values of the JSON data format and their layout on lines: every element of an array and every member
of an object stands on a line of its own, indented by two spaces for each collection around it.
Characters are written as they are unless the format forbids it.
-/

namespace SyntaxCheck

/-- A value. Numbers are natural numbers, and the members of an object keep their order. -/
inductive JsonValue
  | null
  | boolean (value : Bool)
  | number (value : Nat)
  | string (value : String)
  | array (elements : List JsonValue)
  | object (members : List (String × JsonValue))

namespace JsonValue

/-- The digit for a number below sixteen, in lower case. -/
def hexDigit (n : Nat) : Char :=
  if n < 10 then Char.ofNat ('0'.toNat + n) else Char.ofNat ('a'.toNat + (n - 10))

/-- How a character stands in a string. -/
def escape (c : Char) : List Char :=
  if c = '"' then ['\\', '"']
  else if c = '\\' then ['\\', '\\']
  else if c = '\x08' then ['\\', 'b']
  else if c = '\x0c' then ['\\', 'f']
  else if c = '\n' then ['\\', 'n']
  else if c = '\r' then ['\\', 'r']
  else if c = '\t' then ['\\', 't']
  else if c.toNat < 0x20 then
    ['\\', 'u', '0', '0', hexDigit (c.toNat / 16), hexDigit (c.toNat % 16)]
  else [c]

def quote (s : String) : List Char :=
  '"' :: (s.toList.flatMap escape ++ ['"'])

/-- A line end with the blanks before what is nested `depth` deep. -/
def newLine (depth : Nat) : List Char :=
  '\n' :: List.replicate (2 * depth) ' '

mutual

/-- The layout of a value that is nested `depth` deep. -/
def layout (depth : Nat) : JsonValue → List Char
  | null => "null".toList
  | boolean value => (if value then "true" else "false").toList
  | number value => Nat.toDigits 10 value
  | string value => quote value
  | array [] => ['[', ']']
  | array (first :: rest) =>
    '[' :: (newLine (depth + 1) ++ layout (depth + 1) first ++ layoutElements (depth + 1) rest ++
      newLine depth ++ [']'])
  | object [] => ['\x7b', '\x7d']
  | object ((name, value) :: rest) =>
    '\x7b' :: (newLine (depth + 1) ++ quote name ++ [':', ' '] ++ layout (depth + 1) value ++
      layoutMembers (depth + 1) rest ++ newLine depth ++ ['\x7d'])

/-- The layout of elements after the first. -/
def layoutElements (depth : Nat) : List JsonValue → List Char
  | [] => []
  | value :: rest => ',' :: (newLine depth ++ layout depth value ++ layoutElements depth rest)

/-- The layout of members after the first. -/
def layoutMembers (depth : Nat) : List (String × JsonValue) → List Char
  | [] => []
  | (name, value) :: rest =>
    ',' :: (newLine depth ++ quote name ++ [':', ' '] ++ layout depth value ++
      layoutMembers depth rest)

end

def pretty (value : JsonValue) : String :=
  String.ofList (layout 0 value)

end JsonValue

end SyntaxCheck
