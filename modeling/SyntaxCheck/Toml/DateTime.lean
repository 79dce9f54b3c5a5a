import SyntaxCheck.Toml.Fault

/-!
# Dates and times

A date, a time, or a date and a time with an optional offset from universal time. Only whether a
text is one of them matters here, so the parts are checked and not kept.
-/

namespace SyntaxCheck.Toml.DateTime

/-- The parts of a date or a time. -/
inductive Part
  | digits (text : List Char)
  | dash
  | colon
  | point
  | plus
  | space
  | timeMark
  | zuluMark
  | other
deriving DecidableEq

/-- The part that a character is, unless it is a digit. -/
def Part.ofChar : Char → Part
  | '-' => .dash
  | ':' => .colon
  | '.' => .point
  | '+' => .plus
  | ' ' => .space
  | 'T' | 't' => .timeMark
  | 'Z' | 'z' => .zuluMark
  | _ => .other

/-- The parts of a text. Digits that stand together are one part. -/
def parts : List Char → List Part
  | [] => []
  | c :: rest =>
    if c.isDigit then
      match parts rest with
      | .digits text :: more => .digits (c :: text) :: more
      | more => .digits [c] :: more
    else .ofChar c :: parts rest

/-- Refuse a text where something else was expected. -/
def refuse {α : Type} (what : Option String) (expected : String) : Except Fault α :=
  .error (.invalidDateTime what (some expected))

def takeDigits (what expected : String) : List Part → Except Fault (List Char × List Part)
  | .digits text :: rest => .ok (text, rest)
  | _ => refuse (some what) expected

def takeMark (mark : Part) (what expected : String) : List Part → Except Fault (List Part)
  | [] => refuse (some what) expected
  | p :: rest => if p = mark then .ok rest else refuse (some what) expected

def number (digits : List Char) : Nat :=
  digits.foldl (fun n c => n * 10 + (c.toNat - '0'.toNat)) 0

/-- Digits have to be two and to write a number in a range. -/
def checkLength (digits : List Char) (what expected : String) : Except Fault Unit :=
  if digits.length = 2 then .ok () else refuse (some what) expected

def checkRange (low high n : Nat) (what expected : String) : Except Fault Unit :=
  if low ≤ n ∧ n ≤ high then .ok () else refuse (some what) expected

def isLeapYear (year : Nat) : Bool :=
  (year % 4 = 0 && year % 100 ≠ 0) || year % 400 = 0

def daysIn (year month : Nat) : Nat :=
  if month = 2 then if isLeapYear year then 29 else 28
  else if month = 4 ∨ month = 6 ∨ month = 9 ∨ month = 11 then 30
  else 31

/-- Read the rest of a date after its year and the first dash. -/
def readDate (year : List Char) (rest : List Part) : Except Fault (List Part) := do
  let (month, rest) ← takeDigits "date" "month" rest
  let rest ← takeMark .dash "date" "`-` (MM-DD)" rest
  let (day, rest) ← takeDigits "date" "day" rest
  if year.length ≠ 4 then refuse (some "date") "a four-digit year (YYYY)"
  checkLength month "date" "a two-digit month (MM)"
  checkLength day "date" "a two-digit day (DD)"
  checkRange 1 12 (number month) "date" "month between 01 and 12"
  let days := daysIn (number year) (number month)
  checkRange 1 days (number day) "date" ("day between 01 and " ++ toString days)
  return rest

/-- Read the seconds of a time, if there are any. -/
def readSeconds (rest : List Part) : Except Fault (Option (List Char) × List Part) :=
  match rest with
  | .colon :: rest => do
    let (second, rest) ← takeDigits "time" "second" rest
    match rest with
    | .point :: rest =>
      let (_, rest) ← takeDigits "time" "nanosecond" rest
      return (some second, rest)
    | rest => return (some second, rest)
  | rest => .ok (none, rest)

def readTime (rest : List Part) : Except Fault (List Part) := do
  let (hour, rest) ← takeDigits "time" "hour" rest
  let rest ← takeMark .colon "time" "`:` (HH:MM)" rest
  let (minute, rest) ← takeDigits "time" "minute" rest
  let (second, rest) ← readSeconds rest
  checkLength hour "time" "a two-digit hour (HH)"
  checkLength minute "time" "a two-digit minute (MM)"
  if let some second := second then checkLength second "time" "a two-digit second (SS)"
  checkRange 0 23 (number hour) "time" "hour between 00 and 23"
  checkRange 0 59 (number minute) "time" "minute between 00 and 59"
  checkRange 0 60 (number (second.getD [])) "time" "second between 00 and 60"
  return rest

/-- Read an offset, if there is one. -/
def readOffset (rest : List Part) : Except Fault (List Part) := do
  match rest with
  | [] => return []
  | .zuluMark :: rest => return rest
  | sign :: rest =>
    if sign ≠ .plus ∧ sign ≠ .dash then refuse (some "offset") "`Z`, +OFFSET, -OFFSET"
    let (hours, rest) ← takeDigits "offset" "hour" rest
    let rest ← takeMark .colon "offset" "`:` (HH:MM)" rest
    let (minutes, rest) ← takeDigits "offset" "minute" rest
    checkLength hours "offset" "a two-digit hour (HH)"
    checkLength minutes "offset" "a two-digit minute (MM)"
    checkRange 0 23 (number hours) "offset" "hours between 00 and 23"
    checkRange 0 59 (number minutes) "offset" "minutes between 00 and 59"
    return rest

/-- Nothing may be left. -/
def finish : List Part → Except Fault Unit
  | [] => .ok ()
  | _ => .error (.invalidDateTime none none)

/-- Check that a text is a date, a time or both. -/
def check (text : List Char) : Except Fault Unit := do
  match parts text with
  | .digits year :: .dash :: rest =>
    match ← readDate year rest with
    | [] => return ()
    | .timeMark :: rest | .space :: rest => finish (← readOffset (← readTime rest))
    | _ => refuse (some "date-time") "`T` between date and time"
  | .digits hour :: .colon :: rest => finish (← readTime (.digits hour :: .colon :: rest))
  | .digits _ :: _ => refuse none "`-` (YYYY-MM) or `:` (HH:MM)"
  | _ => refuse none "year or hour"

end SyntaxCheck.Toml.DateTime
