import SyntaxCheck.Decimal.Binary64
import SyntaxCheck.Settings.Basic
import SyntaxCheck.Text.ByteOrder
import SyntaxCheck.Text.Quoted
import SyntaxCheck.Toml.Document

/-!
# Changes to settings

A TOML document can say three things: the extension, the fragments to ignore in place of those
before, and fragments to ignore besides. `Patch.ofText` reads a document, `Settings.apply` carries
it out.
-/

namespace SyntaxCheck

/-- What a document says about the settings. -/
structure Patch where
  extension : Option String
  ignore : Option (List String)
  extraIgnore : List String
deriving DecidableEq

/-- What a value was expected to be. -/
inductive ValueKind
  | text
  | sequence
deriving DecidableEq

/-- Why a document says nothing about the settings. -/
inductive PatchFault
  | invalid (fault : Toml.Fault)
  | unknownKey (name : String)
  | wrongType (found : String) (expected : ValueKind)
  | integerOverflow
  | floatOverflow
deriving DecidableEq

namespace PatchFault

def message : PatchFault → String
  | .invalid fault => fault.message
  | .unknownKey name =>
    "unknown field `" ++ name ++ "`, expected one of `extension`, `ignore`, `extra_ignore`"
  | .wrongType found .text => "invalid type: " ++ found ++ ", expected a string"
  | .wrongType found .sequence => "invalid type: " ++ found ++ ", expected a sequence"
  | .integerOverflow => "integer number overflowed"
  | .floatOverflow => "floating-point number overflowed"

end PatchFault

namespace Patch

/-! ### How messages call a value -/

/-- The number that digits in a radix write, if there are any. -/
def natural? (radix : Nat) : List Char → Option Nat
  | [] => none
  | digits =>
    digits.foldl (fun n? c => do return (← n?) * radix + (← digit? radix c)) (some 0)

/-- The integer that digits in a radix, which may have a sign, write. -/
def integer? (radix : Nat) : List Char → Option Int
  | '-' :: digits => (natural? radix digits).map fun n => -(n : Int)
  | '+' :: digits => (natural? radix digits).map Int.ofNat
  | digits => (natural? radix digits).map Int.ofNat

/-- A power of two, as a bound of integers. -/
def powerOfTwo (bits : Nat) : Int := Int.ofNat (Nat.pow 2 bits)

/-- An integer in a message, with the name of the smallest type that holds it if 64 bits do not. -/
def describeInteger (n : Int) : Except PatchFault String :=
  let text := "integer `" ++ toString n ++ "`"
  if -powerOfTwo 63 ≤ n ∧ n < powerOfTwo 64 then .ok text
  else if -powerOfTwo 127 ≤ n ∧ n < powerOfTwo 127 then .ok (text ++ " as i128")
  else if 0 ≤ n ∧ n < powerOfTwo 128 then .ok (text ++ " as u128")
  else .error .integerOverflow

/-- The number that the text of a float without its sign writes, as a numeral. -/
def decimal (text : List Char) : Decimal :=
  let isMark := fun c : Char => c == 'e' || c == 'E'
  let mantissa := text.takeWhile fun c => !isMark c
  let exponent := (integer? 10 ((text.dropWhile fun c => !isMark c).drop 1)).getD 0
  let whole := mantissa.takeWhile (· != '.')
  let fraction := (mantissa.dropWhile (· != '.')).drop 1
  ⟨(natural? 10 (whole ++ fraction)).getD 0, exponent - fraction.length⟩

/-- A finite float in a message always has a point. -/
def withPoint (text : String) : String :=
  if '.' ∈ text.toList then text else text ++ ".0"

/-- A float in a message. One that is too large is refused unless it was written as infinity. -/
def describeFloat (text : List Char) : Except PatchFault String :=
  let negative := text.head? = some '-'
  let unsigned := if negative || text.head? = some '+' then text.drop 1 else text
  let sign := if negative then "-" else ""
  if unsigned = "nan".toList then .ok "floating point `NaN`"
  else if unsigned = "inf".toList then .ok ("floating point `" ++ sign ++ "inf`")
  else
    match Binary64.ofDecimal (decimal unsigned) with
    | .infinite => .error .floatOverflow
    | x => .ok ("floating point `" ++ sign ++ withPoint x.text ++ "`")

/-- A value in a message. -/
def describe : Toml.Value → Except PatchFault String
  | .text value => .ok ("string " ++ String.ofList (Quoted.encode value))
  | .boolean value => .ok ("boolean `" ++ toString value ++ "`")
  | .integer radix digits =>
    match integer? radix digits with
    | some n => describeInteger n
    | none => .error .integerOverflow
  | .float text => describeFloat text
  | .array _ _ => .ok "sequence"
  | .dateTime | .table _ _ => .ok "map"

/-! ### Reading a document -/

def refuse {α : Type} (value : Toml.Value) (expected : ValueKind) : Except PatchFault α := do
  throw (.wrongType (← describe value) expected)

/-- A value that has to be a text. -/
def text : Toml.Value → Except PatchFault String
  | .text value => .ok (String.ofList value)
  | value => refuse value .text

/-- Values that all have to be texts. -/
def texts : List Toml.Value → Except PatchFault (List String)
  | [] => .ok []
  | value :: rest => do
    let first ← text value
    return first :: (← texts rest)

/-- A value that has to be a list of texts. -/
def sequence : Toml.Value → Except PatchFault (List String)
  | .array _ elements => texts elements
  | value => refuse value .sequence

/-- Take in one key of a document with its value. -/
def addKey (patch : Patch) (name : String) (value : Toml.Value) : Except PatchFault Patch := do
  if name = "extension" then return { patch with extension := some (← text value) }
  else if name = "ignore" then return { patch with ignore := some (← sequence value) }
  else if name = "extra_ignore" then return { patch with extraIgnore := ← sequence value }
  else throw (.unknownKey name)

/-- Take in the keys of a document. -/
def addKeys (patch : Patch) : Toml.Entries → Except PatchFault Patch
  | [] => .ok patch
  | (name, value) :: rest => do addKeys (← patch.addKey name value) rest

/-- What a document says, its keys taken in the order of their names. -/
def ofEntries (entries : Toml.Entries) : Except PatchFault Patch :=
  addKeys ⟨none, none, []⟩ (sortByName entries)

/-- What the document that a text is says. -/
def ofText (text : List Char) : Except PatchFault Patch :=
  match Toml.parse text with
  | .error fault => .error (.invalid fault)
  | .ok entries => ofEntries entries

end Patch

namespace Settings

/-- Carry out what a document says. -/
def apply (s : Settings) (patch : Patch) : Settings :=
  let s := match patch.extension with
    | some text => s.setExtension text
    | none => s
  let s := match patch.ignore with
    | some fragments => s.clearIgnores.extendIgnores fragments
    | none => s
  s.extendIgnores patch.extraIgnore

/-- Carry out what a text says. -/
def merge (s : Settings) (text : List Char) : Except PatchFault Settings :=
  (Patch.ofText text).map s.apply

/-- The settings that a text makes of the default ones. -/
def ofText (text : List Char) : Except PatchFault Settings :=
  default.merge text

end Settings

end SyntaxCheck
