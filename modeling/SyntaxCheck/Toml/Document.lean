import SyntaxCheck.Toml.Scalar

/-!
# TOML documents

The values of a document. Every key gets its value once: a table may be opened again only as long as
it is implied by the keys of others, and only by the kind of key that implied it.
-/

namespace SyntaxCheck.Toml

/-- How a table came to be: by its own header, in braces, as a step of the key in a header, or as a
step of a key with dots. -/
inductive TableOrigin
  | header
  | inline
  | implied
  | dotted
deriving DecidableEq

/-- A value of a document. An array may be made of the tables with one header in double brackets. -/
inductive Value
  | text (value : List Char)
  | boolean (value : Bool)
  | integer (radix : Nat) (digits : List Char)
  | float (text : List Char)
  | dateTime
  | array (ofTables : Bool) (elements : List Value)
  | table (origin : TableOrigin) (entries : List (String × Value))

/-- The keys of a table with their values, in the order in which they came. -/
abbrev Entries := List (String × Value)

namespace Value

def ofScalar : Scalar → Value
  | .text value => .text value
  | .boolean value => .boolean value
  | .integer radix digits => .integer radix digits
  | .float numeral => .float numeral
  | .dateTime => .dateTime

/-- How messages call the type of a value. -/
def typeName : Value → String
  | .text _ => "string"
  | .boolean _ => "boolean"
  | .integer _ _ => "integer"
  | .float _ => "float"
  | .dateTime => "datetime"
  | .array _ _ => "array"
  | .table .inline _ => "inline table"
  | .table _ _ => "table"

end Value

namespace Entries

/-- Give a key a value, in place of the one that it had or after all others. -/
def set (name : String) (value : Value) : Entries → Entries
  | [] => [(name, value)]
  | (other, old) :: rest =>
    if other = name then (name, value) :: rest else (other, old) :: set name value rest

/-- Give a key a value if it has none. -/
def add (entries : Entries) (name : String) (value : Value) : Except Fault Entries :=
  match entries.lookup name with
  | none => .ok (entries ++ [(name, value)])
  | some _ => .error .duplicateKey

/-- Change the last element of an array of tables. -/
def mapLast (f : Value → Except Fault Value) : List Value → Except Fault (List Value)
  | [] => .ok []
  | [v] => (f v).map ([·])
  | v :: rest => (mapLast f rest).map (v :: ·)

/-- Change the entries of a table that a key may lead through. A key with dots leads through a table
only if no header made it. -/
def stepInto (dotted : Bool) (change : TableOrigin → Entries → Except Fault Entries) :
    Value → Except Fault Value
  | .table origin entries =>
    if origin = .inline then .error (.cannotExtend "inline table")
    else if dotted ∧ origin = .header then .error .duplicateKey
    else (change origin entries).map (.table origin ·)
  | .array true elements =>
    (mapLast (fun
      | .table origin entries => (change origin entries).map (.table origin ·)
      | v => .ok v) elements).map (.array true ·)
  | v => .error (.cannotExtend v.typeName)

/-- Change the entries at the end of a path; tables that are missing on the way are made. -/
def modifyAt (dotted : Bool) (change : TableOrigin → Entries → Except Fault Entries) :
    List String → TableOrigin → Entries → Except Fault Entries
  | [], origin, entries => change origin entries
  | name :: path, _, entries =>
    match entries.lookup name with
    | none =>
      let origin := if dotted then TableOrigin.dotted else .implied
      (modifyAt dotted change path origin []).map fun inner =>
        entries ++ [(name, .table origin inner)]
    | some value =>
      (stepInto dotted (modifyAt dotted change path) value).map fun value => set name value entries

/-- Give a key its value. A key with dots cannot lead into a table that the step of a header
implied. -/
def assign (key : List String) (value : Value) (entries : Entries) : Except Fault Entries :=
  let path := key.dropLast
  let dotted := !path.isEmpty
  modifyAt dotted (fun origin inner =>
    if dotted && origin ≠ .dotted then .error .duplicateKey
    else add inner (key.getLastD "") value) path .header entries

end Entries

/-! ### Reading values and tables -/

mutual

/-- What a raw value stands for. -/
def RawValue.decode : RawValue → Except Fault Value
  | .scalar raw => (Decode.scalar raw).map .ofScalar
  | .array elements => (RawValue.decodeAll elements).map (.array false ·)
  | .table entries => (RawValue.decodeEntries [] entries).map (.table .inline ·)

def RawValue.decodeAll : List RawValue → Except Fault (List Value)
  | [] => .ok []
  | v :: rest => do
    let value ← v.decode
    return value :: (← RawValue.decodeAll rest)

/-- Add the entries of an inline table to those before them. -/
def RawValue.decodeEntries (before : Entries) :
    List (List Raw × RawValue) → Except Fault Entries
  | [] => .ok before
  | (key, v) :: rest => do
    let key ← key.mapM Decode.key
    let value ← v.decode
    RawValue.decodeEntries (← before.assign key value) rest

end

namespace Document

def assignAll (entries : Entries) : List Assignment → Except Fault Entries
  | [] => .ok entries
  | a :: rest => do
    let key ← a.key.mapM Decode.key
    let value ← a.value.decode
    assignAll (← entries.assign key value) rest

/-- What a header finds under the last part of its key: nothing, or a table that keys of other
headers have implied. -/
def reopened (name : String) (entries : Entries) : Except Fault Entries :=
  match entries.lookup name with
  | none => .ok []
  | some (.table .implied inner) => .ok inner
  | some _ => .error .duplicateKey

/-- The entries of the table at the end of a path, which has none if it is missing. -/
def tableAt : List String → Entries → Except Fault Entries
  | [], entries => .ok entries
  | name :: path, entries =>
    match entries.lookup name with
    | none => .ok []
    | some (.table .inline _) => .error (.cannotExtend "inline table")
    | some (.table _ inner) => tableAt path inner
    | some (.array true elements) =>
      match elements.getLast? with
      | some (.table _ inner) => tableAt path inner
      | _ => .ok []
    | some v => .error (.cannotExtend v.typeName)

/-- The entries that a table has when its header is read. -/
def openTable (root : Entries) (path : List String) (name : String) : Except Fault Entries := do
  reopened name (← tableAt path root)

/-- Put a table under the last part of the key of its header. -/
def closeTable (name : String) (ofArray : Bool) (table : Entries) (entries : Entries) :
    Except Fault Entries :=
  let value := Value.table .header table
  if ofArray then
    match entries.lookup name with
    | none => .ok (entries ++ [(name, .array true [value])])
    | some (.array true elements) =>
      .ok (Entries.set name (.array true (elements ++ [value])) entries)
    | some _ => .error .duplicateKey
  else .ok (Entries.set name value entries)

/-- Add a table with its header. -/
def addSection (root : Entries) (s : Section) : Except Fault Entries := do
  let key ← s.key.mapM Decode.key
  let path := key.dropLast
  let name := key.getLastD ""
  let start ← if s.ofArray then pure [] else openTable root path name
  let table ← assignAll start s.assignments
  Entries.modifyAt false (fun _ inner => closeTable name s.ofArray table inner) path .header root

/-- The entries of a whole outline. -/
def ofOutline (o : Outline) : Except Fault Entries := do
  let top ← assignAll [] o.top
  o.sections.foldlM addSection top

end Document

/-- The entries of the document that a text is. -/
def parse (text : List Char) : Except Fault Entries := do
  Document.ofOutline (← outline text)

end SyntaxCheck.Toml
