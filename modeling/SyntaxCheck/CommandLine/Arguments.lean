import SyntaxCheck.CommandLine.Similarity

/-!
# Arguments

What the command line takes: a root, flags, and options with values. `parseArguments` reads the
words one by one. An option waits for its value until the next word, and a root or an option that
has its value is taken in when the next argument begins, so the fault of a word can come before that
of the value before it.
-/

namespace SyntaxCheck.CommandLine

/-- The arguments that the program knows. -/
inductive Argument
  | root
  | verbose
  | json
  | ignore
  | noDefaultIgnores
  | config
  | noColor
  | help
  | version
deriving DecidableEq

namespace Argument

/-- The arguments with long names, in the order in which they are compared with a misspelling. -/
def named : List Argument :=
  [.verbose, .json, .ignore, .noDefaultIgnores, .config, .noColor, .help, .version]

/-- The long name of an argument; the root has none. -/
def longName : Argument → String
  | .root => ""
  | .verbose => "verbose"
  | .json => "json"
  | .ignore => "ignore"
  | .noDefaultIgnores => "no-default-ignores"
  | .config => "config"
  | .noColor => "no-color"
  | .help => "help"
  | .version => "version"

/-- How messages call an argument. -/
def label : Argument → String
  | .root => "[ROOT]"
  | .ignore => "--ignore <FRAGMENT>"
  | .config => "--config <FILE>"
  | a => "--" ++ a.longName

def takesValue : Argument → Bool
  | .root | .ignore | .config => true
  | _ => false

def ofLongName? (name : String) : Option Argument :=
  named.find? fun a => a.longName == name

end Argument

/-- What the words of a command line ask for. -/
structure Options where
  root : String := "."
  verbose : Bool := false
  json : Bool := false
  ignore : List String := []
  noDefaultIgnores : Bool := false
  config : Option String := none
  noColor : Bool := false
deriving DecidableEq

/-- What is wrong with a command line. Where a usage line helps, the fault keeps the arguments to
show in it. -/
inductive UsageFault
  | missingValue (argument : Argument)
  | repeated (argument : Argument)
  | unneededValue (argument : Argument) (value : String) (used : List Argument)
  | similar (text : String) (argument : Argument) (used : List Argument)
  | unknownOption (text : String) (used : List Argument)
  | unexpected (text : String)
deriving DecidableEq

namespace UsageFault

/-- The usage line. It shows the given arguments as if they were required, or that there are options
if no argument is given. -/
def usage (used : List Argument) : String :=
  if used.isEmpty then "Usage: pycheck [OPTIONS] [ROOT]"
  else
    let options := (used.filter (· ≠ .root)).map fun a => " " ++ a.label
    "Usage: pycheck" ++ options.foldr (· ++ ·) (if .root ∈ used then " <ROOT>" else " [ROOT]")

def message : UsageFault → String
  | .missingValue a => "a value is required for '" ++ a.label ++ "' but none was supplied"
  | .repeated a => "the argument '" ++ a.label ++ "' cannot be used multiple times"
  | .unneededValue a value _ =>
    "unexpected value '" ++ value ++ "' for '" ++ a.label ++ "' found; no more were expected"
  | .similar text _ _ | .unknownOption text _ | .unexpected text =>
    "unexpected argument '" ++ text ++ "' found"

/-- What could be done instead. -/
def tip? : UsageFault → Option String
  | .similar _ a _ => some ("a similar argument exists: '--" ++ a.longName ++ "'")
  | .unknownOption text _ =>
    some ("to pass '" ++ text ++ "' as a value, use '-- " ++ text ++ "'")
  | _ => none

def usage? : UsageFault → Option String
  | .missingValue _ => none
  | .repeated _ | .unexpected _ => some (usage [])
  | .unneededValue _ _ used | .similar _ _ used | .unknownOption _ used => some (usage used)

def text (fault : UsageFault) : String :=
  let paragraph := fun before (line : Option String) =>
    match line with
    | some line => before ++ line ++ "\n\n"
    | none => ""
  "error: " ++ fault.message ++ "\n\n" ++ paragraph "  tip: " fault.tip? ++
    paragraph "" fault.usage? ++ "For more information, try '--help'.\n"

end UsageFault

/-- What a command line is for. -/
inductive Request
  | run (options : Options)
  | help (long : Bool)
  | version
deriving DecidableEq

/-- The words read so far: what they ask for, the arguments in the order in which they were taken
in, whether there has been a root, and the argument that is not taken in yet, with its value if it
has one. -/
structure Draft where
  options : Options := {}
  used : List Argument := []
  rootSeen : Bool := false
  pending : Option (Argument × Option String) := none

namespace Draft

def use (d : Draft) (a : Argument) : Draft :=
  if a ∈ d.used then d else { d with used := d.used ++ [a] }

/-- Take in an argument with its value. Only fragments to ignore can be given several times, and
only they can be empty. -/
def assign (d : Draft) (a : Argument) (value : String) : Except UsageFault Draft :=
  match a with
  | .ignore =>
    .ok { d.use a with options := { d.options with ignore := d.options.ignore ++ [value] } }
  | .config =>
    if .config ∈ d.used then .error (.repeated a)
    else if value = "" then .error (.missingValue a)
    else .ok { d.use a with options := { d.options with config := some value } }
  | _ =>
    if value = "" then .error (.missingValue a)
    else .ok { d.use a with options := { d.options with root := value } }

/-- Take in the argument that is waiting. -/
def settle (d : Draft) : Except UsageFault Draft :=
  let free := { d with pending := none }
  match d.pending with
  | none => .ok d
  | some (a, none) => .error (.missingValue a)
  | some (a, some value) => free.assign a value

/-- The arguments used before a word that makes no sense. -/
def settledUsed (d : Draft) : List Argument :=
  match d.settle with
  | .ok d => d.used
  | .error _ => d.used

def setFlag (d : Draft) (a : Argument) : Except UsageFault Draft := do
  let d ← d.settle
  if a ∈ d.used then throw (.repeated a)
  let o := d.options
  let o := match a with
    | .verbose => { o with verbose := true }
    | .json => { o with json := true }
    | .noDefaultIgnores => { o with noDefaultIgnores := true }
    | .noColor => { o with noColor := true }
    | _ => o
  return { d.use a with options := o }

/-- Take a word that is no option: the value that an option waits for, or the root. -/
def addPlain (d : Draft) (text : String) : Except UsageFault Draft := do
  match d.pending with
  | some (a, none) => return { d with pending := some (a, some text) }
  | _ =>
    if d.rootSeen then throw (.unexpected text)
    let d ← d.settle
    return { d with rootSeen := true, pending := some (.root, some text) }

/-- Take a word after the mark that ends the options. It can only be the root. -/
def addTrailing (d : Draft) (text : String) : Except UsageFault Draft := do
  if d.rootSeen then throw (.unexpected text)
  let d ← d.settle
  return { d with rootSeen := true, pending := some (.root, some text) }

/-- The request of a command line that has been read to its end. -/
def finish (d : Draft) : Except UsageFault Request :=
  d.settle.map fun d => .run d.options

end Draft

/-- What follows from a word: more words can come, or the request is clear. -/
inductive Progress
  | more (draft : Draft)
  | done (request : Request)

def unknownLong (d : Draft) (name : String) : UsageFault :=
  let used := d.settledUsed
  match (Similarity.closest? name (Argument.named.map Argument.longName)).bind
      Argument.ofLongName? with
  | some a => .similar ("--" ++ name) a (if a ∈ used then used else used ++ [a])
  | none => .unknownOption ("--" ++ name) used

/-- Take a long option, with its value if one is joined to it. -/
def takeLong (d : Draft) (name : String) (value : Option String) : Except UsageFault Progress :=
  match Argument.ofLongName? name, value with
  | none, _ => .error (unknownLong d name)
  | some a, some text =>
    if a.takesValue then do return .more (← (← d.settle).assign a text)
    else .error (.unneededValue a text (if a ∈ d.used then d.used else d.used ++ [a]))
  | some .help, none => d.settle.map fun _ => .done (.help true)
  | some .version, none => d.settle.map fun _ => .done .version
  | some a, none =>
    if a.takesValue then d.settle.map fun d => .more { d with pending := some (a, none) }
    else (d.setFlag a).map .more

def takeShorts (d : Draft) : List Char → Except UsageFault Progress
  | [] => .ok (.more d)
  | c :: rest =>
    if c = 'v' then do takeShorts (← d.setFlag .verbose) rest
    else if c = 'h' then d.settle.map fun _ => .done (.help false)
    else if c = 'V' then d.settle.map fun _ => .done .version
    else .error (.unknownOption ("-" ++ c.toString) [])

def takeWord (d : Draft) (word : String) : Except UsageFault Progress :=
  match word.toList with
  | '-' :: '-' :: rest =>
    let name := String.ofList (rest.takeWhile (· != '='))
    let value := (rest.dropWhile (· != '=')).tail?.map String.ofList
    takeLong d name value
  | '-' :: c :: rest => takeShorts d (c :: rest)
  | _ => (d.addPlain word).map .more

/-- Read the words after those in a draft. After two dashes every word stands for itself. -/
def parseWords (d : Draft) : List String → Except UsageFault Request
  | [] => d.finish
  | word :: rest => do
    if word = "--" then (← rest.foldlM Draft.addTrailing d).finish
    else
      match ← takeWord d word with
      | .more d => parseWords d rest
      | .done request => return request

/-- What the words of a command line ask for. -/
def parseArguments (words : List String) : Except UsageFault Request :=
  parseWords {} words

end SyntaxCheck.CommandLine
