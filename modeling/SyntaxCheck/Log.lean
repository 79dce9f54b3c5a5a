import SyntaxCheck.Run.Basic
import SyntaxCheck.Text.Blank
import SyntaxCheck.Text.ControlCodes
import SyntaxCheck.Text.Quoted

/-!
# The log

A run is logged step by step, each step for one part of the program. A filter says down to which
level each part is heard: directives name parts by how their names begin, and the longest name that
fits counts.
-/

namespace SyntaxCheck

/-- How important an entry is. -/
inductive LogLevel
  | error
  | warn
  | info
  | debug
  | trace
deriving DecidableEq

namespace LogLevel

/-- The level as a number, which grows as entries become less important. -/
def rank : LogLevel → Nat
  | .error => 1
  | .warn => 2
  | .info => 3
  | .debug => 4
  | .trace => 5

/-- The name of the level, as long as the longest one. -/
def label : LogLevel → String
  | .error => "ERROR"
  | .warn => "WARN "
  | .info => "INFO "
  | .debug => "DEBUG"
  | .trace => "TRACE"

/-- The rank that a word stands for; `off` is below all levels. Case does not matter. -/
def rankOf? (word : String) : Option Nat :=
  [("off", 0), ("error", 1), ("warn", 2), ("info", 3), ("debug", 4), ("trace", 5)].lookup
    (String.ofList (word.toList.map Char.toLower))

end LogLevel

/-- The parts of the program that are logged. -/
inductive LogSource
  | discovery
  | source
  | checker
deriving DecidableEq

def LogSource.name : LogSource → String
  | .discovery => "pycheck::discovery"
  | .source => "pycheck::syntax"
  | .checker => "pycheck::checker"

structure LogEntry where
  level : LogLevel
  source : LogSource
  text : String
deriving DecidableEq

namespace LogEntry

/-- The lines of an entry. Further lines of its text are indented, and control codes are left out.
-/
def lines (e : LogEntry) : String :=
  let text := e.text.toList.flatMap fun c => if c = '\n' then "\n    ".toList else [c]
  let line := "[" ++ e.level.label ++ " " ++ e.source.name ++ "] " ++ String.ofList text ++ "\n"
  String.ofList (ControlCodes.shown line.toList)

end LogEntry

def commaSeparated : List String → String
  | [] => ""
  | [s] => s
  | s :: rest => s ++ ", " ++ commaSeparated rest

namespace Run

/-- What is logged of a finding. -/
def findingNote? : Finding → Option LogEntry
  | .candidate _ => none
  | .ignored path fragment =>
    some ⟨.debug, .discovery,
      "ignoring " ++ path.text ++ " (matches " ++ Quoted.text fragment ++ ")"⟩
  | .skipped fault => some ⟨.warn, .discovery, "skipping unreadable entry: " ++ fault.message⟩

/-- What is logged of a check. A fault of the grammar is told with its offset. -/
def fileNote? (f : CheckedFile) : Option LogEntry :=
  match f.fault with
  | some (.rejected r) =>
    let place := match r.fault with
      | .grammar _ => " at byte offset " ++ toString r.offset
      | .target _ => ""
    some ⟨.debug, .source, f.candidate.absolute.absoluteText ++ ": " ++ r.message ++ place⟩
  | _ => none

/-- The log of a run: where it starts, what it finds, what it checks and how many files failed. -/
def log (r : Run) (settings : Settings) : List LogEntry :=
  [⟨.debug, .discovery, "resolved root to " ++ r.root.absoluteText⟩,
    ⟨.debug, .discovery,
      "ignore fragments: [" ++ commaSeparated (settings.ignore.map Quoted.text) ++ "]"⟩] ++
    r.findings.filterMap findingNote? ++ r.files.filterMap fileNote? ++
    [⟨.debug, .checker,
      "checked " ++ toString r.report.filesChecked ++ " file(s), " ++
        toString r.report.failures.length ++ " failure(s)"⟩]

end Run

/-- A directive: parts whose names begin like `name` are heard down to `rank`. -/
structure LogDirective where
  name : Option String
  rank : Nat
deriving DecidableEq

/-- The directives of a filter, with the words that made no sense. -/
structure LogFilter where
  directives : List LogDirective
  nonsense : List String
deriving DecidableEq

namespace LogFilter

def splitAt (separator : Char) : List Char → List (List Char)
  | [] => [[]]
  | c :: rest =>
    match splitAt separator rest with
    | [] => [[c]]
    | part :: parts => if c = separator then [] :: part :: parts else (c :: part) :: parts

def trim (text : List Char) : List Char :=
  ((text.dropWhile isBlank).reverse.dropWhile isBlank).reverse

/-- A directive from its parts between equals signs, or the word that makes no sense. A part of the
program without a level is heard down to all levels. -/
def directive (text : List Char) : Except String LogDirective :=
  match (splitAt '=' text).map String.ofList with
  | [word] =>
    match LogLevel.rankOf? word with
    | some rank => .ok ⟨none, rank⟩
    | none => .ok ⟨some word, LogLevel.trace.rank⟩
  | [name, word] =>
    let word := String.ofList (trim word.toList)
    if word = "" then .ok ⟨some name, LogLevel.trace.rank⟩
    else
      match LogLevel.rankOf? word with
      | some rank => .ok ⟨some name, rank⟩
      | none => .error word
  | _ => .error (String.ofList text)

/-- Add a directive, in place of an earlier one with its name. -/
def add (d : LogDirective) : List LogDirective → List LogDirective
  | [] => [d]
  | old :: rest => if old.name = d.name then d :: rest else old :: add d rest

/-- Take in a word of a filter. -/
def addWord (filter : LogFilter) (text : List Char) : LogFilter :=
  if text.isEmpty then filter
  else
    match directive text with
    | .ok d => { filter with directives := add d filter.directives }
    | .error word => { filter with nonsense := filter.nonsense ++ [word] }

/-- The filter that a text with commas stands for. Without any directive only errors are heard. -/
def ofText (text : String) : LogFilter :=
  let filter := (splitAt ',' text.toList).foldl (fun f word => addWord f (trim word)) ⟨[], []⟩
  if filter.directives.isEmpty then { filter with directives := [⟨none, LogLevel.error.rank⟩] }
  else filter

/-- The directive with the longer name; the later one of two with names of one length. -/
def longer (a : Option LogDirective) (d : LogDirective) : Option LogDirective :=
  match a with
  | none => some d
  | some old =>
    if (d.name.getD "").utf8ByteSize < (old.name.getD "").utf8ByteSize then some old else some d

def applies (part : LogSource) (d : LogDirective) : Bool :=
  match d.name with
  | none => true
  | some name => name.toList.isPrefixOf part.name.toList

def hears (filter : LogFilter) (e : LogEntry) : Bool :=
  match (filter.directives.filter (applies e.source)).foldl longer none with
  | some d => e.level.rank ≤ d.rank
  | none => false

/-- What is said of the words of a filter that make no sense. -/
def warnings (filter : LogFilter) : List String :=
  filter.nonsense.map fun word =>
    "warning: invalid logging spec '" ++ word ++ "', ignoring it\n"

end LogFilter

end SyntaxCheck
