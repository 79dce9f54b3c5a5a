import SyntaxCheck.Report.Json

/-!
# Reports as lines

What a person is told while a run goes on and when it is over. A line may hold a line end of its
own; a line end is added after each of them when they are printed. A reporter is told the events one
by one and the report in the end; it says nothing at the end of a run that had nothing to check.
-/

namespace SyntaxCheck

/-- The colours of words that stand out. -/
inductive Tone
  | good
  | bad
deriving DecidableEq

namespace Tone

def code : Tone → String
  | .good => "\x1b[1;32m"
  | .bad => "\x1b[1;31m"

/-- A word that stands out if styling is on. -/
def paint (tone : Tone) (styled : Bool) (word : String) : String :=
  if styled then tone.code ++ word ++ "\x1b[0m" else word

end Tone

/-- How the files with an extension are called. -/
def fileKind (extension : String) : String :=
  if extension = "py" then "Python" else "." ++ extension

def discoveredLines (kind : String) (toCheck ignored : Nat) : List String :=
  let found :=
    if toCheck = 0 then "No " ++ kind ++ " files found in the project."
    else "Found " ++ toString toCheck ++ " " ++ kind ++ " file(s) to check...\n"
  if 0 < ignored then ["Skipping " ++ toString ignored ++ " ignored file(s).", found]
  else [found]

def outcomeLine (styled : Bool) (o : Outcome) : String :=
  match o.error with
  | none => Tone.good.paint styled "PASS" ++ " " ++ o.path
  | some message => Tone.bad.paint styled "FAIL" ++ " " ++ o.path ++ ": " ++ message

def separator : String :=
  String.ofList ('\n' :: List.replicate 60 '=')

def summaryLines (styled : Bool) (kind : String) (r : Report) : List String :=
  separator ::
    if r.failures.isEmpty then
      [Tone.good.paint styled "SUCCESS:" ++ " All " ++ toString r.filesChecked ++ " " ++ kind ++
        " file(s) passed syntax check!"]
    else
      (Tone.bad.paint styled "FAILED:" ++ " " ++ toString r.failures.length ++
        " file(s) have syntax errors:") ::
        r.failures.map fun f => "  - " ++ f.path ++ ": " ++ f.message

/-- How a run is told: line by line, or as one JSON text. -/
inductive ReportMode
  | human
  | json
deriving DecidableEq

def eventLines (styled : Bool) (kind : String) : Event → List String
  | .discovered toCheck ignored => discoveredLines kind toCheck ignored
  | .checked outcome => [outcomeLine styled outcome]

/-- A reporter in the course of a run: whether there was nothing to check, and the lines that it has
printed by now. -/
structure Reporter where
  mode : ReportMode
  styled : Bool
  kind : String
  shortCircuited : Bool
  printed : List String

namespace Reporter

def ofExtension (mode : ReportMode) (styled : Bool) (extension : String) : Reporter :=
  ⟨mode, styled, fileKind extension, false, []⟩

/-- Whether nothing is said after the event. -/
def flagAfter (flag : Bool) : Event → Bool
  | .discovered toCheck _ => decide (toCheck = 0)
  | .checked _ => flag

/-- Tell the reporter of an event. In JSON nothing is printed before the run is over. -/
def event (p : Reporter) (e : Event) : Reporter :=
  if p.mode = .json then p
  else
    { p with
      shortCircuited := flagAfter p.shortCircuited e
      printed := p.printed ++ eventLines p.styled p.kind e }

/-- All that is printed once the reporter has the report. -/
def finish (p : Reporter) (report : Report) : List String :=
  if p.mode = .json then p.printed ++ [report.json]
  else if p.shortCircuited then p.printed
  else p.printed ++ summaryLines p.styled p.kind report

end Reporter

/-- What a new reporter prints of a run. -/
def told (mode : ReportMode) (styled : Bool) (extension : String) (r : Run) : List String :=
  (r.events.foldl Reporter.event (.ofExtension mode styled extension)).finish r.report

end SyntaxCheck
