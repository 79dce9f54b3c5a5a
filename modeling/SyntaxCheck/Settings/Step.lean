import SyntaxCheck.Settings.File

/-!
# Steps of configuration

Settings are edited in place. An edit may fail on its way, and what it changed before it failed
stays changed, so one that is to take effect as a whole or not at all has to find out first whether
it can fail.
-/

namespace SyntaxCheck

namespace Settings

/-- A program that edits settings and may fail on its way. -/
abbrev Edit (ε α : Type) := ExceptT ε (StateM Settings) α

namespace Edit

variable {ε α : Type}

/-- Go on with a value, or fail if there is none. -/
def take (value : Except ε α) : Edit ε α :=
  ExceptT.mk (pure value)

/-- The settings after an edit, with how it came out. -/
def outcome (edit : Edit ε α) (s : Settings) : Except ε α × Settings :=
  StateT.run edit.run s

def clear : Edit ε Unit :=
  modify clearIgnores

/-- Add fragments one by one. -/
def extend (fragments : List String) : Edit ε Unit :=
  fragments.forM fun fragment => modify fun s => { s with ignore := addFragment s.ignore fragment }

def merge (text : List Char) : Edit PatchFault Unit := do
  let patch ← take (Patch.ofText text)
  if let some extension := patch.extension then
    modify fun s => s.setExtension extension
  if let some fragments := patch.ignore then
    clear
    extend fragments
  extend patch.extraIgnore

def mergeFile (fs : FileSystem) (file : String) : Edit SettingsError Unit := do
  let text ← (take (fs.readText file)).adapt fun error => ⟨file, .unreadable error⟩
  (merge text).adapt fun fault => ⟨file, .faulty fault⟩

/-- Put the settings that an edit makes of the default ones in the place of those that are there. -/
def anew (edit : Edit ε Unit) : Edit ε Unit := do
  let made := edit.outcome default
  take made.1
  set made.2

end Edit

/-- One step of configuration. -/
inductive Step
  | clear
  | extend (fragments : List String)
  | merge (text : List Char)
  | mergeFile (fs : FileSystem) (file : String)
  | ofText (text : List Char)
  | load (fs : FileSystem) (file : String)

/-- Why a step fails. -/
inductive StepFault
  | text (fault : PatchFault)
  | file (error : SettingsError)
deriving DecidableEq

/-- What a step leaves: the settings after it, and the fault if it failed. -/
structure StepResult where
  settings : Settings
  fault : Option StepFault
deriving DecidableEq

namespace Step

def edit : Step → Edit StepFault Unit
  | .clear => Edit.clear
  | .extend fragments => Edit.extend fragments
  | .merge text => (Edit.merge text).adapt .text
  | .mergeFile fs file => (Edit.mergeFile fs file).adapt .file
  | .ofText text => (Edit.merge text).anew.adapt .text
  | .load fs file => (Edit.mergeFile fs file).anew.adapt .file

def result (s : Settings) (step : Step) : StepResult :=
  match step.edit.outcome s with
  | (.ok (), s') => ⟨s', none⟩
  | (.error fault, s') => ⟨s', some fault⟩

/-- The results of steps, one after another. -/
def results (s : Settings) : List Step → List StepResult
  | [] => []
  | step :: rest => step.result s :: results (step.result s).settings rest

/-- The settings after steps. -/
def after (s : Settings) (steps : List Step) : Settings :=
  steps.foldl (fun s step => (step.result s).settings) s

end Step

end Settings

end SyntaxCheck
