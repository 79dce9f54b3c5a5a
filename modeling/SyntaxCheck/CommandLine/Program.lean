import SyntaxCheck.CommandLine.Arguments
import SyntaxCheck.CommandLine.Help
import SyntaxCheck.Log
import SyntaxCheck.Report.Lines
import SyntaxCheck.Settings.File

/-!
# The program

What the program prints and how it ends, for a file system, an environment and a command line. The
command line is read first, then the settings, then the root is looked up; whatever fails there ends
the program before it prints anything on standard output.
-/

namespace SyntaxCheck.CommandLine

variable [CharacterNames]

/-- What a program leaves behind. -/
structure Output where
  code : Nat
  stdout : String
  stderr : String
deriving DecidableEq

/-- The variables of the environment with their values. -/
abbrev Environment := List (String × String)

/-- Why a run cannot start. -/
inductive StartError
  | settings (error : SettingsError)
  | root (error : RootError)
deriving DecidableEq

def StartError.message : StartError → String
  | .settings error => error.message
  | .root error => error.message

/-- The settings that options ask for: the fragments ignored by default are left out first, then the
settings file is merged, then the fragments of the command line are added. -/
def Options.settings (fs : FileSystem) (o : Options) : Except SettingsError Settings := do
  let start := if o.noDefaultIgnores then Settings.default.clearIgnores else Settings.default
  let merged ←
    match o.config with
    | some file => Settings.mergeFile fs start file
    | none => .ok start
  return merged.extendIgnores o.ignore

/-- The run that options ask for, with its settings. -/
def Options.start (fs : FileSystem) (o : Options) : Except StartError (Settings × Run) :=
  match o.settings fs with
  | .error error => .error (.settings error)
  | .ok settings =>
    match run fs o.root settings with
    | .error error => .error (.root error)
    | .ok r => .ok (settings, r)

/-- Whether words stand out: if the environment asks for it and no option forbids it. -/
def Options.styled (env : Environment) (o : Options) : Bool :=
  !o.noColor && (env.lookup "CLICOLOR_FORCE").any (· ≠ "0")

/-- What is heard of the log: what the environment says, or more if the run is to be verbose. -/
def Options.logFilter (env : Environment) (o : Options) : LogFilter :=
  LogFilter.ofText ((env.lookup "RUST_LOG").getD (if o.verbose then "debug" else "warn"))

/-- The log as it is printed. -/
def printedLog (filter : LogFilter) (entries : List LogEntry) : String :=
  (entries.filter filter.hears).foldr (fun e rest => e.lines ++ rest) ""

/-- Do what options ask for. -/
def Options.execute (fs : FileSystem) (env : Environment) (o : Options) : Output :=
  let filter := o.logFilter env
  let warnings := filter.warnings.foldr (· ++ ·) ""
  match o.start fs with
  | .error error => ⟨2, "", warnings ++ "error: " ++ error.message ++ "\n"⟩
  | .ok (settings, r) =>
    let mode := if o.json then ReportMode.json else .human
    { code := r.report.exitCode
      stdout := unlines (told mode (o.styled env) settings.extension r)
      stderr := warnings ++ printedLog filter (r.log settings) }

/-- Do what the words of a command line ask for. -/
def execute (fs : FileSystem) (env : Environment) (words : List String) : Output :=
  match parseArguments words with
  | .error fault => ⟨2, "", fault.text⟩
  | .ok (.help long) => ⟨0, if long then longHelp else shortHelp, ""⟩
  | .ok .version => ⟨0, versionText, ""⟩
  | .ok (.run options) => options.execute fs env

end SyntaxCheck.CommandLine
