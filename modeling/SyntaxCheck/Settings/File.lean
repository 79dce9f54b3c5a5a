import SyntaxCheck.FileTree.System
import SyntaxCheck.Settings.Patch

/-!
# Settings files

Settings are merged from a file as a whole or not at all: whatever is wrong with the file, nothing
of it takes effect.
-/

namespace SyntaxCheck

/-- What is wrong with a settings file. -/
inductive SettingsFault
  | unreadable (error : ReadError)
  | faulty (fault : PatchFault)
deriving DecidableEq

/-- A settings file, called as it was written, with what is wrong with it. -/
structure SettingsError where
  file : String
  fault : SettingsFault
deriving DecidableEq

namespace SettingsError

def message (e : SettingsError) : String :=
  "invalid config file " ++ e.file ++ ": " ++
    match e.fault with
    | .unreadable error => error.message
    | .faulty fault => fault.message

end SettingsError

namespace Settings

/-- Carry out what a file says. -/
def mergeFile (fs : FileSystem) (s : Settings) (file : String) : Except SettingsError Settings :=
  match fs.readText file with
  | .error error => .error ⟨file, .unreadable error⟩
  | .ok text =>
    match s.merge text with
    | .error fault => .error ⟨file, .faulty fault⟩
    | .ok s => .ok s

/-- The settings that a file makes of the default ones. -/
def load (fs : FileSystem) (file : String) : Except SettingsError Settings :=
  mergeFile fs default file

end Settings

end SyntaxCheck
