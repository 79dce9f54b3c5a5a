import SyntaxCheck.Report.JsonValue
import SyntaxCheck.Run.Basic

/-!
# Reports as JSON
-/

namespace SyntaxCheck

def Failure.toJson (f : Failure) : JsonValue :=
  .object [("path", .string f.path), ("message", .string f.message)]

namespace Report

def toJson (r : Report) : JsonValue :=
  .object
    [("root", .string r.root), ("passed", .boolean r.passed),
      ("files_found", .number r.filesFound), ("files_checked", .number r.filesChecked),
      ("files_ignored", .number r.filesIgnored),
      ("failures", .array (r.failures.map Failure.toJson))]

def json (r : Report) : String :=
  r.toJson.pretty

end Report

end SyntaxCheck
