import Mathlib.Tactic
import SyntaxCheck.Proofs.JsonReading
import SyntaxCheck.Proofs.ReporterItems

/-!
# Reports in JSON

Where a run is told in JSON, one document is all that is printed. Whoever reads it finds the report
again, member by member, whatever the paths and the messages are made of.
-/

namespace SyntaxCheck.Proofs

/-! ### Reading a report -/

def memberIn? (name : String) : JsonValue → Option JsonValue
  | .object members => members.lookup name
  | _ => none

def stringIn? : JsonValue → Option String
  | .string s => some s
  | _ => none

def numberIn? : JsonValue → Option Nat
  | .number n => some n
  | _ => none

def booleanIn? : JsonValue → Option Bool
  | .boolean b => some b
  | _ => none

def elementsIn? : JsonValue → Option (List JsonValue)
  | .array elements => some elements
  | _ => none

def failureIn? (v : JsonValue) : Option Failure := do
  let path ← (memberIn? "path" v).bind stringIn?
  let message ← (memberIn? "message" v).bind stringIn?
  return ⟨path, message⟩

/-- The report that a value holds, if each of its members is of its kind. -/
def reportIn? (v : JsonValue) : Option Report := do
  let root ← (memberIn? "root" v).bind stringIn?
  let passed ← (memberIn? "passed" v).bind booleanIn?
  let filesFound ← (memberIn? "files_found" v).bind numberIn?
  let filesChecked ← (memberIn? "files_checked" v).bind numberIn?
  let filesIgnored ← (memberIn? "files_ignored" v).bind numberIn?
  let elements ← (memberIn? "failures" v).bind elementsIn?
  let failures ← elements.mapM failureIn?
  return { root, passed, filesFound, filesChecked, filesIgnored, failures }

/-- The report that a text is the document of. -/
def decodeReport? (document : String) : Option Report :=
  (readDocument? document.toList).bind reportIn?

lemma failureIn_toJson (f : Failure) : failureIn? f.toJson = some f := rfl

lemma failuresIn_toJson (failures : List Failure) :
    (failures.map Failure.toJson).mapM failureIn? = some failures := by
  induction failures with
  | nil => rfl
  | cons f failures ih => simp [failureIn_toJson, ih]

lemma reportIn_toJson (r : Report) : reportIn? r.toJson = some r := by
  have hfailures := failuresIn_toJson r.failures
  have hmembers : reportIn? r.toJson = ((r.failures.map Failure.toJson).mapM failureIn?).bind
      fun failures => some { r with failures } := rfl
  rw [hmembers, hfailures]
  rfl

lemma passed_toJson (r : Report) : memberIn? "passed" r.toJson = some (.boolean r.passed) := rfl

/-! ### The document of a report -/

/-- The text is one document, it can be read in one way only, and who reads it finds the report. -/
structure FaithfulDocument (r : Report) (document : String) : Prop where
  valid : SpellsDocument document.toList r.toJson
  unambiguous : ∀ v, SpellsDocument document.toList v → v = r.toJson
  decodes : decodeReport? document = some r
  only : ∀ other : Report, other.json = document → other = r
  not_empty : document ≠ ""

lemma readDocument_json (r : Report) : readDocument? r.json.toList = some r.toJson :=
  (readDocument_eq_some_iff _ _).mpr (spellsDocument_pretty r.toJson)

lemma decodeReport_json (r : Report) : decodeReport? r.json = some r := by
  rw [decodeReport?, readDocument_json, Option.bind_some, reportIn_toJson]

/-- Different reports have different documents. -/
lemma json_injective : Function.Injective Report.json := by
  intro r r' h
  have hsame := decodeReport_json r
  rw [h, decodeReport_json r'] at hsame
  exact (Option.some.inj hsame).symm

lemma not_spellsDocument_nil (v : JsonValue) : ¬ SpellsDocument [] v := by
  rintro ⟨before, w, after, -, -, hw, hempty⟩
  obtain ⟨c, rest, rfl, -⟩ := startsItem_value hw
  simp at hempty

lemma faithfulDocument_json (r : Report) : FaithfulDocument r r.json where
  valid := spellsDocument_pretty r.toJson
  unambiguous := fun _ h => spellsDocument_unique h (spellsDocument_pretty r.toJson)
  decodes := decodeReport_json r
  only := fun _ h => json_injective h
  not_empty := by
    intro hempty
    have hvalid := spellsDocument_pretty r.toJson
    change SpellsDocument r.json.toList _ at hvalid
    rw [hempty] at hvalid
    exact not_spellsDocument_nil _ hvalid

/-! ### Runs -/

lemma unlines_singleton (line : String) : unlines [line] = line ++ "\n" := by
  rw [unlines, List.foldr_cons, List.foldr_nil, String.append_empty]

/-- What a reporter prints in JSON of a run is one document that is faithful to its report. With a
line end it is all that the command line prints, and it says passed exactly if the program ends with
zero. -/
theorem json_report_faithful [CharacterNames] (r : Run) :
    FaithfulDocument r.report r.report.json ∧
    (∀ styled extension, told .json styled extension r = [r.report.json]) ∧
    ∀ fs env words o settings, CommandLine.parseArguments words = .ok (.run o) →
      o.start fs = .ok (settings, r) → o.json = true →
      (CommandLine.execute fs env words).stdout = r.report.json ++ "\n" ∧
      ∃ passed, (readDocument? r.report.json.toList).bind (memberIn? "passed") =
          some (.boolean passed) ∧
        (passed = true ↔ (CommandLine.execute fs env words).code = 0) := by
  refine ⟨faithfulDocument_json r.report, fun styled extension => told_json styled extension r, ?_⟩
  intro fs env words o settings hwords hstart hjson
  rw [execute_eq env hwords, stdout_eq_told env hstart, code_eq_exitCode env hstart, hjson,
    if_pos rfl, told_json, unlines_singleton]
  refine ⟨rfl, r.report.passed, ?_, (exitCode_eq_zero_iff r.report).symm⟩
  rw [readDocument_json, Option.bind_some, passed_toJson]

theorem json_report_faithful_mixedFiles :
    CommandLine.parseArguments ["--json"] = .ok (.run { json := true }) ∧
    CommandLine.Options.start mixedFiles { json := true } =
      .ok (.default, Run.ofRoot mixedFiles ["p"] .default) ∧
    FaithfulDocument (Run.ofRoot mixedFiles ["p"] .default).report
      (Run.ofRoot mixedFiles ["p"] .default).report.json ∧
    (CommandLine.execute mixedFiles [] ["--json"]).stdout =
      (Run.ofRoot mixedFiles ["p"] .default).report.json ++ "\n" := by
  have hstart : CommandLine.Options.start mixedFiles { json := true } =
      .ok (.default, Run.ofRoot mixedFiles ["p"] .default) := rfl
  obtain ⟨hfaithful, -, hprinted⟩ := json_report_faithful (Run.ofRoot mixedFiles ["p"] .default)
  exact ⟨rfl, hstart, hfaithful,
    (hprinted mixedFiles [] ["--json"] { json := true } .default rfl hstart rfl).1⟩

end SyntaxCheck.Proofs
