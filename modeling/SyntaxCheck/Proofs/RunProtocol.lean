import Mathlib.Tactic
import SyntaxCheck.Run.Basic

/-!
# What a run tells

A run is a loop over the candidates: each is checked, the outcome is told, and a failure is kept.
The failures kept are at every moment those that have been told, so the events of a run and its
report agree whatever becomes of the single files.
-/

namespace SyntaxCheck.Proofs

/-- The failure that an event tells of. -/
def eventFailure? : Event → Option Failure
  | .checked o => Run.failure? o
  | .discovered _ _ => none

/-- Whether the event tells that a file was checked. -/
def isCheckedEvent : Event → Bool
  | .checked _ => true
  | .discovered _ _ => false

lemma reported_ne_empty (fault : FileFault) : fault.reported ≠ "" := by
  unfold FileFault.reported
  split
  · decide
  · assumption

lemma failure_none_iff (o : Outcome) : Run.failure? o = none ↔ o.passed = true := by
  simp [Run.failure?, Outcome.passed]

lemma path_of_failure {o : Outcome} {f : Failure} (h : Run.failure? o = some f) :
    f.path = o.path := by
  obtain ⟨message, _, rfl⟩ := Option.map_eq_some_iff.mp h
  rfl

lemma passed_iff_failures_nil (r : Run) : r.report.passed = true ↔ r.report.failures = [] :=
  List.isEmpty_iff

lemma exitCode_eq_zero_iff (r : Report) : r.exitCode = 0 ↔ r.passed = true := by
  simp [Report.exitCode]

lemma countP_checked (outcomes : List Outcome) :
    (outcomes.map Event.checked).countP isCheckedEvent = outcomes.length := by
  induction outcomes with
  | nil => rfl
  | cons o outcomes ih => rw [List.map_cons, List.countP_cons_of_pos rfl, ih, List.length_cons]

section

variable [CharacterNames]

/-- The outcome says of a candidate what its check says. -/
structure TellsOf (fs : FileSystem) (c : Candidate) (o : Outcome) : Prop where
  path_eq : o.path = c.path.text
  error_none_iff : o.error = none ↔ checkFile fs c.absolute.absoluteText = .ok ()
  error_some : ∀ message, o.error = some message → message ≠ "" ∧
    ∃ fault, checkFile fs c.absolute.absoluteText = .error fault ∧ message = fault.reported

/-- The events and the report of a run over the files that discovery turned up. -/
structure RunProtocol (fs : FileSystem) (found : Discovered) (r : Run) : Prop where
  events_eq : ∃ outcomes, List.Forall₂ (TellsOf fs) found.candidates outcomes ∧
    r.events = .discovered found.candidates.length found.ignored.length :: outcomes.map .checked
  failures_eq : r.report.failures = r.events.filterMap eventFailure?
  filesChecked_eq : r.report.filesChecked = r.events.countP isCheckedEvent
  filesIgnored_eq : r.report.filesIgnored = found.ignored.length
  filesFound_eq : r.report.filesFound = r.report.filesChecked + r.report.filesIgnored
  passed_iff_no_failure : r.report.passed = true ↔ r.report.failures = []
  no_failure_iff_exitCode : r.report.failures = [] ↔ r.report.exitCode = 0
  exitCode_iff_all_passed : r.report.exitCode = 0 ↔
    ∀ o, Event.checked o ∈ r.events → o.passed = true

/-! ### One file -/

lemma tellsOf_outcome (fs : FileSystem) (c : Candidate) :
    TellsOf fs c (CheckedFile.ofCandidate fs c).outcome := by
  unfold CheckedFile.outcome CheckedFile.ofCandidate
  cases hcheck : checkFile fs c.absolute.absoluteText with
  | ok u =>
    exact ⟨rfl, by simp [hcheck], by simp⟩
  | error fault =>
    refine ⟨rfl, by simp [hcheck], ?_⟩
    intro message hmessage
    obtain rfl : fault.reported = message := by simpa using hmessage
    exact ⟨reported_ne_empty fault, fault, hcheck, rfl⟩

/-! ### The loop -/

/-- What has been told and what has been kept when some of the candidates have been checked. -/
structure Progress where
  events : List Event
  failures : List Failure

/-- Check one more candidate. -/
def Progress.check (fs : FileSystem) (p : Progress) (c : Candidate) : Progress :=
  let o := (CheckedFile.ofCandidate fs c).outcome
  ⟨p.events ++ [.checked o], p.failures ++ (Run.failure? o).toList⟩

/-- The failures kept are the failures told. -/
def Progress.Agrees (p : Progress) : Prop :=
  p.failures = p.events.filterMap eventFailure?

lemma agrees_check (fs : FileSystem) {p : Progress} (h : p.Agrees) (c : Candidate) :
    (p.check fs c).Agrees := by
  unfold Progress.Agrees Progress.check at *
  rw [List.filterMap_append, ← h]
  cases herror : Run.failure? (CheckedFile.ofCandidate fs c).outcome <;>
    simp [eventFailure?, herror]

lemma agrees_foldl (fs : FileSystem) (cs : List Candidate) {p : Progress} (h : p.Agrees) :
    (cs.foldl (Progress.check fs) p).Agrees := by
  induction cs generalizing p with
  | nil => exact h
  | cons c cs ih => exact ih (agrees_check fs h c)

lemma foldl_check_eq (fs : FileSystem) (cs : List Candidate) (p : Progress) :
    cs.foldl (Progress.check fs) p =
      ⟨p.events ++ (cs.map fun c => .checked (CheckedFile.ofCandidate fs c).outcome),
        p.failures ++
          cs.filterMap fun c => Run.failure? (CheckedFile.ofCandidate fs c).outcome⟩ := by
  induction cs generalizing p with
  | nil => simp
  | cons c cs ih =>
    rw [List.foldl_cons, ih]
    cases herror : Run.failure? (CheckedFile.ofCandidate fs c).outcome <;>
      simp [Progress.check, herror]

/-- The events of a run and the failures of its report are what the loop leaves behind. -/
theorem run_eq_loop (fs : FileSystem) (place : Path) (settings : Settings) :
    let r := Run.ofRoot fs place settings
    (⟨r.events, r.report.failures⟩ : Progress) =
      r.discovered.candidates.foldl (Progress.check fs)
        ⟨[.discovered r.discovered.candidates.length r.discovered.ignored.length], []⟩ := by
  intro r
  rw [foldl_check_eq]
  simp [r, Run.events, Run.report, Run.outcomes, Run.ofRoot, Run.discovered, Function.comp_def,
    List.filterMap_map]

/-! ### The whole run -/

lemma run_of_resolveRoot {fs : FileSystem} {text : String} {place : Path}
    (h : resolveRoot fs text = .ok place) (settings : Settings) :
    run fs text settings = .ok (Run.ofRoot fs place settings) := by
  rw [run, h]
  rfl

lemma eq_ofRoot_of_run {fs : FileSystem} {text : String} {settings : Settings} {r : Run}
    (h : run fs text settings = .ok r) : ∃ place, r = Run.ofRoot fs place settings := by
  unfold run at h
  cases hroot : resolveRoot fs text with
  | error e => simp [hroot, Except.map] at h
  | ok place =>
    rw [hroot] at h
    exact ⟨place, (Except.ok.inj h).symm⟩

lemma outcomes_eq_map (fs : FileSystem) (root : Path) (settings : Settings) :
    (Run.ofRoot fs root settings).outcomes =
      (Run.ofRoot fs root settings).discovered.candidates.map
        fun c => (CheckedFile.ofCandidate fs c).outcome :=
  List.map_map

lemma failures_eq_filterMap (fs : FileSystem) (root : Path) (settings : Settings) :
    (Run.ofRoot fs root settings).report.failures =
      (Run.ofRoot fs root settings).discovered.candidates.filterMap
        fun c => Run.failure? (CheckedFile.ofCandidate fs c).outcome := by
  rw [Run.report, outcomes_eq_map, List.filterMap_map]
  rfl

lemma failures_eq_events (fs : FileSystem) (place : Path) (settings : Settings) :
    (Run.ofRoot fs place settings).report.failures =
      (Run.ofRoot fs place settings).events.filterMap eventFailure? := by
  let r := Run.ofRoot fs place settings
  have hagrees : (⟨r.events, r.report.failures⟩ : Progress).Agrees := by
    rw [run_eq_loop]
    exact agrees_foldl fs _ rfl
  exact hagrees

lemma failures_eq_nil_iff (fs : FileSystem) (place : Path) (settings : Settings) :
    (Run.ofRoot fs place settings).report.failures = [] ↔
      ∀ o, Event.checked o ∈ (Run.ofRoot fs place settings).events → o.passed = true := by
  rw [failures_eq_events, List.filterMap_eq_nil_iff]
  constructor
  · intro h o ho
    exact (failure_none_iff o).mp (h _ ho)
  · intro h e he
    cases e with
    | discovered toCheck ignored => rfl
    | checked o => exact (failure_none_iff o).mpr (h o he)

lemma runProtocol_ofRoot (fs : FileSystem) (place : Path) (settings : Settings) :
    RunProtocol fs (.ofFindings (discover fs place ⟨settings.extension, ⟨settings.ignore⟩⟩))
      (Run.ofRoot fs place settings) := by
  let r := Run.ofRoot fs place settings
  have hpassed := passed_iff_failures_nil r
  have hlength : r.outcomes.length = r.report.filesChecked := by
    simp [r, Run.outcomes, Run.ofRoot, Run.report, Run.discovered]
  refine ⟨⟨r.outcomes, ?_, rfl⟩, failures_eq_events fs place settings, ?_, rfl, rfl, hpassed,
    ?_, ?_⟩
  · rw [show r.outcomes = _ from List.map_map, List.forall₂_map_right_iff, List.forall₂_same]
    intro c _
    exact tellsOf_outcome fs c
  · change r.report.filesChecked = r.events.countP isCheckedEvent
    rw [Run.events, List.countP_cons_of_neg (by simp [isCheckedEvent]), countP_checked, hlength]
  · rw [exitCode_eq_zero_iff, hpassed]
  · rw [exitCode_eq_zero_iff, hpassed, failures_eq_nil_iff]

/-- Wherever a root can be resolved the run goes to its end, and its events and its report say the
same of the files that were found. -/
theorem run_keeps_protocol (fs : FileSystem) (root : String) (settings : Settings) (place : Path)
    (hroot : resolveRoot fs root = .ok place) :
    ∃ r, run fs root settings = .ok r ∧ r.report.root = place.absoluteText ∧
      RunProtocol fs (.ofFindings (discover fs place ⟨settings.extension, ⟨settings.ignore⟩⟩))
        r := by
  refine ⟨Run.ofRoot fs place settings, ?_, rfl, runProtocol_ofRoot fs place settings⟩
  rw [run, hroot]
  rfl

end

/-- One file that passes, one that does not, one that is no text and one that is ignored. -/
def mixedFiles : FileSystem where
  root := .directory [("p", .directory [("a.py", .file [0x78, 0x0A]), ("b.py", .file [0x29]),
    ("c.py", .file [0xFF]), ("venv.py", .file [])])]
  current := ["p"]

theorem run_keeps_protocol_mixedFiles :
    resolveRoot mixedFiles "." = .ok ["p"] ∧
    ∃ r, run mixedFiles "." Settings.default = .ok r ∧ r.report.root = "/p" ∧
      RunProtocol mixedFiles
        (.ofFindings (discover mixedFiles ["p"] ⟨Settings.default.extension,
          ⟨Settings.default.ignore⟩⟩)) r :=
  have hroot : resolveRoot mixedFiles "." = .ok ["p"] := by rfl
  ⟨hroot, run_keeps_protocol mixedFiles "." Settings.default ["p"] hroot⟩

end SyntaxCheck.Proofs
