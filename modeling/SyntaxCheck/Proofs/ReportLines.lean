import Mathlib.Tactic
import SyntaxCheck.CommandLine.Program
import SyntaxCheck.Proofs.QuotedText
import SyntaxCheck.Proofs.RunProtocol

/-!
# The lines of a report

What a person reads on standard output has a line for every file that is checked and, at the end, a
line for every failure. Each line is printed with a line end after it, so a reader who splits the
output at line ends finds these lines and no others exactly if none of them has a line end in it.
Nothing keeps one out: paths are printed as they are, and messages quote the source as it is.
-/

namespace SyntaxCheck.Proofs

/-! ### Splitting at line ends -/

lemma length_splitOn (c : Char) (text : List Char) :
    (text.splitOn c).length = text.count c + 1 := by
  induction text with
  | nil => simp
  | cons d rest ih =>
    rw [List.splitOn_cons_eq_if_modifyHead]
    by_cases hd : d = c
    · subst hd
      rw [if_pos (beq_self_eq_true d), List.length_cons, ih, List.count_cons_self]
    · rw [if_neg (by simpa using hd), List.length_modifyHead, ih, List.count_cons_of_ne hd]

lemma toList_unlines (lines : List String) :
    (unlines lines).toList = lines.flatMap fun line => line.toList ++ ['\n'] := by
  induction lines with
  | nil => rfl
  | cons line rest ih =>
    rw [unlines, List.foldr_cons, List.flatMap_cons, ← ih, String.toList_append,
      String.toList_append]
    rfl

lemma splitOn_unlines (lines : List String) :
    (unlines lines).toList.splitOn '\n' =
      lines.flatMap (fun line => line.toList.splitOn '\n') ++ [[]] := by
  rw [toList_unlines]
  induction lines with
  | nil => simp
  | cons line rest ih =>
    rw [List.flatMap_cons, List.flatMap_cons, List.append_assoc, List.singleton_append,
      List.splitOn_append_cons_self, ih, List.append_assoc]

lemma length_le_pieces (lines : List String) :
    lines.length ≤ (lines.flatMap fun line => line.toList.splitOn '\n').length := by
  induction lines with
  | nil => exact le_rfl
  | cons line rest ih =>
    rw [List.flatMap_cons, List.length_append, length_splitOn, List.length_cons]
    omega

/-- As many pieces as lines are found only if no line is broken. -/
lemma not_breaks_of_length_eq {lines : List String}
    (h : (lines.flatMap fun line => line.toList.splitOn '\n').length = lines.length) :
    ∀ line ∈ lines, ¬ Breaks line := by
  induction lines with
  | nil => simp
  | cons line rest ih =>
    rw [List.flatMap_cons, List.length_append, length_splitOn, List.length_cons] at h
    -- Every line gives at least one piece, so no line can make up for a line that gives two.
    have hrest := length_le_pieces rest
    have hcount : line.toList.count '\n' = 0 := by omega
    intro other hother
    rcases List.mem_cons.mp hother with rfl | hother
    · exact List.count_eq_zero.mp hcount
    · exact ih (by omega) other hother

lemma pieces_eq_of_not_breaks {lines : List String} (h : ∀ line ∈ lines, ¬ Breaks line) :
    lines.flatMap (fun line => line.toList.splitOn '\n') = lines.map String.toList := by
  induction lines with
  | nil => rfl
  | cons line rest ih =>
    rw [List.forall_mem_cons] at h
    rw [List.flatMap_cons, List.splitOn_eq_singleton h.1, ih h.2, List.map_cons,
      List.singleton_append]

/-! ### The lines that are promised -/

/-- The lines of a report that differ from run to run. -/
structure ReportLines where
  skipping : List String
  found : String
  progress : List String
  summary : String
  failing : List String

namespace ReportLines

/-- The line between progress and summary. -/
def rule : String :=
  String.ofList (List.replicate 60 '=')

def all (l : ReportLines) : List String :=
  l.skipping ++ ([l.found, ""] ++ (l.progress ++ (["", rule, l.summary] ++ l.failing)))

end ReportLines

/-- The line begins with the text. -/
def Begins (text line : String) : Prop :=
  text.toList <+: line.toList

section

variable [CharacterNames]

/-- The word at the head of the line about a candidate. -/
def verdict (fs : FileSystem) (c : Candidate) : String :=
  match checkFile fs c.absolute.absoluteText with
  | .ok () => "PASS "
  | .error _ => "FAIL "

/-- The lines tell what the run found out. -/
structure ReportLines.Tell (fs : FileSystem) (r : Run) (l : ReportLines) : Prop where
  skipping_length : l.skipping.length = if 0 < r.discovered.ignored.length then 1 else 0
  skipping_begin : ∀ line ∈ l.skipping, Begins "Skipping " line
  found_begins : Begins "Found " l.found
  progress_begin : List.Forall₂ (fun c line => Begins (verdict fs c ++ c.path.text) line)
    r.discovered.candidates l.progress
  summary_begins : Begins (if r.report.passed then "SUCCESS:" else "FAILED:") l.summary
  failing_length : l.failing.length = r.report.failures.length
  failing_begin : ∀ line ∈ l.failing, Begins "  - " line

/-- The text, split at line ends, is the lines of a report that tell what the run found out, and
nothing after the last of them. -/
def LineStructured (fs : FileSystem) (r : Run) (text : String) : Prop :=
  ∃ l : ReportLines, l.Tell fs r ∧
    text.toList.splitOn '\n' = (l.all ++ [""]).map String.toList

lemma length_all {fs : FileSystem} {r : Run} {l : ReportLines} (h : l.Tell fs r) :
    l.all.length = (if 0 < r.discovered.ignored.length then 1 else 0) +
      r.discovered.candidates.length + r.report.failures.length + 5 := by
  simp only [ReportLines.all, List.length_append, List.length_cons, List.length_nil]
  rw [h.skipping_length, ← h.progress_begin.length_eq, h.failing_length]
  omega

/-- Lines are found again in the text printed from them exactly if none is broken. -/
lemma lineStructured_unlines_iff {fs : FileSystem} {r : Run} {l : ReportLines}
    (h : l.Tell fs r) :
    LineStructured fs r (unlines l.all) ↔ ∀ line ∈ l.all, ¬ Breaks line := by
  rw [LineStructured, splitOn_unlines]
  constructor
  · rintro ⟨other, hother, heq⟩
    have hlength := congrArg List.length heq
    rw [List.length_append, List.length_map, List.length_append, length_all hother,
      ← length_all h] at hlength
    exact not_breaks_of_length_eq (by simpa using hlength)
  · intro hunbroken
    refine ⟨l, h, ?_⟩
    rw [pieces_eq_of_not_breaks hunbroken, List.map_append]
    rfl

end

/-! ### The lines that are printed -/

/-- The lines that a run prints if there is something to check. -/
def printedLines (r : Run) (kind : String) : ReportLines where
  skipping :=
    if 0 < r.discovered.ignored.length then
      ["Skipping " ++ toString r.discovered.ignored.length ++ " ignored file(s)."]
    else []
  found :=
    "Found " ++ toString r.discovered.candidates.length ++ " " ++ kind ++ " file(s) to check..."
  progress := r.outcomes.map (outcomeLine false)
  summary :=
    if r.report.failures.isEmpty then
      "SUCCESS:" ++ " All " ++ toString r.report.filesChecked ++ " " ++ kind ++
        " file(s) passed syntax check!"
    else "FAILED:" ++ " " ++ toString r.report.failures.length ++ " file(s) have syntax errors:"
  failing := r.report.failures.map fun f => "  - " ++ f.path ++ ": " ++ f.message

lemma unlines_append (a b : List String) : unlines (a ++ b) = unlines a ++ unlines b := by
  apply String.toList_injective
  rw [String.toList_append, toList_unlines, toList_unlines, toList_unlines, List.flatMap_append]

/-- A line that ends in a line end of its own is printed as two lines. -/
lemma unlines_end (line : String) : unlines [line ++ "\n"] = unlines [line, ""] := by
  simp [unlines, String.append_assoc]

lemma unlines_start (line : String) : unlines ["\n" ++ line] = unlines ["", line] := by
  simp [unlines, String.append_assoc]

lemma foldl_event_json {p : Reporter} (h : p.mode = .json) (events : List Event) :
    events.foldl Reporter.event p = p := by
  induction events with
  | nil => rfl
  | cons e events ih => rw [List.foldl_cons, Reporter.event, if_pos h, ih]

lemma foldl_event_human (styled : Bool) (kind : String) (events : List Event) (flag : Bool)
    (printed : List String) :
    events.foldl Reporter.event ⟨.human, styled, kind, flag, printed⟩ =
      ⟨.human, styled, kind, events.foldl Reporter.flagAfter flag,
        printed ++ events.flatMap (eventLines styled kind)⟩ := by
  induction events generalizing flag printed with
  | nil => simp
  | cons e events ih =>
    have hstep : Reporter.event ⟨.human, styled, kind, flag, printed⟩ e =
        ⟨.human, styled, kind, Reporter.flagAfter flag e, printed ++ eventLines styled kind e⟩ :=
      rfl
    rw [List.foldl_cons, hstep, ih, List.foldl_cons, List.flatMap_cons, List.append_assoc]

/-- Only the first event of a run says whether there is something to check. -/
lemma flagAfter_checked (flag : Bool) (outcomes : List Outcome) :
    (outcomes.map Event.checked).foldl Reporter.flagAfter flag = flag := by
  induction outcomes with
  | nil => rfl
  | cons o outcomes ih => exact ih

lemma flagAfter_events (r : Run) :
    r.events.foldl Reporter.flagAfter false = decide (r.discovered.candidates.length = 0) := by
  rw [Run.events, List.foldl_cons, flagAfter_checked]
  rfl

lemma told_json (styled : Bool) (extension : String) (r : Run) :
    told .json styled extension r = [r.report.json] := by
  rw [told, foldl_event_json rfl]
  rfl

lemma told_human (styled : Bool) (extension : String) (r : Run) :
    told .human styled extension r = r.events.flatMap (eventLines styled (fileKind extension)) ++
      if r.discovered.candidates.length = 0 then []
      else summaryLines styled (fileKind extension) r.report := by
  rw [told, Reporter.ofExtension, foldl_event_human, flagAfter_events, List.nil_append]
  by_cases h : r.discovered.candidates.length = 0
  · rw [decide_eq_true h, if_pos h, List.append_nil]
    rfl
  · rw [decide_eq_false h, if_neg h]
    rfl

lemma flatMap_checked (styled : Bool) (kind : String) (outcomes : List Outcome) :
    (outcomes.map Event.checked).flatMap (eventLines styled kind) =
      outcomes.map (outcomeLine styled) := by
  rw [List.flatMap_map, List.map_eq_flatMap]
  rfl

lemma discoveredLines_eq (r : Run) (kind : String) (h : r.discovered.candidates ≠ []) :
    discoveredLines kind r.discovered.candidates.length r.discovered.ignored.length =
      (printedLines r kind).skipping ++ [(printedLines r kind).found ++ "\n"] := by
  have hlength : r.discovered.candidates.length ≠ 0 := by simpa using h
  have hend : " file(s) to check...\n" = " file(s) to check..." ++ "\n" := by simp
  unfold discoveredLines printedLines
  rw [if_neg hlength, hend, ← String.append_assoc]
  by_cases hignored : 0 < r.discovered.ignored.length
  · rw [if_pos hignored, if_pos hignored]
    rfl
  · rw [if_neg hignored, if_neg hignored]
    rfl

lemma separator_eq : separator = "\n" ++ ReportLines.rule := by
  change String.ofList (['\n'] ++ List.replicate 60 '=') =
    String.ofList ['\n'] ++ String.ofList (List.replicate 60 '=')
  exact String.ofList_append

lemma summaryLines_eq (r : Run) (kind : String) :
    summaryLines false kind r.report =
      ["\n" ++ ReportLines.rule] ++ ((printedLines r kind).summary :: (printedLines r kind).failing)
      := by
  unfold summaryLines printedLines
  rw [separator_eq]
  cases hfailures : r.report.failures with
  | nil => rfl
  | cons f rest => rfl

lemma unlines_told (r : Run) (extension : String) (h : r.discovered.candidates ≠ []) :
    unlines (told .human false extension r) =
      unlines (printedLines r (fileKind extension)).all := by
  have hlength : r.discovered.candidates.length ≠ 0 := by simpa using h
  rw [told_human, if_neg hlength, summaryLines_eq]
  generalize fileKind extension = kind
  have hevents : r.events.flatMap (eventLines false kind) =
      (printedLines r kind).skipping ++ [(printedLines r kind).found ++ "\n"] ++
        (printedLines r kind).progress := by
    rw [Run.events, List.flatMap_cons, flatMap_checked, ← discoveredLines_eq r kind h]
    rfl
  rw [hevents]
  simp only [unlines_append, unlines_end, unlines_start]
  simp only [← unlines_append]
  simp [ReportLines.all]

lemma begins_append (a b : String) : Begins a (a ++ b) := by
  rw [Begins, String.toList_append]
  exact List.prefix_append _ _

/-! ### What breaks a line -/

lemma breaks_found_iff (r : Run) (kind : String) :
    Breaks (printedLines r kind).found ↔ Breaks kind := by
  unfold printedLines
  rw [breaks_before, breaks_after]
  · rw [breaks_before, breaks_before _ (not_breaks_number _)]
    all_goals exact not_breaks_literal rfl
  · exact not_breaks_literal rfl

lemma not_breaks_skipping (r : Run) (kind : String) :
    ∀ line ∈ (printedLines r kind).skipping, ¬ Breaks line := by
  intro line hline
  unfold printedLines at hline
  by_cases hignored : 0 < r.discovered.ignored.length
  · rw [if_pos hignored, List.mem_singleton] at hline
    rw [hline, breaks_before, breaks_before _ (not_breaks_number _)]
    all_goals exact not_breaks_literal rfl
  · rw [if_neg hignored] at hline
    cases hline

lemma not_breaks_summary (r : Run) {kind : String} (hkind : ¬ Breaks kind) :
    ¬ Breaks (printedLines r kind).summary := by
  unfold printedLines
  by_cases hfailures : r.report.failures.isEmpty
  · rw [if_pos hfailures, breaks_before, breaks_before _ hkind, breaks_before,
      breaks_before _ (not_breaks_number _), breaks_before]
    all_goals exact not_breaks_literal rfl
  · rw [if_neg hfailures, breaks_before, breaks_before _ (not_breaks_number _), breaks_before]
    all_goals exact not_breaks_literal rfl

/-- The path and the message of the outcome have no line end in them. -/
def Unbroken (o : Outcome) : Prop :=
  ¬ Breaks o.path ∧ ∀ message, o.error = some message → ¬ Breaks message

lemma breaks_labelled (label path message : String) (hlabel : ¬ Breaks label) :
    Breaks (label ++ path ++ ": " ++ message) ↔ Breaks path ∨ Breaks message := by
  rw [breaks_append, breaks_before, breaks_after hlabel]
  exact not_breaks_literal rfl

lemma not_breaks_outcomeLine_iff (o : Outcome) : ¬ Breaks (outcomeLine false o) ↔ Unbroken o := by
  obtain ⟨path, error⟩ := o
  unfold Unbroken
  cases error with
  | none =>
    change ¬ Breaks ("PASS" ++ " " ++ path) ↔ _
    rw [breaks_after]
    · simp
    · rw [breaks_after]
      all_goals exact not_breaks_literal rfl
  | some message =>
    change ¬ Breaks ("FAIL" ++ " " ++ path ++ ": " ++ message) ↔ _
    rw [breaks_labelled, not_or]
    · simp
    · rw [breaks_after]
      all_goals exact not_breaks_literal rfl

lemma not_breaks_failing (r : Run) (kind : String) (h : ∀ o ∈ r.outcomes, Unbroken o) :
    ∀ line ∈ (printedLines r kind).failing, ¬ Breaks line := by
  intro line hline
  obtain ⟨f, hf, rfl⟩ := List.mem_map.mp hline
  obtain ⟨o, ho, hfailure⟩ := List.mem_filterMap.mp hf
  obtain ⟨message, hmessage, rfl⟩ := Option.map_eq_some_iff.mp hfailure
  have hunbroken := h o ho
  rw [breaks_labelled _ _ _ (not_breaks_literal rfl), not_or]
  exact ⟨hunbroken.1, hunbroken.2 message hmessage⟩

lemma unbroken_lines_iff (r : Run) (kind : String) :
    (∀ line ∈ (printedLines r kind).all, ¬ Breaks line) ↔
      ¬ Breaks kind ∧ ∀ o ∈ r.outcomes, Unbroken o := by
  unfold ReportLines.all
  constructor
  · intro h
    constructor
    · rw [← breaks_found_iff r kind]
      exact h _ (by simp)
    · intro o ho
      have hmem : outcomeLine false o ∈ (printedLines r kind).progress := List.mem_map_of_mem ho
      exact (not_breaks_outcomeLine_iff o).mp (h _ (by simp [hmem]))
  · rintro ⟨hkind, houtcomes⟩ line hline
    simp only [List.mem_append, List.mem_cons, List.not_mem_nil, or_false] at hline
    rcases hline with hline | (rfl | rfl) | hline | (rfl | rfl | rfl) | hline
    · exact not_breaks_skipping r kind line hline
    · exact (breaks_found_iff r kind).not.mpr hkind
    · exact not_breaks_literal rfl
    · obtain ⟨o, ho, rfl⟩ := List.mem_map.mp hline
      exact (not_breaks_outcomeLine_iff o).mpr (houtcomes o ho)
    · exact not_breaks_literal rfl
    · exact not_breaks_literal rfl
    · exact not_breaks_summary r hkind
    · exact not_breaks_failing r kind houtcomes line hline

lemma breaks_fileKind_iff (extension : String) :
    Breaks (fileKind extension) ↔ Breaks extension := by
  unfold fileKind
  by_cases hpython : extension = "py"
  · rw [if_pos hpython, hpython]
    exact iff_of_false (not_breaks_literal rfl)
      (not_breaks_literal rfl)
  · rw [if_neg hpython, breaks_after]
    exact not_breaks_literal rfl

/-! ### The output of a run -/

section

variable [CharacterNames]

/-- Neither the extension nor a path nor what a message quotes has a line end in it. -/
def KeepsLines (fs : FileSystem) (settings : Settings) (candidates : List Candidate) : Prop :=
  ¬ Breaks settings.extension ∧ ∀ c ∈ candidates, ¬ Breaks c.path.text ∧
    ∀ fault, checkFile fs c.absolute.absoluteText = .error fault → '\n' ∉ quotedByFile fault

lemma begins_outcomeLine (fs : FileSystem) (c : Candidate) :
    Begins (verdict fs c ++ c.path.text)
      (outcomeLine false (CheckedFile.ofCandidate fs c).outcome) := by
  have hpass : "PASS" ++ " " = "PASS " := by simp
  have hfail : "FAIL" ++ " " = "FAIL " := by simp
  unfold verdict CheckedFile.ofCandidate CheckedFile.outcome outcomeLine Tone.paint
  cases hcheck : checkFile fs c.absolute.absoluteText with
  | ok u =>
    change Begins ("PASS " ++ c.path.text) ("PASS" ++ " " ++ c.path.text)
    rw [hpass]
    exact List.prefix_rfl
  | error fault =>
    change Begins ("FAIL " ++ c.path.text)
      ("FAIL" ++ " " ++ c.path.text ++ ": " ++ fault.reported)
    rw [hfail, String.append_assoc]
    exact begins_append _ _

lemma tell_printedLines (fs : FileSystem) (place : Path) (settings : Settings)
    (kind : String) :
    (printedLines (Run.ofRoot fs place settings) kind).Tell fs (Run.ofRoot fs place settings) := by
  generalize hr : Run.ofRoot fs place settings = r
  refine ⟨?_, ?_, ?_, ?_, ?_, ?_, ?_⟩
  · unfold printedLines
    by_cases hignored : 0 < r.discovered.ignored.length
    · rw [if_pos hignored, if_pos hignored]
      rfl
    · rw [if_neg hignored, if_neg hignored]
      rfl
  · intro line hline
    unfold printedLines at hline
    by_cases hignored : 0 < r.discovered.ignored.length
    · rw [if_pos hignored, List.mem_singleton] at hline
      rw [hline, String.append_assoc]
      exact begins_append _ _
    · rw [if_neg hignored] at hline
      cases hline
  · unfold printedLines
    simp only [String.append_assoc]
    exact begins_append _ _
  · have houtcomes : r.outcomes =
        r.discovered.candidates.map fun c => (CheckedFile.ofCandidate fs c).outcome := by
      rw [← hr]
      exact List.map_map
    rw [printedLines, houtcomes, List.map_map, List.forall₂_map_right_iff, List.forall₂_same]
    intro c _
    exact begins_outcomeLine fs c
  · unfold printedLines
    rw [show r.report.passed = r.report.failures.isEmpty from rfl]
    by_cases hfailures : r.report.failures.isEmpty
    · rw [if_pos hfailures, if_pos hfailures]
      simp only [String.append_assoc]
      exact begins_append _ _
    · rw [if_neg hfailures, if_neg hfailures]
      simp only [String.append_assoc]
      exact begins_append _ _
  · exact List.length_map _
  · intro line hline
    obtain ⟨f, _, rfl⟩ := List.mem_map.mp hline
    rw [String.append_assoc, String.append_assoc]
    exact begins_append _ _

lemma unbroken_outcome_iff (fs : FileSystem) (c : Candidate) :
    Unbroken (CheckedFile.ofCandidate fs c).outcome ↔ ¬ Breaks c.path.text ∧
      ∀ fault, checkFile fs c.absolute.absoluteText = .error fault →
        '\n' ∉ quotedByFile fault := by
  unfold Unbroken CheckedFile.ofCandidate CheckedFile.outcome
  refine and_congr_right fun _ => ?_
  cases hcheck : checkFile fs c.absolute.absoluteText with
  | ok u => simp
  | error fault => simp [breaks_reported_iff hcheck]

lemma eq_ofRoot_of_start {fs : FileSystem} {o : CommandLine.Options} {settings : Settings} {r : Run}
    (h : o.start fs = .ok (settings, r)) : ∃ place, r = Run.ofRoot fs place settings := by
  unfold CommandLine.Options.start at h
  cases hsettings : o.settings fs with
  | error e => simp [hsettings] at h
  | ok merged =>
    rw [hsettings] at h
    dsimp only at h
    cases hrun : run fs o.root merged with
    | error e => simp [hrun] at h
    | ok turned =>
      rw [hrun] at h
      obtain ⟨rfl, rfl⟩ := Prod.mk.inj (Except.ok.inj h)
      exact eq_ofRoot_of_run hrun

lemma stdout_eq {fs : FileSystem} {env : CommandLine.Environment} {o : CommandLine.Options}
    {settings : Settings} {r : Run} (hstart : o.start fs = .ok (settings, r))
    (hjson : o.json = false) (hstyled : o.styled env = false)
    (hsome : r.discovered.candidates ≠ []) :
    (o.execute fs env).stdout = unlines (printedLines r (fileKind settings.extension)).all := by
  rw [← unlines_told r _ hsome, CommandLine.Options.execute, hstart]
  simp only [hjson, hstyled, Bool.false_eq_true, if_false]

lemma lineStructured_iff {fs : FileSystem} {env : CommandLine.Environment}
    {o : CommandLine.Options} {settings : Settings} {r : Run}
    (hstart : o.start fs = .ok (settings, r)) (hjson : o.json = false)
    (hstyled : o.styled env = false) (hsome : r.discovered.candidates ≠ []) :
    LineStructured fs r (o.execute fs env).stdout ↔
      KeepsLines fs settings r.discovered.candidates := by
  rw [stdout_eq hstart hjson hstyled hsome]
  obtain ⟨place, rfl⟩ := eq_ofRoot_of_start hstart
  rw [lineStructured_unlines_iff (tell_printedLines fs place settings _), unbroken_lines_iff,
    breaks_fileKind_iff, KeepsLines]
  refine and_congr_right fun _ => ?_
  change (∀ o ∈ ((Run.ofRoot fs place settings).discovered.candidates.map
    (CheckedFile.ofCandidate fs)).map CheckedFile.outcome, Unbroken o) ↔ _
  rw [List.map_map, List.forall_mem_map]
  exact forall₂_congr fun c _ => unbroken_outcome_iff fs c

/-- What a person reads is the lines of a report, one for each file and one for each failure,
exactly if neither a path nor what a message quotes has a line end in it. -/
theorem output_lineStructured_iff (fs : FileSystem) (env : CommandLine.Environment)
    (words : List String) (o : CommandLine.Options) (settings : Settings) (r : Run)
    (hwords : CommandLine.parseArguments words = .ok (.run o))
    (hstart : o.start fs = .ok (settings, r)) (hjson : o.json = false)
    (hstyled : o.styled env = false) (hsome : r.discovered.candidates ≠ []) :
    LineStructured fs r (CommandLine.execute fs env words).stdout ↔
      KeepsLines fs settings r.discovered.candidates := by
  rw [CommandLine.execute, hwords]
  exact lineStructured_iff hstart hjson hstyled hsome

end

/-- A directory with a single file in it. -/
def singleFile (content : List UInt8) : FileSystem where
  root := .directory [("p", .directory [("a.py", .file content)])]
  current := ["p"]

def singleRun (content : List UInt8) : Run :=
  .ofRoot (singleFile content) ["p"] .default

lemma start_singleFile (content : List UInt8) :
    CommandLine.Options.start (singleFile content) {} = .ok (.default, singleRun content) := by
  rfl

lemma candidates_singleRun (content : List UInt8) :
    (singleRun content).discovered.candidates = [⟨["a.py"], ["p", "a.py"]⟩] := by
  rfl

theorem output_lineStructured_name :
    CommandLine.parseArguments [] = .ok (.run {}) ∧
    CommandLine.Options.start (singleFile [0x78, 0x0A]) {} =
      .ok (.default, singleRun [0x78, 0x0A]) ∧
    LineStructured (singleFile [0x78, 0x0A]) (singleRun [0x78, 0x0A])
      (CommandLine.execute (singleFile [0x78, 0x0A]) [] []).stdout := by
  have hstart := start_singleFile [0x78, 0x0A]
  have hcandidates := candidates_singleRun [0x78, 0x0A]
  have hpasses : (checkFile (singleFile [0x78, 0x0A])
      (Path.absoluteText ["p", "a.py"])).toBool = true := by
    decide +kernel
  have hkeeps : KeepsLines (singleFile [0x78, 0x0A]) .default
      (singleRun [0x78, 0x0A]).discovered.candidates := by
    rw [hcandidates, KeepsLines, List.forall_mem_singleton]
    refine ⟨not_breaks_literal rfl, not_breaks_literal rfl, ?_⟩
    intro fault hfault
    rw [hfault] at hpasses
    cases hpasses
  refine ⟨rfl, hstart, ?_⟩
  exact (output_lineStructured_iff _ [] [] {} _ _ rfl hstart rfl rfl (by simp [hcandidates])).mpr
    hkeeps

/-- A string with a line end in it, after a name. -/
def misplacedString : List UInt8 :=
  [0x78, 0x20, 0x22, 0x22, 0x22, 0x0A, 0x22, 0x22, 0x22, 0x0A]

/-- The message quotes the string with its line end, and the lines of the report are broken. -/
theorem misplaced_string_breaks_output :
    CommandLine.parseArguments [] = .ok (.run {}) ∧
    CommandLine.Options.start (singleFile misplacedString) {} =
      .ok (.default, singleRun misplacedString) ∧
    (singleRun misplacedString).discovered.candidates ≠ [] ∧
    ¬ LineStructured (singleFile misplacedString) (singleRun misplacedString)
      (CommandLine.execute (singleFile misplacedString) [] []).stdout := by
  have hstart := start_singleFile misplacedString
  have hcandidates := candidates_singleRun misplacedString
  have hquotes : (match checkFile (singleFile misplacedString)
      (Path.absoluteText ["p", "a.py"]) with
      | .ok () => false
      | .error fault => decide ('\n' ∈ quotedByFile fault)) = true := by
    decide +kernel
  refine ⟨rfl, hstart, by simp [hcandidates], ?_⟩
  change ¬ LineStructured _ _ (CommandLine.Options.execute _ [] {}).stdout
  rw [lineStructured_iff hstart rfl rfl (by simp [hcandidates]), hcandidates, KeepsLines,
    List.forall_mem_singleton]
  rintro ⟨_, _, hclean⟩
  cases hcheck : checkFile (singleFile misplacedString) (Path.absoluteText ["p", "a.py"]) with
  | ok u => simp [hcheck] at hquotes
  | error fault =>
    rw [hcheck] at hquotes
    exact hclean fault hcheck (of_decide_eq_true hquotes)

end SyntaxCheck.Proofs
