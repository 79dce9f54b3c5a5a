import Mathlib.Tactic
import SyntaxCheck.Proofs.DiscoveredFiles
import SyntaxCheck.Proofs.OutputFlags
import SyntaxCheck.Proofs.RunProtocol

/-!
# How a run ends

A run that cannot start ends with two and prints nothing but an error; settings that cannot be
merged come before a root that cannot be found. A run that starts ends with one or zero, and which
of the two it is depends only on the files that it finds. How the run is told never matters.
-/

namespace SyntaxCheck.Proofs

open CommandLine

variable {fs : FileSystem} {o o' : Options}

/-! ### Runs that cannot start -/

/-- A settings file is given that cannot be read, or that says what settings cannot be. -/
def MergeFails (fs : FileSystem) (o : Options) : Prop :=
  ∃ file, o.config = some file ∧
    ((∃ error, fs.readText file = .error error) ∨
      ∃ text fault, fs.readText file = .ok text ∧ Patch.ofText text = .error fault)

/-- The root of the run is no directory. -/
def RootFails (fs : FileSystem) (o : Options) : Prop :=
  ∃ error, resolveRoot fs o.root = .error error

/-- What is printed of an error before which nothing has been done. -/
def fatalText (env : Environment) (o : Options) (message : String) : String :=
  (o.logFilter env).warnings.foldr (· ++ ·) "" ++ "error: " ++ message ++ "\n"

lemma mergeFile_error_iff (s : Settings) (file : String) :
    (∃ error, s.mergeFile fs file = .error error) ↔
      (∃ error, fs.readText file = .error error) ∨
        ∃ text fault, fs.readText file = .ok text ∧ Patch.ofText text = .error fault := by
  unfold Settings.mergeFile Settings.merge
  cases hread : fs.readText file with
  | error error => simp
  | ok text =>
    cases hpatch : Patch.ofText text with
    | error fault => simp [hpatch, Except.map]
    | ok patch => simp [hpatch, Except.map]

lemma settings_error_iff : (∃ error, o.settings fs = .error error) ↔ MergeFails fs o := by
  unfold Options.settings MergeFails
  cases hconfig : o.config with
  | none => simp [bind, Except.bind, pure, Except.pure]
  | some file =>
    generalize (if o.noDefaultIgnores = true then Settings.default.clearIgnores
      else Settings.default) = start
    have hmerge := @mergeFile_error_iff fs start file
    cases hfile : start.mergeFile fs file with
    | error error =>
      rw [hfile] at hmerge
      simpa [hfile, bind, Except.bind] using hmerge
    | ok merged =>
      rw [hfile] at hmerge
      simpa [hfile, bind, Except.bind, pure, Except.pure] using hmerge

lemma settings_eq_of_sameRun (h : SameRun o o') : o.settings fs = o'.settings fs := by
  unfold Options.settings
  rw [h.noDefaultIgnores_eq, h.config_eq, h.ignore_eq]

lemma exitCode_le_one (r : Report) : r.exitCode = 0 ∨ r.exitCode = 1 := by
  unfold Report.exitCode
  split <;> simp

section

variable [CharacterNames]

lemma execute_of_settings_error (env : Environment) {error : SettingsError}
    (h : o.settings fs = .error error) :
    o.execute fs env = ⟨2, "", fatalText env o error.message⟩ := by
  simp [Options.execute, Options.start, h, fatalText, StartError.message]

lemma execute_of_root_error (env : Environment) {settings : Settings} {error : RootError}
    (hsettings : o.settings fs = .ok settings) (h : resolveRoot fs o.root = .error error) :
    o.execute fs env = ⟨2, "", fatalText env o error.message⟩ := by
  simp [Options.execute, Options.start, run, hsettings, h, Except.map, fatalText,
    StartError.message]

lemma code_of_started (env : Environment) {settings : Settings} {place : Path}
    (hsettings : o.settings fs = .ok settings) (h : resolveRoot fs o.root = .ok place) :
    (o.execute fs env).code = (Run.ofRoot fs place settings).report.exitCode := by
  simp [Options.execute, Options.start, run, hsettings, h, Except.map]

/-! ### Runs that start -/

/-- Some file below the root has the extension, is not ignored and does not pass. -/
def SomeFileFails (fs : FileSystem) (place : Path) (settings : Settings) : Prop :=
  ∃ p fault, Listed fs place settings.extension p ∧
    (∀ f ∈ settings.ignore, ¬ f.toList <:+: (Path.absoluteText (place ++ p)).toList) ∧
    checkFile fs (Path.absoluteText (place ++ p)) = .error fault

lemma all_passed_iff {candidates : List Candidate} {outcomes : List Outcome}
    (h : List.Forall₂ (TellsOf fs) candidates outcomes) :
    (∀ o ∈ outcomes, o.passed = true) ↔
      ∀ c ∈ candidates, checkFile fs c.absolute.absoluteText = .ok () := by
  induction h with
  | nil => simp
  | @cons c o cs os hco _ ih =>
    rw [List.forall_mem_cons, List.forall_mem_cons, ih, ← hco.error_none_iff]
    simp [Outcome.passed]

lemma exitCode_eq_zero_iff_passes (fs : FileSystem) (place : Path) (settings : Settings) :
    (Run.ofRoot fs place settings).report.exitCode = 0 ↔
      ∀ c ∈ (Run.ofRoot fs place settings).discovered.candidates,
        checkFile fs c.absolute.absoluteText = .ok () := by
  have hprotocol := runProtocol_ofRoot fs place settings
  obtain ⟨outcomes, htell, hevents⟩ := hprotocol.events_eq
  rw [hprotocol.exitCode_iff_all_passed, hevents]
  refine Iff.trans ?_ (all_passed_iff htell)
  simp

lemma exitCode_eq_zero_iff_not_someFileFails (hwell : wellNamed fs.root = true) {place : Path}
    {entries : List (String × Node)} (hplace : fs.root.at? place = some (.directory entries))
    (settings : Settings) : (Run.ofRoot fs place settings).report.exitCode = 0 ↔
      ¬ SomeFileFails fs place settings := by
  have hexact := exactDiscovery_discover hwell hplace settings
  rw [exitCode_eq_zero_iff_passes]
  constructor
  · rintro hpass ⟨p, fault, hlisted, hkept, hfault⟩
    have hmem := (mem_candidates_iff hexact ⟨p, place ++ p⟩).mpr ⟨rfl, hlisted, hkept⟩
    rw [hpass _ hmem] at hfault
    cases hfault
  · intro hnone c hc
    obtain ⟨habsolute, hlisted, hkept⟩ := (mem_candidates_iff hexact c).mp hc
    cases hcheck : checkFile fs c.absolute.absoluteText with
    | ok u => rfl
    | error fault =>
      rw [habsolute] at hcheck
      exact absurd ⟨c.path, fault, hlisted, hkept, hcheck⟩ hnone

/-! ### Options that ask for the same run -/

lemma code_eq_of_sameRun (env env' : Environment) (h : SameRun o o') :
    (o.execute fs env).code = (o'.execute fs env').code := by
  have hsettings : o.settings fs = o'.settings fs := settings_eq_of_sameRun h
  cases hmerged : o.settings fs with
  | error error =>
    rw [execute_of_settings_error env hmerged, execute_of_settings_error env' (hsettings ▸ hmerged)]
  | ok settings =>
    have hmerged' : o'.settings fs = .ok settings := hsettings ▸ hmerged
    have hroot := h.root_eq
    cases hplace : resolveRoot fs o.root with
    | error error =>
      rw [execute_of_root_error env hmerged hplace,
        execute_of_root_error env' hmerged' (hroot ▸ hplace)]
    | ok place =>
      rw [code_of_started env hmerged hplace, code_of_started env' hmerged' (hroot ▸ hplace)]

/-! ### The command line -/

/-- How a command line ends that asks for a run. -/
structure ExitCodes (fs : FileSystem) (env : Environment) (words : List String) (o : Options) :
    Prop where
  two_iff : (execute fs env words).code = 2 ↔ MergeFails fs o ∨ RootFails fs o
  two_silent : (execute fs env words).code = 2 → (execute fs env words).stdout = ""
  settings_first : ∀ error, o.settings fs = .error error →
    (execute fs env words).stderr = fatalText env o error.message
  root_second : ∀ settings error, o.settings fs = .ok settings →
    resolveRoot fs o.root = .error error →
    (execute fs env words).stderr = fatalText env o error.message
  started : ¬ (MergeFails fs o ∨ RootFails fs o) → ∃ settings place,
    o.settings fs = .ok settings ∧ resolveRoot fs o.root = .ok place ∧
      ((execute fs env words).code = 1 ↔ SomeFileFails fs place settings) ∧
      ((execute fs env words).code = 0 ↔ ¬ SomeFileFails fs place settings)
  same_run : ∀ env' words' o', parseArguments words' = .ok (.run o') → SameRun o o' →
    (execute fs env' words').code = (execute fs env words).code
  without_flags : ∃ o', parseArguments (withoutOutputFlags words) = .ok (.run o') ∧ SameRun o o' ∧
    ∀ env', (execute fs env' (withoutOutputFlags words)).code = (execute fs env words).code

lemma execute_eq (env : Environment) {words : List String}
    (h : parseArguments words = .ok (.run o)) : execute fs env words = o.execute fs env := by
  rw [execute, h]

/-- A command line that asks for a run ends with two if the run cannot start, with one if some file
does not pass, and with zero otherwise, whatever the flags say of how the run is told. -/
theorem exitCode_trichotomy (fs : FileSystem) (env : Environment) (words : List String)
    (o : Options) (hwell : wellNamed fs.root = true)
    (hwords : parseArguments words = .ok (.run o)) : ExitCodes fs env words o := by
  have hsame : ∀ env' words' o', parseArguments words' = .ok (.run o') → SameRun o o' →
      (execute fs env' words').code = (execute fs env words).code := by
    intro env' words' o' hwords' h
    rw [execute_eq env' hwords', execute_eq env hwords]
    exact (code_eq_of_sameRun env env' h).symm
  obtain ⟨plain, hplain, hplainSame⟩ := sameRun_withoutOutputFlags hwords
  have hflags := And.intro hplainSame fun env' => hsame env' _ plain hplain hplainSame
  cases hsettings : o.settings fs with
  | error error =>
    have hfails : MergeFails fs o := settings_error_iff.mp ⟨error, hsettings⟩
    have hexecute : execute fs env words = ⟨2, "", fatalText env o error.message⟩ := by
      rw [execute_eq env hwords, execute_of_settings_error env hsettings]
    refine ⟨by simp [hexecute, hfails], by simp [hexecute], ?_, by simp [hsettings], ?_, hsame,
      plain, hplain, hflags⟩
    · intro other hother
      rw [hsettings] at hother
      rw [hexecute, Except.error.inj hother]
    · intro hstarts
      exact absurd (Or.inl hfails) hstarts
  | ok settings =>
    have hmerges : ¬ MergeFails fs o := by
      rw [← settings_error_iff, hsettings]
      simp
    cases hroot : resolveRoot fs o.root with
    | error error =>
      have hfails : RootFails fs o := ⟨error, hroot⟩
      have hexecute : execute fs env words = ⟨2, "", fatalText env o error.message⟩ := by
        rw [execute_eq env hwords, execute_of_root_error env hsettings hroot]
      refine ⟨by simp [hexecute, hfails], by simp [hexecute], by simp [hsettings], ?_, ?_, hsame,
        plain, hplain, hflags⟩
      · intro _ other _ hother
        rw [hroot] at hother
        rw [hexecute, Except.error.inj hother]
      · intro hstarts
        exact absurd (Or.inr hfails) hstarts
    | ok place =>
      obtain ⟨entries, hplace⟩ := directory_of_resolveRoot hroot
      have hcode : (execute fs env words).code =
          (Run.ofRoot fs place settings).report.exitCode := by
        rw [execute_eq env hwords, code_of_started env hsettings hroot]
      have hzero := exitCode_eq_zero_iff_not_someFileFails hwell hplace settings
      have hsmall := exitCode_le_one (Run.ofRoot fs place settings).report
      have hstarts : ¬ (MergeFails fs o ∨ RootFails fs o) := by
        rintro (h | ⟨error, h⟩)
        · exact hmerges h
        · rw [hroot] at h
          cases h
      have hnotTwo : (execute fs env words).code ≠ 2 := by omega
      refine ⟨iff_of_false hnotTwo hstarts, fun h => absurd h hnotTwo, by simp [hsettings],
        by simp [hroot], ?_, hsame, plain, hplain, hflags⟩
      intro _
      refine ⟨settings, place, hsettings, hroot, ?_, ?_⟩
      · rw [hcode, ← not_iff_not, ← hzero]
        omega
      · rw [hcode, hzero]

end

/-- The run is told as JSON and with all of the log; one of the four files fails. -/
theorem exitCode_trichotomy_mixedFiles :
    wellNamed mixedFiles.root = true ∧
    parseArguments ["-v", "--json", "--ignore", "x", "."] =
      .ok (.run { verbose := true, json := true, ignore := ["x"] }) ∧
    ExitCodes mixedFiles [] ["-v", "--json", "--ignore", "x", "."]
      { verbose := true, json := true, ignore := ["x"] } :=
  ⟨rfl, rfl, exitCode_trichotomy mixedFiles [] ["-v", "--json", "--ignore", "x", "."] _ rfl rfl⟩

end SyntaxCheck.Proofs
