import Mathlib.Tactic
import SyntaxCheck.CommandLine.Program
import SyntaxCheck.Proofs.SettingsDocument
import SyntaxCheck.Proofs.SettingsValues

/-!
# Effective settings

The settings of a run come from four places: the defaults, a flag that drops the fragments among
them, a settings file and the fragments of the command line. What they come to is known in closed
form, so the flag drops nothing that the file or the command line asks for.
-/

namespace SyntaxCheck.Proofs

open CommandLine

variable {fs : FileSystem} {o : Options} {entries : Toml.Entries} {patch : Patch}

/-- The document in the settings file; if no file is given it is empty. -/
inductive ReadsDocument (fs : FileSystem) (o : Options) : Toml.Entries → Prop
  | noFile (h : o.config = none) : ReadsDocument fs o []
  | file {file : String} {text : List Char} {entries : Toml.Entries} (h : o.config = some file)
    (hread : fs.readText file = .ok text) (hparse : Toml.parse text = .ok entries) :
    ReadsDocument fs o entries

/-- The fragments that a document's further fragments and those of the command line are added to. -/
def baseFragments (o : Options) (patch : Patch) : List String :=
  patch.ignore.getD (if o.noDefaultIgnores then [] else Settings.defaultIgnores)

/-- The options with the flag for the default fragments set or not. -/
def withFlag (o : Options) (flag : Bool) : Options :=
  { o with noDefaultIgnores := flag }

/-- What settings come to with these options and what the settings file says. -/
structure EffectiveSettings (fs : FileSystem) (o : Options) (patch : Patch) (s : Settings) :
    Prop where
  ignore_eq : s.ignore = distinctFragments (baseFragments o patch ++ patch.extraIgnore ++ o.ignore)
  extension_given : ∀ text, patch.extension = some text → TrimmedFrom text s.extension
  extension_default : patch.extension = none → s.extension = "py"
  flag_without_effect : patch.ignore ≠ none → ∀ flag, (withFlag o flag).settings fs = .ok s
  contributed_kept : ∀ flag f, f ≠ "" → f ∈ patch.ignore.getD [] ++ patch.extraIgnore ++ o.ignore →
    ∃ s', (withFlag o flag).settings fs = .ok s' ∧ f ∈ s'.ignore

/-! ### One source after another -/

/-- The settings that the settings file is merged into. -/
def startSettings (o : Options) : Settings :=
  if o.noDefaultIgnores then Settings.default.clearIgnores else Settings.default

/-- The settings that come of the options and what the settings file says. -/
def mergedSettings (o : Options) (patch : Patch) : Settings :=
  ((startSettings o).apply patch).extendIgnores o.ignore

lemma settings_eq_mergedSettings (hreads : ReadsDocument fs o entries)
    (hdocument : SettingsDocument entries) :
    o.settings fs = .ok (mergedSettings o (patchOf entries)) := by
  unfold Options.settings
  cases hreads with
  | noFile hconfig =>
    rw [hconfig]
    rfl
  | file hconfig hread hparse =>
    rw [hconfig]
    dsimp only
    rw [mergeFile_of_text hread, merge_of_document hparse hdocument]
    rfl

lemma readsDocument_withFlag (h : ReadsDocument fs o entries) (flag : Bool) :
    ReadsDocument fs (withFlag o flag) entries := by
  cases h with
  | noFile hconfig => exact .noFile hconfig
  | file hconfig hread hparse => exact .file hconfig hread hparse

/-! ### The fragments -/

lemma ignore_startSettings (o : Options) : (startSettings o).ignore =
    distinctFragments (if o.noDefaultIgnores then [] else Settings.defaultIgnores) := by
  unfold startSettings
  cases o.noDefaultIgnores <;> decide

/-- Whatever the fragments start with, it is as if they were all added to none. -/
lemma ignore_mergedSettings (o : Options) (patch : Patch) : (mergedSettings o patch).ignore =
    distinctFragments (baseFragments o patch ++ patch.extraIgnore ++ o.ignore) := by
  have hbase : (patch.ignore.map fun fragments => fragments.foldl Settings.addFragment []).getD
      (startSettings o).ignore = distinctFragments (baseFragments o patch) := by
    unfold baseFragments
    cases patch.ignore with
    | none => exact ignore_startSettings o
    | some fragments => exact foldl_addFragment_nil fragments
  unfold mergedSettings Settings.extendIgnores
  rw [ignore_apply, hbase, foldl_addFragment_distinct, foldl_addFragment_distinct]

lemma extension_mergedSettings (o : Options) (patch : Patch) : (mergedSettings o patch).extension =
    (patch.extension.map fun text => ((startSettings o).setExtension text).extension).getD
      "py" := by
  have hstart : (startSettings o).extension = "py" := by
    unfold startSettings
    cases o.noDefaultIgnores <;> rfl
  unfold mergedSettings Settings.extendIgnores
  rw [extension_apply, hstart]

/-- The flag only matters as long as the document says nothing of the fragments that it is about. -/
lemma mergedSettings_withFlag (h : patch.ignore ≠ none) (flag : Bool) :
    mergedSettings (withFlag o flag) patch = mergedSettings o patch := by
  obtain ⟨fragments, hfragments⟩ := Option.ne_none_iff_exists'.mp h
  have hbase : baseFragments (withFlag o flag) patch = baseFragments o patch := by
    unfold baseFragments
    rw [hfragments]
    rfl
  apply settings_ext
  · rw [extension_mergedSettings, extension_mergedSettings]
    rfl
  · rw [ignore_mergedSettings, ignore_mergedSettings, hbase]
    rfl

lemma mem_mergedSettings {f : String} (hne : f ≠ "")
    (h : f ∈ patch.ignore.getD [] ++ patch.extraIgnore ++ o.ignore) :
    f ∈ (mergedSettings o patch).ignore := by
  rw [ignore_mergedSettings, mem_distinctFragments]
  refine ⟨?_, hne⟩
  rw [List.append_assoc, List.mem_append] at h ⊢
  refine h.imp_left ?_
  intro hignore
  unfold baseFragments
  cases hpatch : patch.ignore with
  | none =>
    rw [hpatch] at hignore
    cases hignore
  | some fragments =>
    rw [hpatch] at hignore
    exact hignore

/-- With any settings file that can be read and is a document for settings, the options make
settings, and these are what the four sources come to in closed form. -/
theorem settings_closed_form (fs : FileSystem) (o : Options) (entries : Toml.Entries)
    (hreads : ReadsDocument fs o entries) (hdocument : SettingsDocument entries) :
    ∃ s, o.settings fs = .ok s ∧ EffectiveSettings fs o (patchOf entries) s := by
  have hflag : ∀ flag, (withFlag o flag).settings fs =
      .ok (mergedSettings (withFlag o flag) (patchOf entries)) := fun flag =>
    settings_eq_mergedSettings (readsDocument_withFlag hreads flag) hdocument
  refine ⟨mergedSettings o (patchOf entries), settings_eq_mergedSettings hreads hdocument, ?_⟩
  refine ⟨ignore_mergedSettings o _, ?_, ?_, ?_, ?_⟩
  · intro text htext
    rw [extension_mergedSettings, htext]
    exact trimmedFrom_setExtension (startSettings o) text
  · intro hnone
    rw [extension_mergedSettings, hnone]
    rfl
  · intro hignore flag
    rw [hflag, mergedSettings_withFlag hignore]
  · intro flag f hne hmem
    exact ⟨_, hflag flag, mem_mergedSettings hne hmem⟩

/-- A fragment that is ignored by default comes twice, and one is empty. -/
def settingsText : String :=
  "extension = \"..pyw\"\nextra_ignore = [\"venv\", \"\", 'b', \"venv\"]\n"

def configuredFiles : FileSystem where
  root := .directory [("p", .directory [("check.toml", .file (Utf8.encode settingsText.toList))])]
  current := ["p"]

def configuredOptions : Options :=
  { ignore := ["b", "c"], noDefaultIgnores := true, config := some "check.toml" }

def settingsPatch : Patch :=
  ⟨some "..pyw", none, ["venv", "", "b", "venv"]⟩

theorem settings_closed_form_configuredFiles :
    ∃ entries, ReadsDocument configuredFiles configuredOptions entries ∧
      SettingsDocument entries ∧ patchOf entries = settingsPatch ∧
      ∃ s, configuredOptions.settings configuredFiles = .ok s ∧
        EffectiveSettings configuredFiles configuredOptions (patchOf entries) s := by
  have hread : configuredFiles.readText "check.toml" = .ok settingsText.toList := by
    decide +kernel
  have hpatch : Patch.ofText settingsText.toList = .ok settingsPatch := by
    decide +kernel
  obtain ⟨entries, hparse, hdocument, heq⟩ := (ofText_eq_ok_iff _ _).mp hpatch
  have hreads : ReadsDocument configuredFiles configuredOptions entries :=
    .file rfl hread hparse
  exact ⟨entries, hreads, hdocument, heq.symm, settings_closed_form configuredFiles
    configuredOptions entries hreads hdocument⟩

end SyntaxCheck.Proofs
