import Mathlib.Tactic
import SyntaxCheck.Proofs.SettingsDocument
import SyntaxCheck.Proofs.SettingsValues
import SyntaxCheck.Settings.Step

/-!
# Settings after any steps

Each step takes effect as a whole or not at all, although it edits the settings in place: all that
can fail in it comes before the first edit. So a run of steps keeps what the succeeding steps keep,
and it is the same run without the steps that fail.
-/

namespace SyntaxCheck.Proofs

open Settings

variable {ε ε' α β : Type} {s s' : Settings} {step : Step} {fault : StepFault}

/-! ### Edits -/

lemma outcome_bind (edit : Edit ε α) (next : α → Edit ε β) (s : Settings) :
    Edit.outcome (edit >>= next) s =
      StateT.run (ExceptT.bindCont next (edit.outcome s).1) (edit.outcome s).2 :=
  rfl

lemma outcome_bind_of_ok {edit : Edit ε α} {a : α} (h : edit.outcome s = (.ok a, s'))
    (next : α → Edit ε β) : Edit.outcome (edit >>= next) s = (next a).outcome s' := by
  rw [outcome_bind, h]
  rfl

lemma outcome_bind_of_error {edit : Edit ε α} {e : ε} (h : edit.outcome s = (.error e, s'))
    (next : α → Edit ε β) : Edit.outcome (edit >>= next) s = (.error e, s') := by
  rw [outcome_bind, h]
  rfl

lemma outcome_take (value : Except ε α) (s : Settings) :
    (Edit.take value).outcome s = (value, s) :=
  rfl

lemma outcome_extend (fragments : List String) (s : Settings) :
    (Edit.extend fragments : Edit ε Unit).outcome s = (.ok (), s.extendIgnores fragments) := by
  induction fragments generalizing s with
  | nil => rfl
  | cons f rest ih => exact ih { s with ignore := addFragment s.ignore f }

/-- Settings that were made take the place of those before; if none were made, these stay. -/
def committed (s : Settings) : Except ε Settings → Except ε Unit × Settings
  | .ok made => (.ok (), made)
  | .error e => (.error e, s)

lemma outcome_adapt {edit : Edit ε Unit} {made : Except ε Settings}
    (h : edit.outcome s = committed s made) (f : ε → ε') :
    Edit.outcome (edit.adapt f) s = committed s (made.mapError f) := by
  have hadapt : Edit.outcome (edit.adapt f) s =
      ((edit.outcome s).1.mapError f, (edit.outcome s).2) := rfl
  rw [hadapt, h]
  cases made <;> rfl

lemma outcome_replace (fragments : List String) (s : Settings) :
    (do Edit.clear; Edit.extend fragments : Edit ε Unit).outcome s =
      (.ok (), s.clearIgnores.extendIgnores fragments) :=
  outcome_extend fragments s.clearIgnores

/-- Reading the document comes first, and the rest of the merge cannot fail. -/
lemma outcome_merge (text : List Char) (s : Settings) :
    (Edit.merge text).outcome s = committed s (s.merge text) := by
  unfold Edit.merge Settings.merge
  cases hpatch : Patch.ofText text with
  | error fault => exact outcome_bind_of_error (outcome_take _ s) _
  | ok patch =>
    refine (outcome_bind_of_ok (outcome_take _ s) _).trans ?_
    obtain ⟨extension, ignore, extraIgnore⟩ := patch
    cases extension with
    | none =>
      cases ignore with
      | none => exact outcome_extend extraIgnore s
      | some fragments =>
        exact (outcome_bind_of_ok (outcome_replace fragments s) _).trans
          (outcome_extend extraIgnore _)
    | some text =>
      cases ignore with
      | none => exact outcome_extend extraIgnore (s.setExtension text)
      | some fragments =>
        exact (outcome_bind_of_ok (outcome_replace fragments (s.setExtension text)) _).trans
          (outcome_extend extraIgnore _)

lemma outcome_mergeFile (fs : FileSystem) (file : String) (s : Settings) :
    (Edit.mergeFile fs file).outcome s = committed s (s.mergeFile fs file) := by
  unfold Edit.mergeFile
  cases hread : fs.readText file with
  | error e =>
    rw [mergeFile_of_unreadable hread]
    rfl
  | ok text =>
    rw [mergeFile_of_text hread]
    exact outcome_adapt (outcome_merge text s) _

lemma outcome_anew {edit : Edit ε Unit} {made : Except ε Settings}
    (h : edit.outcome Settings.default = committed Settings.default made) (s : Settings) :
    edit.anew.outcome s = committed s made := by
  unfold Edit.anew
  rw [h]
  cases made <;> rfl

/-! ### Steps -/

/-- What a step makes of settings if it succeeds. -/
def madeBy (s : Settings) : Step → Except StepFault Settings
  | .clear => .ok s.clearIgnores
  | .extend fragments => .ok (s.extendIgnores fragments)
  | .merge text => (s.merge text).mapError .text
  | .mergeFile fs file => (s.mergeFile fs file).mapError .file
  | .ofText text => (Settings.ofText text).mapError .text
  | .load fs file => (Settings.load fs file).mapError .file

lemma outcome_edit (step : Step) (s : Settings) :
    step.edit.outcome s = committed s (madeBy s step) := by
  cases step with
  | clear => rfl
  | extend fragments => exact outcome_extend fragments s
  | merge text => exact outcome_adapt (outcome_merge text s) _
  | mergeFile fs file => exact outcome_adapt (outcome_mergeFile fs file s) _
  | ofText text =>
    exact outcome_adapt (outcome_anew (outcome_merge text Settings.default) s) _
  | load fs file =>
    exact outcome_adapt (outcome_anew (outcome_mergeFile fs file Settings.default) s) _

lemma result_of_made (h : madeBy s step = .ok s') : step.result s = ⟨s', none⟩ := by
  unfold Step.result
  rw [outcome_edit, h]
  rfl

lemma result_of_fault (h : madeBy s step = .error fault) : step.result s = ⟨s, some fault⟩ := by
  unfold Step.result
  rw [outcome_edit, h]
  rfl

/-! ### What every step keeps -/

/-- The fragments are ones that can be added, and the extension does not begin with a dot. -/
structure ProperSettings (s : Settings) : Prop where
  fragments : ProperFragments s.ignore
  extension : s.extension.toList.head? ≠ some '.'

lemma properSettings_default : ProperSettings Settings.default :=
  ⟨⟨by decide, by decide⟩, by decide⟩

lemma properSettings_apply (h : ProperSettings s) (patch : Patch) :
    ProperSettings (s.apply patch) := by
  refine ⟨?_, ?_⟩
  · rw [ignore_apply]
    apply properFragments_foldl
    cases patch.ignore with
    | none => exact h.fragments
    | some fragments => exact properFragments_foldl properFragments_nil fragments
  · rw [extension_apply]
    cases patch.extension with
    | none => exact h.extension
    | some text =>
      obtain ⟨_, _, hdot⟩ := trimmedFrom_setExtension s text
      exact hdot

lemma properSettings_merge {text : List Char} (h : ProperSettings s)
    (hmade : s.merge text = .ok s') : ProperSettings s' := by
  obtain ⟨patch, _, rfl⟩ := exists_of_map hmade
  exact properSettings_apply h patch

lemma properSettings_mergeFile {fs : FileSystem} {file : String} (h : ProperSettings s)
    (hmade : s.mergeFile fs file = .ok s') : ProperSettings s' := by
  cases hread : fs.readText file with
  | error e =>
    rw [mergeFile_of_unreadable hread] at hmade
    cases hmade
  | ok text =>
    rw [mergeFile_of_text hread] at hmade
    exact properSettings_merge h (mapError_eq_ok_iff.mp hmade)

lemma properSettings_made (h : ProperSettings s) (hmade : madeBy s step = .ok s') :
    ProperSettings s' := by
  cases step with
  | clear =>
    obtain rfl := Except.ok.inj hmade
    exact ⟨properFragments_nil, h.extension⟩
  | extend fragments =>
    obtain rfl := Except.ok.inj hmade
    exact ⟨properFragments_foldl h.fragments fragments, h.extension⟩
  | merge text => exact properSettings_merge h (mapError_eq_ok_iff.mp hmade)
  | mergeFile fs file => exact properSettings_mergeFile h (mapError_eq_ok_iff.mp hmade)
  | ofText text => exact properSettings_merge properSettings_default (mapError_eq_ok_iff.mp hmade)
  | load fs file =>
    exact properSettings_mergeFile properSettings_default (mapError_eq_ok_iff.mp hmade)

lemma properSettings_result (h : ProperSettings s) (step : Step) :
    ProperSettings (step.result s).settings := by
  cases hmade : madeBy s step with
  | error fault =>
    rw [result_of_fault hmade]
    exact h
  | ok s' =>
    rw [result_of_made hmade]
    exact properSettings_made h hmade

lemma properSettings_after (h : ProperSettings s) (steps : List Step) :
    ProperSettings (Step.after s steps) := by
  induction steps generalizing s with
  | nil => exact h
  | cons step rest ih => exact ih (properSettings_result h step)

/-- After any steps from the default settings, no fragment is empty, none is there twice, and the
extension does not begin with a dot. -/
theorem reachable_settings_proper (steps : List Step) :
    ProperSettings (Step.after Settings.default steps) :=
  properSettings_after properSettings_default steps

/-! ### Runs without the steps that fail -/

/-- Whether the step that has this result succeeded. -/
def succeeded (r : StepResult) : Bool :=
  r.fault.isNone

/-- The steps that succeed, each in the state in which its turn comes. -/
def succeeding (s : Settings) : List Step → List Step
  | [] => []
  | step :: rest =>
    if succeeded (step.result s) then step :: succeeding (step.result s).settings rest
    else succeeding (step.result s).settings rest

/-- What a step that fails does is not seen, neither right after it nor in the rest of a run. -/
structure FailedStepsInvisible (s : Settings) : Prop where
  unchanged : ∀ step : Step, ¬ succeeded (step.result s) → (step.result s).settings = s
  merge_succeeds_iff : ∀ text, succeeded ((Step.merge text).result s) ↔ SettingsText text
  mergeFile_succeeds_iff : ∀ fs file, succeeded ((Step.mergeFile fs file).result s) ↔
    ∃ text, fs.readText file = .ok text ∧ SettingsText text
  run_without : ∀ steps, Step.after s (succeeding s steps) = Step.after s steps ∧
    Step.results s (succeeding s steps) = (Step.results s steps).filter succeeded

lemma succeeded_iff : succeeded (step.result s) ↔ ∃ s', madeBy s step = .ok s' := by
  unfold succeeded
  cases hmade : madeBy s step with
  | error fault => simp [result_of_fault hmade]
  | ok s' => simp [result_of_made hmade]

lemma settings_of_failed (h : ¬ succeeded (step.result s)) : (step.result s).settings = s := by
  cases hmade : madeBy s step with
  | error fault => rw [result_of_fault hmade]
  | ok s' => exact absurd (succeeded_iff.mpr ⟨s', hmade⟩) h

lemma succeeded_merge_iff (s : Settings) (text : List Char) :
    succeeded ((Step.merge text).result s) ↔ SettingsText text := by
  rw [succeeded_iff, ← exists_merge_iff s]
  simp only [madeBy, mapError_eq_ok_iff]

lemma succeeded_mergeFile_iff (s : Settings) (fs : FileSystem) (file : String) :
    succeeded ((Step.mergeFile fs file).result s) ↔
      ∃ text, fs.readText file = .ok text ∧ SettingsText text := by
  rw [succeeded_iff]
  simp only [madeBy, mapError_eq_ok_iff]
  cases hread : fs.readText file with
  | error e => simp [mergeFile_of_unreadable hread]
  | ok text => simp [mergeFile_of_text hread, mapError_eq_ok_iff, exists_merge_iff]

/-- The induction is on the steps; a step that fails drops out on both sides, and the rest runs from
where it ran before. -/
lemma run_succeeding (s : Settings) (steps : List Step) :
    Step.after s (succeeding s steps) = Step.after s steps ∧
      Step.results s (succeeding s steps) = (Step.results s steps).filter succeeded := by
  induction steps generalizing s with
  | nil => exact ⟨rfl, rfl⟩
  | cons step rest ih =>
    obtain ⟨hafter, hresults⟩ := ih (step.result s).settings
    rw [succeeding, Step.results]
    by_cases hstep : succeeded (step.result s)
    · rw [if_pos hstep, List.filter_cons_of_pos hstep, ← hresults]
      exact ⟨hafter, rfl⟩
    · have hafter' : Step.after s (step :: rest) = Step.after (step.result s).settings rest := rfl
      rw [if_neg hstep, List.filter_cons_of_neg hstep, hafter', ← hafter, ← hresults,
        settings_of_failed hstep]
      exact ⟨rfl, rfl⟩

/-- Whatever the settings are, a step that fails leaves them as they are, a merge succeeds only on a
text that is right as a whole, and a run is the same without the steps that fail in it. -/
theorem failed_steps_invisible (s : Settings) : FailedStepsInvisible s where
  unchanged _ := settings_of_failed
  merge_succeeds_iff := succeeded_merge_iff s
  mergeFile_succeeds_iff := succeeded_mergeFile_iff s
  run_without := run_succeeding s

end SyntaxCheck.Proofs
