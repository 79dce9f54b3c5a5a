import Mathlib.Tactic
import SyntaxCheck.Proofs.DiscoveredFiles
import SyntaxCheck.Proofs.RunProtocol

/-!
# What more fragments leave out

Fragments do not change what a walk comes upon; they only say to which of the two lists a file goes.
So with more of them files move from the candidates to the ignored ones, in the order in which they
were, and whatever else the run tells of the remaining candidates stays. The order of the fragments
and how often one is written do not matter.
-/

namespace SyntaxCheck.Proofs

variable {extension : String} {F G : List String}

/-- The second run checks some of the files that the first one checks and ignores the others. -/
structure LessWork (r r' : Run) : Prop where
  candidates_left : r'.discovered.candidates.Sublist r.discovered.candidates
  ignored_kept : r.discovered.ignored.Sublist r'.discovered.ignored
  total_eq : r'.discovered.total = r.discovered.total
  filesFound_eq : r'.report.filesFound = r.report.filesFound
  failures_left : r'.report.failures.Sublist r.report.failures
  passed_kept : r.report.passed = true → r'.report.passed = true

/-! ### Files -/

/-- Look for an extension and leave out what these fragments exclude. -/
def selecting (extension : String) (fragments : List String) : Selection :=
  ⟨extension, ⟨fragments⟩⟩

lemma isExcluded_of_subset (h : F ⊆ G) {way : Path}
    (hexcluded : isExcluded (selecting extension F) way = true) :
    isExcluded (selecting extension G) way = true := by
  obtain ⟨f, hf, hoccurs⟩ := (isIgnored_iff ⟨F⟩ way.absoluteText).mp hexcluded
  exact (isIgnored_iff ⟨G⟩ way.absoluteText).mpr ⟨f, h hf, hoccurs⟩

lemma isExcluded_congr (hFG : F ⊆ G) (hGF : G ⊆ F) :
    isExcluded (selecting extension G) = isExcluded (selecting extension F) := by
  funext way
  exact Bool.eq_iff_iff.mpr ⟨isExcluded_of_subset hGF, isExcluded_of_subset hFG⟩

lemma wantedWays_selecting (F G : List String) (sightings : List Sighting) :
    wantedWays (selecting extension G) sightings = wantedWays (selecting extension F) sightings :=
  rfl

section TurnedUp

variable (extension : String) (root : Path) (sightings : List Sighting)

lemma candidates_sublist (h : F ⊆ G) :
    (turnedUp (selecting extension G) root sightings).candidates.Sublist
      (turnedUp (selecting extension F) root sightings).candidates := by
  rw [turnedUp_eq, turnedUp_eq, wantedWays_selecting F G]
  apply List.Sublist.map
  apply List.monotone_filter_right
  intro way hkept
  cases hexcluded : isExcluded (selecting extension F) way with
  | false => rfl
  | true =>
    rw [isExcluded_of_subset h hexcluded] at hkept
    exact hkept

lemma ignored_sublist (h : F ⊆ G) :
    (turnedUp (selecting extension F) root sightings).ignored.Sublist
      (turnedUp (selecting extension G) root sightings).ignored := by
  rw [turnedUp_eq, turnedUp_eq, wantedWays_selecting F G]
  apply List.Sublist.map
  apply List.monotone_filter_right
  intro way hexcluded
  exact isExcluded_of_subset h hexcluded

lemma total_selecting (F G : List String) :
    (turnedUp (selecting extension G) root sightings).total =
      (turnedUp (selecting extension F) root sightings).total := by
  rw [total_turnedUp, total_turnedUp, wantedWays_selecting F G]

lemma turnedUp_of_same (hFG : F ⊆ G) (hGF : G ⊆ F) :
    turnedUp (selecting extension G) root sightings =
      turnedUp (selecting extension F) root sightings := by
  rw [turnedUp_eq, turnedUp_eq, wantedWays_selecting F G, isExcluded_congr hFG hGF]

end TurnedUp

/-! ### Runs -/

section

variable [CharacterNames]

/-- A report is known from the root and the files that were found. -/
lemma report_of_discovered (fs : FileSystem) (root : Path)
    {settings settings' : Settings}
    (h : (Run.ofRoot fs root settings').discovered = (Run.ofRoot fs root settings).discovered) :
    (Run.ofRoot fs root settings').report = (Run.ofRoot fs root settings).report := by
  have houtcomes : (Run.ofRoot fs root settings').outcomes =
      (Run.ofRoot fs root settings).outcomes := by
    rw [outcomes_eq_map, outcomes_eq_map, h]
  unfold Run.report
  rw [houtcomes, h]
  rfl

lemma lessWork_ofRoot (fs : FileSystem) (root : Path) (extension : String)
    (h : F ⊆ G) :
    LessWork (Run.ofRoot fs root ⟨extension, F⟩) (Run.ofRoot fs root ⟨extension, G⟩) := by
  have hcandidates := candidates_sublist extension root (fs.sightings root) h
  have htotal := total_selecting extension root (fs.sightings root) F G
  have hfailures : (Run.ofRoot fs root ⟨extension, G⟩).report.failures.Sublist
      (Run.ofRoot fs root ⟨extension, F⟩).report.failures := by
    rw [failures_eq_filterMap, failures_eq_filterMap]
    exact hcandidates.filterMap _
  refine ⟨hcandidates, ignored_sublist extension root _ h, htotal, htotal, hfailures, ?_⟩
  intro hpassed
  rw [passed_iff_failures_nil] at hpassed ⊢
  rw [hpassed] at hfailures
  exact List.sublist_nil.mp hfailures

/-- Whatever the tree, the root and the extension are, more fragments to ignore only take work away,
and the same fragments in another order or number change nothing. -/
theorem more_fragments_less_work (fs : FileSystem) (root extension : String)
    (F G : List String)
    (h : F ⊆ G) :
    (∃ error, resolveRoot fs root = .error error ∧ run fs root ⟨extension, F⟩ = .error error ∧
      run fs root ⟨extension, G⟩ = .error error) ∨
    ∃ r r', run fs root ⟨extension, F⟩ = .ok r ∧ run fs root ⟨extension, G⟩ = .ok r' ∧
      LessWork r r' ∧ (G ⊆ F → r'.discovered = r.discovered ∧ r'.report = r.report) := by
  cases hroot : resolveRoot fs root with
  | error error =>
    have hfailed : ∀ settings, run fs root settings = .error error := by
      intro settings
      rw [run, hroot]
      rfl
    exact .inl ⟨error, rfl, hfailed _, hfailed _⟩
  | ok place =>
    refine .inr ⟨_, _, run_of_resolveRoot hroot _, run_of_resolveRoot hroot _,
      lessWork_ofRoot fs place extension h, ?_⟩
    intro hGF
    have hdiscovered : (Run.ofRoot fs place ⟨extension, G⟩).discovered =
        (Run.ofRoot fs place ⟨extension, F⟩).discovered :=
      turnedUp_of_same extension place (fs.sightings place) h hGF
    exact ⟨hdiscovered, report_of_discovered fs place hdiscovered⟩

end

theorem more_fragments_less_work_mixedFiles :
    resolveRoot mixedFiles "." = .ok ["p"] ∧
    (["venv"] ⊆ ["/b.py", "venv"] ∧
      ∃ r r', run mixedFiles "." ⟨"py", ["venv"]⟩ = .ok r ∧
        run mixedFiles "." ⟨"py", ["/b.py", "venv"]⟩ = .ok r' ∧ LessWork r r') ∧
    (["venv", "/b.py"] ⊆ ["/b.py", "venv", "/b.py"] ∧
      ∃ r r', run mixedFiles "." ⟨"py", ["venv", "/b.py"]⟩ = .ok r ∧
        run mixedFiles "." ⟨"py", ["/b.py", "venv", "/b.py"]⟩ = .ok r' ∧
        r'.discovered = r.discovered ∧ r'.report = r.report) := by
  have hroot : resolveRoot mixedFiles "." = .ok ["p"] := by rfl
  have hstarts : ∀ error, resolveRoot mixedFiles "." ≠ .error error := by
    intro error hfailed
    rw [hroot] at hfailed
    cases hfailed
  have hmore : ["venv"] ⊆ ["/b.py", "venv"] := by decide
  have hsame : ["venv", "/b.py"] ⊆ ["/b.py", "venv", "/b.py"] := by decide
  refine ⟨hroot, ⟨hmore, ?_⟩, hsame, ?_⟩
  · rcases more_fragments_less_work mixedFiles "." "py" _ _ hmore with
      ⟨error, hfailed, _⟩ | ⟨r, r', hr, hr', hless, _⟩
    · exact absurd hfailed (hstarts error)
    · exact ⟨r, r', hr, hr', hless⟩
  · rcases more_fragments_less_work mixedFiles "." "py" _ _ hsame with
      ⟨error, hfailed, _⟩ | ⟨r, r', hr, hr', _, heq⟩
    · exact absurd hfailed (hstarts error)
    · exact ⟨r, r', hr, hr', heq (by decide)⟩

end SyntaxCheck.Proofs
