import Mathlib.Tactic
import SyntaxCheck.Proofs.RunProtocol
import SyntaxCheck.Proofs.SameKinds
import SyntaxCheck.Proofs.WrittenPaths

/-!
# Other bytes in a file

A walk looks at names, links and directories but never into a file. Other bytes in a file leave the
same kinds at the same paths, so they change neither what is found nor in which order, and the check
of a path reads the other bytes only if the path resolves to that file.
-/

namespace SyntaxCheck.Proofs

variable {fs : FileSystem}

/-! ### Other bytes in one file -/

section Replaced

variable {file : Path} {old : List UInt8}

/-- Everywhere but at the file the same is read. -/
lemma content_putFile (hfile : fs.root.at? file = some (.file old)) (bytes : List UInt8)
    {place : Path} (hplace : place ≠ file) {content : List UInt8} :
    (putFile fs file bytes).root.at? place = some (.file content) ↔
      fs.root.at? place = some (.file content) := by
  have hbelow : ∀ {root : Node} {name rest} {other : List UInt8},
      root.at? file = some (.file other) → root.at? (file ++ name :: rest) = none :=
    fun h => at_below_file h _ _
  have hnow : (putFile fs file bytes).root.at? file = some (.file bytes) := at_insert_self _ _ _
  by_cases habove : place <+: file
  · -- On the way to a file there is none.
    obtain ⟨rest, rfl⟩ := habove
    cases rest with
    | nil => simp at hplace
    | cons name rest =>
      constructor
      · intro h
        rw [at_below_file h] at hnow
        cases hnow
      · intro h
        rw [at_below_file h] at hfile
        cases hfile
  by_cases hunder : file <+: place
  · obtain ⟨rest, rfl⟩ := hunder
    cases rest with
    | nil => simp at hplace
    | cons name rest => rw [hbelow hfile, hbelow hnow]
  · rw [putFile, at_insert_apart _ hunder habove]

/-- The same kinds stand at the same paths. -/
lemma sameKinds_putFile (hfile : fs.root.at? file = some (.file old)) (bytes : List UInt8) :
    SameKinds fs.root (putFile fs file bytes).root := by
  intro place
  by_cases habove : place <+: file
  · -- On the way to the file there are directories before and after.
    obtain ⟨rest, rfl⟩ := habove
    obtain ⟨above, habove, hbelow⟩ := exists_above hfile
    rw [putFile, at_insert_above _ place rest habove, habove]
    cases rest with
    | nil =>
      obtain rfl : above = .file old := by simpa [Node.at?] using hbelow
      rfl
    | cons name rest =>
      obtain ⟨entries, child, rfl, _, _⟩ := at_cons_eq_some hbelow
      rfl
  by_cases hunder : file <+: place
  · obtain ⟨rest, rfl⟩ := hunder
    cases rest with
    | nil => simp at habove
    | cons name rest =>
      have hnow : (putFile fs file bytes).root.at? file = some (.file bytes) := at_insert_self _ _ _
      rw [at_below_file hfile, at_below_file hnow]
  · rw [putFile, at_insert_apart _ hunder habove]

lemma wellNamed_otherBytes (hwell : wellNamed fs.root = true)
    (hfile : fs.root.at? file = some (.file old)) (bytes : List UInt8) :
    wellNamed (putFile fs file bytes).root = true :=
  wellNamed_insert rfl hwell (isProperName_of_at hwell hfile)

/-- The check of a path that resolves elsewhere comes to the same. -/
lemma checkFile_putFile [CharacterNames] (hfile : fs.root.at? file = some (.file old))
    (bytes : List UInt8)
    {text : String} (htext : fs.resolve text ≠ .ok file) :
    checkFile (putFile fs file bytes) text = checkFile fs text := by
  refine checkFile_of_sameKinds (sameKinds_putFile hfile bytes) rfl ?_
  intro place content hresolve
  refine content_putFile hfile bytes ?_
  rintro rfl
  exact htext hresolve

end Replaced

/-! ### The two runs -/

/-- The path, taken from the root of a run, resolves to the file. -/
def Names (fs : FileSystem) (root file : Path) (text : String) : Prop :=
  ∃ p, Path.text p = text ∧ fs.resolvePath (root ++ p) = .ok file

/-- The outcomes are the same, or they are both of one path that resolves to the file. -/
def OutcomeKept (fs : FileSystem) (root file : Path) (o o' : Outcome) : Prop :=
  o' = o ∨ o'.path = o.path ∧ Names fs root file o.path

/-- The events are the same, or they tell of the check of one path that resolves to the file. -/
inductive EventKept (fs : FileSystem) (root file : Path) : Event → Event → Prop
  | same (e : Event) : EventKept fs root file e e
  | rechecked {o o' : Outcome} (path_eq : o'.path = o.path) (names : Names fs root file o.path) :
      EventKept fs root file (.checked o) (.checked o')

/-- A run with other bytes in a file tells the same of every path that does not resolve to it. -/
structure OtherPathsKept (fs : FileSystem) (root file : Path) (r r' : Run) : Prop where
  discovered_eq : r'.discovered = r.discovered
  events_kept : List.Forall₂ (EventKept fs root file) r.events r'.events
  failures_kept : ∀ keep : Failure → Bool, (∀ f, Names fs root file f.path → keep f = false) →
    r'.report.failures.filter keep = r.report.failures.filter keep

lemma eventKept_of_outcomeKept {root file : Path} {o o' : Outcome}
    (h : OutcomeKept fs root file o o') :
    EventKept fs root file (.checked o) (.checked o') := by
  rcases h with rfl | ⟨hpath, hnames⟩
  · exact .same _
  · exact .rechecked hpath hnames

/-- An outcome for a path that is left out leaves no failure behind. -/
lemma failures_left_out {keep : Failure → Bool} {o : Outcome}
    (h : ∀ f : Failure, f.path = o.path → keep f = false) :
    (Run.failure? o).toList.filter keep = [] := by
  cases hfailure : Run.failure? o with
  | none => rfl
  | some f => simp [h f (path_of_failure hfailure)]

lemma filterMap_cons_toList (o : Outcome) (os : List Outcome) :
    (o :: os).filterMap Run.failure? = (Run.failure? o).toList ++ os.filterMap Run.failure? := by
  cases h : Run.failure? o <;> simp [h]

lemma failures_kept_of_outcomes {root file : Path} {keep : Failure → Bool}
    (hkeep : ∀ f, Names fs root file f.path → keep f = false) {outcomes outcomes' : List Outcome}
    (h : List.Forall₂ (OutcomeKept fs root file) outcomes outcomes') :
    (outcomes'.filterMap Run.failure?).filter keep =
      (outcomes.filterMap Run.failure?).filter keep := by
  induction h with
  | nil => rfl
  | @cons o o' os os' hkept _ ih =>
    rw [filterMap_cons_toList, filterMap_cons_toList, List.filter_append, List.filter_append, ih]
    rcases hkept with rfl | ⟨hpath, hnames⟩
    · rfl
    · have hout : ∀ f : Failure, f.path = o.path → keep f = false :=
        fun f hf => hkeep f (hf ▸ hnames)
      rw [failures_left_out hout, failures_left_out fun f hf => hout f (hf.trans hpath)]

theorem otherPathsKept_putFile [CharacterNames] (hwell : wellNamed fs.root = true)
    (hslash : slashFree fs.root = true) {root : Path} {entries : List (String × Node)}
    (hroot : fs.root.at? root = some (.directory entries)) (settings : Settings) {file : Path}
    {old : List UInt8} (hfile : fs.root.at? file = some (.file old)) (bytes : List UInt8) :
    OtherPathsKept fs root file (Run.ofRoot fs root settings)
      (Run.ofRoot (putFile fs file bytes) root settings) := by
  have hexact := exactDiscovery_discover hwell hroot settings
  have hdiscover := discover_of_sameKinds (sameKinds_putFile hfile bytes) hwell
    (wellNamed_otherBytes hwell hfile bytes) root ⟨settings.extension, ⟨settings.ignore⟩⟩
  have hdiscovered : (Run.ofRoot (putFile fs file bytes) root settings).discovered =
      (Run.ofRoot fs root settings).discovered := by
    rw [Run.discovered, Run.discovered, Run.ofRoot, Run.ofRoot, hdiscover]
  have houtcomes : List.Forall₂ (OutcomeKept fs root file) (Run.ofRoot fs root settings).outcomes
      (Run.ofRoot (putFile fs file bytes) root settings).outcomes := by
    unfold Run.outcomes Run.ofRoot
    dsimp only
    rw [hdiscover, List.map_map, List.map_map, List.forall₂_map_left_iff,
      List.forall₂_map_right_iff, List.forall₂_same]
    intro c hc
    obtain ⟨habsolute, hlisted, _⟩ := (mem_candidates_iff hexact c).mp hc
    by_cases hnames : fs.resolvePath (root ++ c.path) = .ok file
    · exact Or.inr ⟨rfl, c.path, rfl, hnames⟩
    · have hresolve := resolve_of_listed hslash hroot hlisted
      rw [← hresolve, ← habsolute] at hnames
      left
      simp only [Function.comp_apply, CheckedFile.outcome, CheckedFile.ofCandidate,
        checkFile_putFile hfile bytes hnames]
  refine ⟨hdiscovered, ?_, ?_⟩
  · rw [Run.events, Run.events, hdiscovered]
    refine .cons (.same _) ?_
    rw [List.forall₂_map_left_iff, List.forall₂_map_right_iff]
    exact houtcomes.imp fun _ _ => eventKept_of_outcomeKept
  · intro keep hkeep
    exact failures_kept_of_outcomes hkeep houtcomes

end SyntaxCheck.Proofs
