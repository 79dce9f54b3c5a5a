import Mathlib.Tactic
import SyntaxCheck.Proofs.RunProtocol
import SyntaxCheck.Proofs.SameKinds
import SyntaxCheck.Proofs.WalkOrder
import SyntaxCheck.Proofs.WrittenPaths

/-!
# The order of what is found

A discovery keeps the order of its walk: the files that count stand in the order of paths, and each
of the two lists takes its share of them as they come. The failures of a report are told in the same
order. How the entries of directories are stored shows in none of it.
-/

namespace SyntaxCheck.Proofs

variable {fs fs' : FileSystem}

/-! ### Trees that are stored in another order -/

/-- The second tree is the first one with the entries of its directories stored in another order. -/
inductive Relisted : Node → Node → Prop
  | same (node : Node) : Relisted node node
  | reordered {entries entries' : List (String × Node)} (perm : entries.Perm entries') :
      Relisted (.directory entries) (.directory entries')
  | within {before after : List (String × Node)} {name : String} {child child' : Node}
      (relisted : Relisted child child') :
      Relisted (.directory (before ++ (name, child) :: after))
        (.directory (before ++ (name, child') :: after))
  | trans {a b c : Node} (first : Relisted a b) (second : Relisted b c) : Relisted a c

/-- A node without what lies below it. -/
def bare : Node → Node
  | .directory _ => .empty
  | node => node

/-- The same files, links and directories stand at the same paths. -/
def SameFiles (a b : Node) : Prop :=
  ∀ p, (a.at? p).map bare = (b.at? p).map bare

lemma kindOf_bare (node : Node) : kindOf (bare node) = kindOf node := by
  cases node <;> rfl

lemma sameKinds_of_sameFiles {a b : Node} (h : SameFiles a b) : SameKinds a b := by
  intro p
  have hkind := congrArg (Option.map kindOf) (h p)
  rw [Option.map_map, Option.map_map] at hkind
  simpa only [Function.comp_def, kindOf_bare] using hkind

lemma bare_eq_file_iff {node : Node} {content : List UInt8} :
    bare node = .file content ↔ node = .file content := by
  cases node <;> simp [bare, Node.empty]

lemma content_of_sameFiles {a b : Node} (h : SameFiles a b) (p : Path) (content : List UInt8) :
    b.at? p = some (.file content) ↔ a.at? p = some (.file content) := by
  have hfile : ∀ node : Option Node,
      node.map bare = some (.file content) ↔ node = some (.file content) := by
    intro node
    simp only [Option.map_eq_some_iff, bare_eq_file_iff, exists_eq_right]
  rw [← hfile (b.at? p), ← hfile (a.at? p), h p]

/-- Directories whose entries cannot be told apart cannot be told apart. -/
lemma sameFiles_directory {entries entries' : List (String × Node)}
    (h : ∀ name p, ((entries.lookup name).bind fun child => child.at? p).map bare =
      ((entries'.lookup name).bind fun child => child.at? p).map bare) :
    SameFiles (.directory entries) (.directory entries') := by
  intro p
  cases p with
  | nil => rfl
  | cons name p => rw [at_directory_cons, at_directory_cons, h]

lemma sameFiles_within {before after : List (String × Node)} {name : String} {child child' : Node}
    (h : SameFiles child child') :
    SameFiles (.directory (before ++ (name, child) :: after))
      (.directory (before ++ (name, child') :: after)) := by
  refine sameFiles_directory fun other p => ?_
  -- Only what is looked up under the name of the child can differ.
  rw [List.lookup_append, List.lookup_append]
  cases before.lookup other with
  | some node => rfl
  | none =>
    rw [Option.none_or, Option.none_or, List.lookup_cons, List.lookup_cons]
    cases other == name with
    | true => exact h p
    | false => rfl

/-- The order in which entries are stored shows neither in their names nor in what stands where. -/
theorem sameFiles_of_relisted {a b : Node} (h : Relisted a b) (hwell : wellNamed a = true) :
    wellNamed b = true ∧ SameFiles a b := by
  induction h with
  | same node => exact ⟨hwell, fun _ => rfl⟩
  | @reordered entries entries' hperm =>
    rw [wellNamed_directory_iff] at hwell ⊢
    refine ⟨⟨(hperm.map Prod.fst).nodup_iff.mp hwell.1, ?_⟩, ?_⟩
    · exact fun e he => hwell.2 e (hperm.mem_iff.mpr he)
    · exact sameFiles_directory fun name p => by rw [lookup_of_perm hperm hwell.1]
  | @within before after name child child' _ ih =>
    rw [wellNamed_directory_iff] at hwell ⊢
    obtain ⟨hnames, hentries⟩ := hwell
    have hchild := hentries (name, child) (by simp)
    obtain ⟨hchild', hsame⟩ := ih hchild.2
    refine ⟨⟨by simpa using hnames, ?_⟩, sameFiles_within hsame⟩
    intro e he
    rw [List.mem_append, List.mem_cons] at he
    rcases he with hbefore | rfl | hafter
    · exact hentries e (by simp [hbefore])
    · exact ⟨hchild.1, hchild'⟩
    · exact hentries e (by simp [hafter])
  | trans _ _ ihfirst ihsecond =>
    obtain ⟨hmiddle, hfirst⟩ := ihfirst hwell
    obtain ⟨hlast, hsecond⟩ := ihsecond hmiddle
    exact ⟨hlast, fun p => (hfirst p).trans (hsecond p)⟩

/-- A run sees of a tree which files, links and directories stand where, and nothing else. -/
theorem run_of_sameFiles [CharacterNames] (h : SameFiles fs.root fs'.root)
    (hcurrent : fs'.current = fs.current)
    (hwell : wellNamed fs.root = true) (hwell' : wellNamed fs'.root = true) (root : String)
    (settings : Settings) : run fs' root settings = run fs root settings := by
  have hkinds := sameKinds_of_sameFiles h
  have hcheck : CheckedFile.ofCandidate fs' = CheckedFile.ofCandidate fs := by
    funext c
    rw [CheckedFile.ofCandidate, CheckedFile.ofCandidate,
      checkFile_of_sameKinds hkinds hcurrent fun place content _ => content_of_sameFiles h _ _]
  rw [run, run, resolveRoot_of_sameKinds hkinds hcurrent]
  simp only [Run.ofRoot, discover_of_sameKinds hkinds hwell hwell', hcheck]

/-! ### The two lists and the failures -/

/-- Whether a fragment to ignore occurs in a path below the root, taken from the top. -/
def isIgnoredBelow (root : Path) (settings : Settings) (p : Path) : Bool :=
  isExcluded ⟨settings.extension, ⟨settings.ignore⟩⟩ (root ++ p)

/-- What a run finds and what it reports of it stand in the order of paths. -/
structure InOrder (settings : Settings) (r : Run) : Prop where
  split : ∃ found : List Path, found.Pairwise PathBefore ∧
    r.discovered.candidates.map (·.path) =
      found.filter (fun p => !isIgnoredBelow r.root settings p) ∧
    r.discovered.ignored = found.filter (isIgnoredBelow r.root settings)
  candidates_in_order : (r.discovered.candidates.map (·.path)).Pairwise PathBefore
  ignored_in_order : r.discovered.ignored.Pairwise PathBefore
  failures_in_order : (r.report.failures.map fun f => Path.components f.path).Pairwise PathBefore

/-- The wanted ways that pass a test, taken from the root, are the paths that pass it. -/
lemma drop_filter {root : Path} {ways : List Path} (hways : ∀ way ∈ ways, root <+: way)
    (keep : Path → Bool) :
    (ways.filter keep).map (List.drop root.length) =
      (ways.map (List.drop root.length)).filter fun p => keep (root ++ p) := by
  rw [List.filter_map]
  congr 1
  refine List.filter_congr fun way hway => ?_
  obtain ⟨p, rfl⟩ := hways way hway
  rw [Function.comp_apply, List.drop_left]

/-- What is made of some members, named after them, leaves out the names of the others. -/
lemma map_filterMap_sublist {α β γ : Type} {l : List α} {make : α → Option β} {f : β → γ}
    {g : α → γ} (h : ∀ a ∈ l, ∀ b, make a = some b → f b = g a) :
    ((l.filterMap make).map f).Sublist (l.map g) := by
  induction l with
  | nil => exact List.Sublist.refl _
  | cons a rest ih =>
    rw [List.forall_mem_cons] at h
    cases hmake : make a with
    | none =>
      rw [List.filterMap_cons_none hmake, List.map_cons]
      exact (ih h.2).cons _
    | some b =>
      rw [List.filterMap_cons_some hmake, List.map_cons, List.map_cons, h.1 b hmake]
      exact (ih h.2).cons_cons _

section

variable [CharacterNames]

lemma split_turnedUp (hwell : wellNamed fs.root = true) {root : Path}
    {entries : List (String × Node)} (hroot : fs.root.at? root = some (.directory entries))
    (settings : Settings) :
    ∃ found : List Path, found.Pairwise PathBefore ∧
      (Run.ofRoot fs root settings).discovered.candidates.map (·.path) =
        found.filter (fun p => !isIgnoredBelow root settings p) ∧
      (Run.ofRoot fs root settings).discovered.ignored =
        found.filter (isIgnoredBelow root settings) := by
  let selection : Selection := ⟨settings.extension, ⟨settings.ignore⟩⟩
  let ways := wantedWays selection (fs.sightings root)
  have hdiscovered : (Run.ofRoot fs root settings).discovered =
      turnedUp selection root (fs.sightings root) := rfl
  have hways : ∀ way ∈ ways, root <+: way := by
    intro way hway
    obtain ⟨p, rfl, _⟩ := (mem_wantedWays_iff hwell hroot selection way).mp hway
    exact List.prefix_append root p
  refine ⟨ways.map (List.drop root.length), ?_, ?_, ?_⟩
  · rw [List.pairwise_map]
    refine ((ordered_sightings hwell hroot).filter selection.wants).imp_of_mem ?_
    intro way way' hway hway' hbefore
    -- Both ways go on from the root, which is left out of them and decides nothing.
    obtain ⟨p, rfl⟩ := hways way hway
    obtain ⟨q, rfl⟩ := hways way' hway'
    rw [List.drop_left, List.drop_left]
    exact pathBefore_of_append hbefore
  · rw [hdiscovered, turnedUp_eq, List.map_map]
    exact drop_filter hways fun way => !isExcluded selection way
  · rw [hdiscovered, turnedUp_eq]
    exact drop_filter hways (isExcluded selection)

/-- A failure is told by a written path, from which the candidate's path can be read back. -/
lemma failures_sublist (hwell : wellNamed fs.root = true) (hslash : slashFree fs.root = true)
    {root : Path} {entries : List (String × Node)}
    (hroot : fs.root.at? root = some (.directory entries)) (settings : Settings) :
    ((Run.ofRoot fs root settings).report.failures.map fun f => Path.components f.path).Sublist
      ((Run.ofRoot fs root settings).discovered.candidates.map (·.path)) := by
  have hexact := exactDiscovery_discover hwell hroot settings
  have hreadable : ∀ c ∈ (Run.ofRoot fs root settings).discovered.candidates,
      Path.components c.path.text = c.path := by
    intro c hc
    obtain ⟨_, hlisted, _⟩ := (mem_candidates_iff hexact c).mp hc
    obtain ⟨hpath, _⟩ := readable_of_listed hslash hroot hlisted
    exact components_text (fun part hpart => hpath part (List.mem_append_right _ hpart))
      (ne_nil_of_listed hlisted)
  rw [failures_eq_filterMap]
  refine map_filterMap_sublist fun c hc f hf => ?_
  rw [path_of_failure hf]
  exact hreadable c hc

lemma inOrder_ofRoot (hwell : wellNamed fs.root = true) (hslash : slashFree fs.root = true)
    {root : Path} {entries : List (String × Node)}
    (hroot : fs.root.at? root = some (.directory entries)) (settings : Settings) :
    InOrder settings (Run.ofRoot fs root settings) := by
  obtain ⟨found, hordered, hcandidates, hignored⟩ := split_turnedUp hwell hroot settings
  have hcandidatesOrdered :
      ((Run.ofRoot fs root settings).discovered.candidates.map (·.path)).Pairwise PathBefore := by
    rw [hcandidates]
    exact hordered.filter _
  refine ⟨⟨found, hordered, hcandidates, hignored⟩, hcandidatesOrdered, ?_, ?_⟩
  · rw [hignored]
    exact hordered.filter _
  · exact hcandidatesOrdered.sublist (failures_sublist hwell hslash hroot settings)

end

/-! ### Names and written paths -/

/-- A directory with a file in it, and files whose names go on from its name. -/
def siblingFiles : FileSystem where
  root := .directory
    [("a.py", .file [0x29]), ("a-b.py", .file []), ("a", .directory [("y.py", .file []),
      ("x.py", .file [0x28])]), ("venv.py", .file [])]
  current := []

lemma candidates_siblingFiles :
    let findings := discover siblingFiles [] ⟨"py", ⟨Settings.default.ignore⟩⟩
    (Discovered.ofFindings findings).candidates.map (·.path.text) =
      ["a/x.py", "a/y.py", "a-b.py", "a.py"] := by
  decide +kernel

/-- The paths of a run need not stand in the order in which they are written. -/
lemma exists_run_not_in_text_order [CharacterNames] :
    ∃ fs root settings r, run fs root settings = .ok r ∧
      ¬ (r.discovered.candidates.map (·.path.text)).Pairwise fun a b => bytesBefore a b = true := by
  have hroot : resolveRoot siblingFiles "/" = .ok [] := by rfl
  have hpaths : (Run.ofRoot siblingFiles [] Settings.default).discovered.candidates.map
      (·.path.text) = ["a/x.py", "a/y.py", "a-b.py", "a.py"] := candidates_siblingFiles
  refine ⟨siblingFiles, "/", Settings.default, _, run_of_resolveRoot hroot _, ?_⟩
  rw [hpaths]
  decide

/-- What is found and what fails stands in the order of paths, name by name, whatever the order is
in which directories store their entries. The order of the written paths is another one. -/
theorem discovery_in_order [CharacterNames] (fs : FileSystem) (root : String)
    (settings : Settings) (place : Path)
    (hwell : wellNamed fs.root = true) (hslash : slashFree fs.root = true)
    (hroot : resolveRoot fs root = .ok place) :
    (∃ r, run fs root settings = .ok r ∧ r.root = place ∧ InOrder settings r ∧
      ∀ fs', Relisted fs.root fs'.root → fs'.current = fs.current →
        run fs' root settings = .ok r) ∧
    ∃ fs root settings r, run fs root settings = .ok r ∧
      ¬ (r.discovered.candidates.map (·.path.text)).Pairwise fun a b => bytesBefore a b = true := by
  refine ⟨?_, exists_run_not_in_text_order⟩
  obtain ⟨entries, hplace⟩ := directory_of_resolveRoot hroot
  have hordered := inOrder_ofRoot hwell hslash hplace settings
  refine ⟨_, run_of_resolveRoot hroot settings, rfl, hordered, ?_⟩
  intro fs' hrelisted hcurrent
  obtain ⟨hwell', hsame⟩ := sameFiles_of_relisted hrelisted hwell
  rw [run_of_sameFiles hsame hcurrent hwell hwell', run_of_resolveRoot hroot]

theorem discovery_in_order_siblingFiles :
    wellNamed siblingFiles.root = true ∧ slashFree siblingFiles.root = true ∧
    resolveRoot siblingFiles "." = .ok [] ∧
    ∃ r, run siblingFiles "." Settings.default = .ok r ∧ InOrder Settings.default r ∧
      run ⟨.directory [("venv.py", .file []), ("a", .directory [("x.py", .file [0x28]),
        ("y.py", .file [])]), ("a-b.py", .file []), ("a.py", .file [0x29])], []⟩ "."
        Settings.default = .ok r := by
  have hroot : resolveRoot siblingFiles "." = .ok [] := by rfl
  obtain ⟨⟨r, hr, _, hordered, hrelisted⟩, _⟩ :=
    discovery_in_order siblingFiles "." Settings.default [] rfl rfl hroot
  refine ⟨rfl, rfl, hroot, r, hr, hordered, hrelisted _ ?_ rfl⟩
  -- The entries of the directory change places first, then those of the top.
  refine .trans (@Relisted.within [_, _] _ _ _ _ (.reordered (List.Perm.swap _ _ _))) ?_
  exact .reordered (List.reverse_perm _).symm

end SyntaxCheck.Proofs
