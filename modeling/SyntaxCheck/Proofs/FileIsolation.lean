import Mathlib.Tactic
import SyntaxCheck.Proofs.AddedFile
import SyntaxCheck.Proofs.ReplacedFile

/-!
# What one file does to a run

Two runs over file systems that differ in one file. If the file has other bytes, only the checks of
the paths that resolve to it can come to something else. If the file is new, everything that was
found is found, in its order, with at most one entry for the new file in between.
-/

namespace SyntaxCheck.Proofs

variable {fs : FileSystem}

/-- A run with a new file in a directory counts the file if the directory is below the root and the
name has the extension, and finds and tells the same of everything else. -/
structure FileAdded (root dir : Path) (name extension : String) (r r' : Run) : Prop where
  new_file_only : NewFileOnly root (dir ++ [name]) r r'
  found_more : root <+: dir → HasExtension extension name →
    r'.report.filesFound = r.report.filesFound + 1
  found_same : ¬ (root <+: dir ∧ HasExtension extension name) →
    r'.report.filesFound = r.report.filesFound

/-- What becomes of a run when other bytes are put into a file, or a file under a free name. -/
structure FilesIsolated [CharacterNames] (fs : FileSystem) (root : String) (place : Path)
    (settings : Settings) (r : Run) : Prop where
  replaced : ∀ file old bytes, fs.root.at? file = some (.file old) →
    ∃ r', run (putFile fs file bytes) root settings = .ok r' ∧ OtherPathsKept fs place file r r'
  added : ∀ dir name bytes, FreshFile fs dir name bytes →
    ∃ r', run (putFile fs (dir ++ [name]) bytes) root settings = .ok r' ∧
      FileAdded place dir name settings.extension r r'

/-! ### Runs that start -/

section Fresh

variable {dir : Path} {name : String} {bytes : List UInt8}

/-- A new file leaves the root of a run where it was. -/
lemma resolveRoot_newFile (h : FreshFile fs dir name bytes) {text : String} {place : Path}
    (hroot : resolveRoot fs text = .ok place) :
    resolveRoot (putFile fs (dir ++ [name]) bytes) text = .ok place := by
  obtain ⟨entries, hplace⟩ := directory_of_resolveRoot hroot
  obtain ⟨entries', hplace'⟩ := directory_putFile h hplace
  have hresolve := (resolveRoot_eq_ok_iff.mp hroot).1
  refine resolveRoot_eq_ok_iff.mpr ⟨?_, entries', hplace'⟩
  unfold FileSystem.resolve at hresolve ⊢
  split_ifs at hresolve ⊢
  exact (walkUpTo_newFile (newFileAt h) _).1 _ _ _ hresolve

lemma fileAdded_putFile [CharacterNames] (hwell : wellNamed fs.root = true)
    (hslash : slashFree fs.root = true)
    (h : FreshFile fs dir name bytes) {root : Path} {entries : List (String × Node)}
    (hroot : fs.root.at? root = some (.directory entries)) (settings : Settings) :
    FileAdded root dir name settings.extension (Run.ofRoot fs root settings)
      (Run.ofRoot (putFile fs (dir ++ [name]) bytes) root settings) := by
  let selection : Selection := ⟨settings.extension, ⟨settings.ignore⟩⟩
  have hwants : selection.wants (dir ++ [name]) = true ↔ HasExtension settings.extension name := by
    rw [wants_iff, List.getLast?_concat]
    simp [selection]
  by_cases hbelow : root <+: dir
  · have hways := waysOf_sightings_above hwell h hbelow
    refine ⟨newFileOnly_of_turnsUpMore hwell hslash h hroot settings
      (turnsUpMore_of_oneMore selection root hways), ?_, ?_⟩
    · intro _ hextension
      exact total_of_oneMore_wanted root hways (hwants.mpr hextension)
    · intro hnot
      have hunwanted : selection.wants (dir ++ [name]) = false := by
        rw [Bool.eq_false_iff, ne_eq, hwants]
        exact fun hextension => hnot ⟨hbelow, hextension⟩
      exact total_of_oneMore_unwanted root hways hunwanted
  · have hsame := turnedUp_congr selection root (waysOf_sightings_apart hwell h hroot hbelow)
    refine ⟨newFileOnly_of_turnsUpMore hwell hslash h hroot settings (.nothing hsame), ?_, ?_⟩
    · intro habove
      exact absurd habove hbelow
    · intro _
      exact congrArg Discovered.total hsame

end Fresh

/-- What is found in one file never shows in what is told of another: other bytes in a file change
nothing but the checks of the paths that resolve to it, and a file under a free name, to which and
above which no link leads, is one more entry among the same others. -/
theorem files_are_isolated [CharacterNames] (fs : FileSystem) (root : String) (settings : Settings)
    (place : Path) (hwell : wellNamed fs.root = true) (hslash : slashFree fs.root = true)
    (hroot : resolveRoot fs root = .ok place) :
    ∃ r, run fs root settings = .ok r ∧ FilesIsolated fs root place settings r := by
  obtain ⟨entries, hplace⟩ := directory_of_resolveRoot hroot
  refine ⟨Run.ofRoot fs place settings, run_of_resolveRoot hroot settings, ?_, ?_⟩
  · intro file old bytes hfile
    have hroot' := (resolveRoot_of_sameKinds (sameKinds_putFile hfile bytes) rfl root).trans hroot
    exact ⟨_, run_of_resolveRoot hroot' settings,
      otherPathsKept_putFile hwell hslash hplace settings hfile bytes⟩
  · intro dir name bytes h
    exact ⟨_, run_of_resolveRoot (resolveRoot_newFile h hroot) settings,
      fileAdded_putFile hwell hslash h hplace settings⟩

/-- A directory below the root with no link to it, between a link to a file, a link that leads
nowhere and a link to a directory outside the root. -/
def nestedFiles : FileSystem where
  root := .directory
    [("lib", .directory [("b.py", .file [])]),
      ("p", .directory [("a.py", .file [0x29]), ("c.py", .link "a.py"), ("d.py", .link "none"),
        ("sub", .directory [("e.py", .file [0x28])]), ("x", .link "../lib")])]
  current := ["p"]

lemma linkPlaces_nestedFiles :
    linkPlaces [] nestedFiles.root = [["p", "c.py"], ["p", "d.py"], ["p", "x"]] := rfl

lemma freshFile_nestedFiles : FreshFile nestedFiles ["p", "sub"] "f.py" [0x29] := by
  have hplaces : ∀ {q : Path} {target}, nestedFiles.root.at? q = some (.link target) →
      q = ["p", "c.py"] ∨ q = ["p", "d.py"] ∨ q = ["p", "x"] := by
    intro q target hq
    simpa [linkPlaces_nestedFiles] using mem_linkPlaces [] hq
  have hc : nestedFiles.resolvePath ["p", "c.py"] = .ok ["p", "a.py"] := by decide +kernel
  have hd : nestedFiles.resolvePath ["p", "d.py"] = .error .notFound := by decide +kernel
  have hx : nestedFiles.resolvePath ["p", "x"] = .ok ["lib"] := by decide +kernel
  have hd' : (putFile nestedFiles ["p", "sub", "f.py"] [0x29]).resolvePath ["p", "d.py"] =
      .error .notFound := by decide +kernel
  refine ⟨⟨[("e.py", .file [0x28])], rfl, rfl⟩, by decide, by decide, ?_, ?_⟩
  · intro q target stop hq hstop
    rcases hplaces hq with rfl | rfl | rfl
    · obtain rfl := Except.ok.inj (hc.symm.trans hstop)
      decide
    · cases hd.symm.trans hstop
    · obtain rfl := Except.ok.inj (hx.symm.trans hstop)
      decide
  · intro q target error hq herror
    rcases hplaces hq with rfl | rfl | rfl
    · cases hc.symm.trans herror
    · change (putFile nestedFiles ["p", "sub", "f.py"] [0x29]).resolvePath ["p", "d.py"] ≠ _
      rw [hd']
      simp
    · cases hx.symm.trans herror

theorem files_are_isolated_nestedFiles :
    wellNamed nestedFiles.root = true ∧ slashFree nestedFiles.root = true ∧
    resolveRoot nestedFiles "." = .ok ["p"] ∧ FreshFile nestedFiles ["p", "sub"] "f.py" [0x29] ∧
    ∃ r, run nestedFiles "." Settings.default = .ok r ∧
      FilesIsolated nestedFiles "." ["p"] Settings.default r :=
  have hroot : resolveRoot nestedFiles "." = .ok ["p"] := by rfl
  ⟨rfl, rfl, hroot, freshFile_nestedFiles,
    files_are_isolated nestedFiles "." Settings.default ["p"] rfl rfl hroot⟩

end SyntaxCheck.Proofs
