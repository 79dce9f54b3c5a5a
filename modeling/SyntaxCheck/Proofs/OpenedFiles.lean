import Mathlib.Tactic
import SyntaxCheck.Proofs.FaithfulLocations
import SyntaxCheck.Proofs.QuotedText
import SyntaxCheck.Proofs.RunProtocol
import SyntaxCheck.Proofs.WrittenPaths

/-!
# Files that can be opened

A check resolves the path of a candidate anew, from the way it is written. It arrives where the walk
arrived, at a regular file. So a candidate that does not pass either is no text or is rejected at a
line and a column; the system never refuses to read it.
-/

namespace SyntaxCheck.Proofs

variable {fs : FileSystem}

/-- Whether no name in a tree has a character in it that ends a path of the system. -/
def nulFree (root : Node) : Bool :=
  everyName (fun name => !name.toList.contains '\x00') root

/-- The path of a candidate goes on from the root, by names alone, and leads to a regular file. -/
structure LeadsToFile (fs : FileSystem) (root : Path) (c : Candidate) : Prop where
  absolute_eq : c.absolute = root ++ c.path
  absolute_text : c.absolute.absoluteText = joined root.absoluteText c.path.text
  relative : Path.isAbsolute c.path.text = false
  nonempty : c.path ≠ []
  plain : ∀ name ∈ c.path, name ∉ ["", ".", ".."]
  regular : ∃ place content, fs.resolve c.absolute.absoluteText = .ok place ∧
    fs.root.at? place = some (.file content)

/-- The message tells a line and a column, which count from one. -/
def Positioned (r : Rejection) : Prop :=
  1 ≤ r.line ∧ 1 ≤ r.column ∧ (FileFault.rejected r).text =
    r.message ++ " (line " ++ toString r.line ++ ", column " ++ toString r.column ++ ")"

/-- A file does not pass because it is rejected somewhere in its text or because it is no text. -/
def FailsAsFile (fault : FileFault) : Prop :=
  (∃ r, fault = .rejected r ∧ Positioned r) ∨ fault = .unreadable .notText

/-! ### Reading -/

/-- The system takes a path that is written so, and it leads to a regular file with these bytes. -/
structure NamesFile (fs : FileSystem) (text : String) (bytes : List UInt8) : Prop where
  nul_free : '\x00' ∉ text.toList
  short : Location.width text.toList < FileSystem.pathLimit
  regular : ∃ place, fs.resolve text = .ok place ∧ fs.root.at? place = some (.file bytes)

/-- Bytes are read exactly where a path leads to a file with them. -/
lemma readBytes_eq_ok_iff {text : String} {bytes : List UInt8} :
    fs.readBytes text = .ok bytes ↔ NamesFile fs text bytes := by
  constructor
  · intro h
    unfold FileSystem.readBytes at h
    split_ifs at h with hnul hlong
    cases hplace : fs.resolve text with
    | error e => simp [hplace] at h
    | ok place =>
      rw [hplace] at h
      dsimp only at h
      cases hnode : fs.root.at? place with
      | none => simp [hnode] at h
      | some node =>
        rw [hnode] at h
        cases node with
        | file content =>
          cases h
          exact ⟨hnul, Nat.lt_of_not_le hlong, place, hplace, hnode⟩
        | link target => cases h
        | directory entries => cases h
  · rintro ⟨hnul, hshort, place, hplace, hnode⟩
    rw [FileSystem.readBytes, if_neg hnul, if_neg (Nat.not_le.mpr hshort), hplace]
    dsimp only
    rw [hnode]

/-- What a path names can only be unreadable for its bytes. -/
lemma readText_of_namesFile {text : String} {bytes : List UInt8} (h : NamesFile fs text bytes) :
    (∃ chars, fs.readText text = .ok chars) ∨ fs.readText text = .error .notText := by
  rw [FileSystem.readText, readBytes_eq_ok_iff.mpr h]
  dsimp only
  cases Utf8.decode? bytes with
  | none => exact .inr rfl
  | some chars => exact .inl ⟨chars, rfl⟩

lemma namesAre_nulFree {root : Node} (h : nulFree root = true) :
    NamesAre (fun name => '\x00' ∉ name.toList) root := by
  intro place entries name node hplace hentry
  simpa using namesAre_of_everyName h hplace hentry

lemma nul_not_mem_absoluteText {p : Path} (hp : ∀ name ∈ p, '\x00' ∉ name.toList) :
    '\x00' ∉ p.absoluteText.toList := by
  intro h
  rw [Path.absoluteText, String.toList_append, List.mem_append] at h
  rcases h with h | h
  · exact absurd h (by decide)
  · rcases mem_text h with hslash | ⟨name, hname, hc⟩
    · exact absurd hslash (by decide)
    · exact hp name hname hc

lemma leadsToFile_of_listed (hwell : wellNamed fs.root = true) (hslash : slashFree fs.root = true)
    {root : Path} {entries : List (String × Node)}
    (hroot : fs.root.at? root = some (.directory entries)) {extension : String} {c : Candidate}
    (habsolute : c.absolute = root ++ c.path) (hlisted : Listed fs root extension c.path) :
    LeadsToFile fs root c := by
  have hplain : ∀ name ∈ root ++ c.path, name ∉ ["", ".", ".."] := fun name hname =>
    not_mem_dots_of_proper (names_of_listed (namesAre_proper hwell) hroot hlisted name hname)
  have hwritten : ∀ name ∈ root ++ c.path, name ≠ "" :=
    fun name hname h => hplain name hname (by simp [h])
  rw [List.forall_mem_append] at hplain hwritten
  obtain ⟨hreadable, _⟩ := readable_of_listed hslash hroot hlisted
  obtain ⟨t, _, _, hresolved, content, hfile⟩ := hlisted.reached
  refine ⟨habsolute, ?_, ?_, ne_nil_of_listed hlisted, hplain.2, t.place, content, ?_, hfile⟩
  · rw [habsolute, absoluteText_append hwritten.1 (ne_nil_of_listed hlisted)]
  · exact isAbsolute_text (fun name hname => hreadable name (List.mem_append_right _ hname))
      hwritten.2
  · rw [habsolute, resolve_of_listed hslash hroot hlisted, hresolved]

/-! ### Lines and columns -/

section

variable [CharacterNames]

lemma location_of_checkSource {text : List Char} {r : Rejection}
    (h : checkSource text = .error r) :
    r.location = locate text r.offset := by
  unfold checkSource at h
  cases hparse : parseModule text with
  | error d =>
    rw [hparse] at h
    rw [← Except.error.inj h]
    rfl
  | ok module =>
    rw [hparse] at h
    dsimp only at h
    cases htarget : firstInvalid? module with
    | none => simp [htarget] at h
    | some d =>
      rw [htarget] at h
      rw [← Except.error.inj h]
      rfl

lemma positioned_of_checkSource {text : List Char} {r : Rejection}
    (h : checkSource text = .error r) : Positioned r := by
  have hlocation := location_of_checkSource h
  have hcounted := countedInBytes text r.offset
  refine ⟨?_, ?_, rfl⟩
  · rw [Rejection.line, hlocation, hcounted.line_eq]
    exact Nat.le_add_right 1 _
  · rw [Rejection.column, hlocation]
    exact hcounted.one_le_column

lemma failsAsFile_of_read {text : String} {fault : FileFault}
    (hread : (∃ chars, fs.readText text = .ok chars) ∨ fs.readText text = .error .notText)
    (h : checkFile fs text = .error fault) : FailsAsFile fault := by
  unfold checkFile at h
  rcases hread with ⟨chars, hread⟩ | hread
  · rw [hread] at h
    dsimp only at h
    cases hcheck : checkSource (dropByteOrderMark chars) with
    | ok u => simp [hcheck] at h
    | error r =>
      rw [hcheck] at h
      exact .inl ⟨r, (Except.error.inj h).symm, positioned_of_checkSource hcheck⟩
  · rw [hread] at h
    exact .inr (Except.error.inj h).symm

/-! ### Candidates -/

/-- Candidates lead to regular files, and checks tell in words of their own what is wrong with the
text of a file. -/
structure OpensCandidates (fs : FileSystem) (r : Run) : Prop where
  leads : ∀ c ∈ r.discovered.candidates, LeadsToFile fs r.root c
  fails : ∀ c ∈ r.discovered.candidates,
    Location.width c.absolute.absoluteText.toList < FileSystem.pathLimit →
    ∀ fault, checkFile fs c.absolute.absoluteText = .error fault → FailsAsFile fault
  told : ∀ c ∈ r.discovered.candidates, ∀ fault,
    checkFile fs c.absolute.absoluteText = .error fault →
    (CheckedFile.ofCandidate fs c).outcome.error = some fault.text ∧ fault.text ≠ ""

/-- Whatever links and directories there are in the tree, each candidate is a regular file that can
be opened by its path, so that its check can only fail for what is in the file. -/
theorem candidates_can_be_opened (fs : FileSystem) (root : String) (settings : Settings)
    (place : Path) (hwell : wellNamed fs.root = true) (hslash : slashFree fs.root = true)
    (hnul : nulFree fs.root = true) (hroot : resolveRoot fs root = .ok place) :
    ∃ r, run fs root settings = .ok r ∧ r.root = place ∧ OpensCandidates fs r := by
  obtain ⟨entries, hplace⟩ := directory_of_resolveRoot hroot
  have hexact := exactDiscovery_discover hwell hplace settings
  have hleads : ∀ c ∈ (Run.ofRoot fs place settings).discovered.candidates,
      LeadsToFile fs place c := by
    intro c hc
    obtain ⟨habsolute, hlisted, _⟩ := (mem_candidates_iff hexact c).mp hc
    exact leadsToFile_of_listed hwell hslash hplace habsolute hlisted
  refine ⟨_, run_of_resolveRoot hroot settings, rfl, hleads, ?_, ?_⟩
  · intro c hc hshort fault hfault
    obtain ⟨habsolute, hlisted, _⟩ := (mem_candidates_iff hexact c).mp hc
    -- The reader resolves the written path anew; it arrives at the file that the walk came upon.
    obtain ⟨stop, content, hstop, hfile⟩ := (hleads c hc).regular
    have hnames := names_of_listed (namesAre_nulFree hnul) hplace hlisted
    rw [← habsolute] at hnames
    exact failsAsFile_of_read
      (readText_of_namesFile ⟨nul_not_mem_absoluteText hnames, hshort, stop, hstop, hfile⟩) hfault
  · intro c _ fault hfault
    refine ⟨?_, text_ne_empty fault⟩
    rw [← reported_eq_text, CheckedFile.outcome, CheckedFile.ofCandidate, hfault]
    rfl

end

/-- Links to files and to directories, to nothing and to themselves, and directories, all of which
are called as source files are. -/
def disguisedFiles : FileSystem where
  root := .directory
    [("a.py", .file [0x29]), ("b.py", .link "a.py"), ("c.py", .link "none"),
      ("d.py", .directory [("e.py", .file [0xFF]), ("up.py", .link "..")]), ("f.py", .link "d.py"),
      ("g.py", .link "g.py")]
  current := []

theorem candidates_can_be_opened_disguisedFiles :
    wellNamed disguisedFiles.root = true ∧ slashFree disguisedFiles.root = true ∧
    nulFree disguisedFiles.root = true ∧ resolveRoot disguisedFiles "." = .ok [] ∧
    ∃ r, run disguisedFiles "." Settings.default = .ok r ∧ OpensCandidates disguisedFiles r ∧
      r.discovered.candidates.map (·.path) =
        [["a.py"], ["b.py"], ["d.py", "e.py"], ["f.py", "e.py"]] := by
  have hroot : resolveRoot disguisedFiles "." = .ok [] := by rfl
  have hfound : (Run.ofRoot disguisedFiles [] Settings.default).discovered.candidates.map (·.path) =
      [["a.py"], ["b.py"], ["d.py", "e.py"], ["f.py", "e.py"]] := by decide +kernel
  obtain ⟨r, hr, _, hopens⟩ :=
    candidates_can_be_opened disguisedFiles "." Settings.default [] rfl rfl rfl hroot
  have hsame := hr.symm.trans (run_of_resolveRoot hroot Settings.default)
  refine ⟨rfl, rfl, rfl, hroot, r, hr, hopens, ?_⟩
  rw [Except.ok.inj hsame, hfound]

end SyntaxCheck.Proofs
