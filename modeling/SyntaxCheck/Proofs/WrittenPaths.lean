import Mathlib.Tactic
import SyntaxCheck.Proofs.DiscoveredFiles

/-!
# Paths as they are written

No name in a file system has a slash in it, so a path can be read back from the way it is written.
A file that a walk came upon by a way is therefore read from where that way resolves to.
-/

namespace SyntaxCheck.Proofs

open Relation

variable {fs : FileSystem}

mutual

/-- Whether no name in a tree has a slash in it. -/
def slashFree : Node → Bool
  | .file _ => true
  | .link _ => true
  | .directory entries => slashFreeEntries entries

/-- Whether no entry has a slash in its name or in a name below it. -/
def slashFreeEntries : List (String × Node) → Bool
  | [] => true
  | (name, node) :: rest => !name.toList.contains '/' && slashFree node && slashFreeEntries rest

end

mutual

lemma slashFree_eq_everyName (node : Node) :
    slashFree node = everyName (fun name => !name.toList.contains '/') node := by
  cases node with
  | file content => rfl
  | link target => rfl
  | directory entries => exact slashFreeEntries_eq_everyNameOf entries

lemma slashFreeEntries_eq_everyNameOf (entries : List (String × Node)) :
    slashFreeEntries entries = everyNameOf (fun name => !name.toList.contains '/') entries := by
  match entries with
  | [] => rfl
  | (name, node) :: rest =>
    rw [slashFreeEntries, slashFree_eq_everyName, slashFreeEntries_eq_everyNameOf, everyNameOf]

end

lemma namesAre_slashFree {root : Node} (h : slashFree root = true) :
    NamesAre (fun name => '/' ∉ name.toList) root := by
  rw [slashFree_eq_everyName] at h
  intro place entries name node hplace hentry
  simpa using namesAre_of_everyName h hplace hentry

/-- The names on a path have no slash in them. -/
def SlashFreePath (path : Path) : Prop :=
  ∀ name ∈ path, '/' ∉ name.toList

lemma slashFree_at {root node : Node} {place : Path} (hroot : slashFree root = true)
    (h : root.at? place = some node) : SlashFreePath place :=
  names_at (namesAre_slashFree hroot) h

/-! ### Writing a path -/

/-- A path with what is below it, as it is written. -/
def joined (root below : String) : String :=
  if root = "/" then root ++ below else root ++ "/" ++ below

lemma text_cons (name : String) {path : Path} (h : path ≠ []) :
    Path.text (name :: path) = name ++ "/" ++ Path.text path := by
  cases path with
  | nil => exact absurd rfl h
  | cons next path => rfl

lemma text_append {p q : Path} (hp : p ≠ []) (hq : q ≠ []) :
    Path.text (p ++ q) = Path.text p ++ "/" ++ Path.text q := by
  induction p with
  | nil => exact absurd rfl hp
  | cons name p ih =>
    cases p with
    | nil => exact text_cons name hq
    | cons next p =>
      rw [List.cons_append, text_cons name (by simp), ih (by simp), text_cons name (by simp)]
      simp only [String.append_assoc]

lemma mem_text {p : Path} {c : Char} (h : c ∈ (Path.text p).toList) :
    c = '/' ∨ ∃ name ∈ p, c ∈ name.toList := by
  induction p with
  | nil => simp [Path.text] at h
  | cons name p ih =>
    cases p with
    | nil => exact .inr ⟨name, List.mem_cons_self, h⟩
    | cons next p =>
      rw [text_cons name (by simp), String.toList_append, String.toList_append, List.mem_append,
        List.mem_append] at h
      rcases h with (h | h) | h
      · exact .inr ⟨name, List.mem_cons_self, h⟩
      · exact .inl (by simpa using h)
      · refine (ih h).imp_right ?_
        rintro ⟨other, hother, hc⟩
        exact ⟨other, List.mem_cons_of_mem _ hother, hc⟩

lemma text_path_ne_empty {p : Path} (hp : p ≠ []) (hnames : ∀ name ∈ p, name ≠ "") :
    Path.text p ≠ "" := by
  obtain ⟨name, rest, rfl⟩ := List.exists_cons_of_ne_nil hp
  by_cases hrest : rest = []
  · rw [hrest]
    exact hnames name List.mem_cons_self
  · rw [text_cons name hrest]
    simp [String.append_eq_empty_iff]

lemma absoluteText_eq_slash_iff {p : Path} (hnames : ∀ name ∈ p, name ≠ "") :
    p.absoluteText = "/" ↔ p = [] := by
  constructor
  · intro h
    by_contra hp
    have hchars := congrArg String.toList h
    rw [Path.absoluteText, String.toList_append] at hchars
    exact text_path_ne_empty hp hnames (by simpa using hchars)
  · rintro rfl
    rfl

lemma absoluteText_append {root p : Path} (hroot : ∀ name ∈ root, name ≠ "") (hp : p ≠ []) :
    Path.absoluteText (root ++ p) = joined root.absoluteText p.text := by
  unfold joined
  by_cases hne : root = []
  · rw [if_pos ((absoluteText_eq_slash_iff hroot).mpr hne), hne]
    rfl
  · rw [if_neg fun h => hne ((absoluteText_eq_slash_iff hroot).mp h), Path.absoluteText,
      text_append hne hp, Path.absoluteText]
    simp only [String.append_assoc]

lemma isAbsolute_text {p : Path} (hp : SlashFreePath p) (hnames : ∀ name ∈ p, name ≠ "") :
    Path.isAbsolute p.text = false := by
  rw [Path.isAbsolute, beq_eq_false_iff_ne]
  cases p with
  | nil => simp [Path.text]
  | cons name p =>
    obtain ⟨first, chars, hfirst⟩ := List.exists_cons_of_ne_nil
      (l := name.toList) (by simpa using hnames name List.mem_cons_self)
    have hslash : first ≠ '/' := by
      rintro rfl
      exact hp name List.mem_cons_self (by simp [hfirst])
    cases p with
    | nil => simpa [Path.text, hfirst] using hslash
    | cons next p => simpa [Path.text, hfirst] using hslash

/-! ### Reading a path back -/

lemma splitSlashes_ne_nil (text : List Char) : Path.splitSlashes text ≠ [] := by
  cases text with
  | nil => simp [Path.splitSlashes]
  | cons c rest =>
    rw [Path.splitSlashes]
    split
    · simp
    · split <;> simp

lemma splitSlashes_slash (rest : List Char) :
    Path.splitSlashes ('/' :: rest) = [] :: Path.splitSlashes rest := by
  rw [Path.splitSlashes]
  cases hsplit : Path.splitSlashes rest with
  | nil => exact absurd hsplit (splitSlashes_ne_nil rest)
  | cons part parts => simp

lemma splitSlashes_cons {c : Char} (hc : c ≠ '/') {rest part : List Char} {parts : List (List Char)}
    (h : Path.splitSlashes rest = part :: parts) :
    Path.splitSlashes (c :: rest) = (c :: part) :: parts := by
  rw [Path.splitSlashes, h]
  simp [hc]

lemma splitSlashes_name {name : List Char} (h : '/' ∉ name) : Path.splitSlashes name = [name] := by
  induction name with
  | nil => rfl
  | cons c rest ih =>
    rw [List.mem_cons, not_or] at h
    exact splitSlashes_cons (Ne.symm h.1) (ih h.2)

lemma splitSlashes_append {name : List Char} (h : '/' ∉ name) (rest : List Char) :
    Path.splitSlashes (name ++ '/' :: rest) = name :: Path.splitSlashes rest := by
  induction name with
  | nil => exact splitSlashes_slash rest
  | cons c name ih =>
    rw [List.mem_cons, not_or] at h
    exact splitSlashes_cons (Ne.symm h.1) (ih h.2)

/-- The parts of a written path are its names. -/
lemma components_text {path : Path} (hpath : SlashFreePath path) (hne : path ≠ []) :
    Path.components (Path.text path) = path := by
  unfold Path.components
  induction path with
  | nil => exact absurd rfl hne
  | cons name path ih =>
    obtain ⟨hname, hrest⟩ := List.forall_mem_cons.mp hpath
    cases path with
    | nil =>
      rw [Path.text, splitSlashes_name hname]
      simp
    | cons next path =>
      have htext : (Path.text (name :: next :: path)).toList =
          name.toList ++ '/' :: (Path.text (next :: path)).toList := by
        simp [Path.text]
      rw [htext, splitSlashes_append hname, List.map_cons, ih hrest (by simp), String.ofList_toList]

lemma components_absoluteText {path : Path} (hpath : SlashFreePath path) (hne : path ≠ []) :
    Path.components (Path.absoluteText path) = "" :: path := by
  have htext : (Path.absoluteText path).toList = '/' :: (Path.text path).toList := by
    simp [Path.absoluteText]
  rw [Path.components, htext, splitSlashes_slash, List.map_cons, ← Path.components,
    components_text hpath hne]

lemma walkUpTo_empty_part {entries : List (String × Node)}
    (hroot : fs.root = .directory entries) (n : Nat) (parts : List String) :
    fs.walkUpTo n [] ("" :: parts) = fs.walkUpTo n [] parts := by
  cases n <;> simp [FileSystem.walkUpTo, FileSystem.walk, hroot, Node.at?]

lemma isAbsolute_absoluteText (place : Path) : Path.isAbsolute place.absoluteText = true := by
  simp [Path.isAbsolute, Path.absoluteText]

lemma resolve_absolute (fs : FileSystem) (path : Path) :
    fs.resolve path.absoluteText =
      fs.walkUpTo FileSystem.linkLimit [] (Path.components path.absoluteText) := by
  have hwritten : path.absoluteText ≠ "" := by simp [Path.absoluteText, String.append_eq_empty_iff]
  rw [FileSystem.resolve, if_neg hwritten, FileSystem.startOf,
    if_pos (isAbsolute_absoluteText path)]

/-- A written path names what the path resolves to. -/
theorem resolve_absoluteText {entries : List (String × Node)} (hroot : fs.root = .directory entries)
    {path : Path} (hpath : SlashFreePath path) (hne : path ≠ []) :
    fs.resolve path.absoluteText = fs.resolvePath path := by
  rw [resolve_absolute, components_absoluteText hpath hne, walkUpTo_empty_part hroot,
    FileSystem.resolvePath]

/-! ### Where files are read -/

lemma directory_of_at {root : Node} {place : Path} {entries : List (String × Node)}
    (h : root.at? place = some (.directory entries)) : ∃ top, root = .directory top := by
  cases place with
  | nil => exact ⟨entries, by simpa [Node.at?] using h⟩
  | cons name place =>
    obtain ⟨top, _, hroot, _, _⟩ := at_cons_eq_some h
    exact ⟨top, hroot⟩

/-- The path of a listed file has the names of the tree on it. -/
lemma names_of_listed {P : String → Prop} (hnames : NamesAre P fs.root) {root : Path}
    {entries : List (String × Node)} (hroot : fs.root.at? root = some (.directory entries))
    {extension : String} {p : Path} (h : Listed fs root extension p) :
    ∀ name ∈ root ++ p, P name := by
  obtain ⟨t, hreach, hway, _, _⟩ := h.reached
  rw [← hway]
  exact names_reached hnames (s := .start root) (names_at hnames hroot) hreach

lemma ne_nil_of_listed {root : Path} {extension : String} {p : Path}
    (h : Listed fs root extension p) : p ≠ [] := by
  obtain ⟨name, hname, _⟩ := h.named
  rintro rfl
  cases hname

/-- The path of a listed file can be read back. -/
lemma readable_of_listed (hslash : slashFree fs.root = true) {root : Path}
    {entries : List (String × Node)} (hroot : fs.root.at? root = some (.directory entries))
    {extension : String} {p : Path} (h : Listed fs root extension p) :
    SlashFreePath (root ++ p) ∧ root ++ p ≠ [] :=
  ⟨names_of_listed (namesAre_slashFree hslash) hroot h,
    List.append_ne_nil_of_right_ne_nil root (ne_nil_of_listed h)⟩

/-- A listed file is read from where the walk arrived. -/
theorem resolve_of_listed (hslash : slashFree fs.root = true) {root : Path}
    {entries : List (String × Node)} (hroot : fs.root.at? root = some (.directory entries))
    {extension : String} {p : Path} (h : Listed fs root extension p) :
    fs.resolve (Path.absoluteText (root ++ p)) = fs.resolvePath (root ++ p) := by
  obtain ⟨hpath, hne⟩ := readable_of_listed hslash hroot h
  obtain ⟨top, htop⟩ := directory_of_at hroot
  exact resolve_absoluteText htop hpath hne

end SyntaxCheck.Proofs
