import Mathlib.Tactic
import SyntaxCheck.FileTree.System
import SyntaxCheck.Proofs.NamedEntries

/-!
# Paths in a file tree

What a file system promises of the names in its directories, and what lies where in a tree that
keeps the promise. The places of the links of a tree are as many as `linkCount` says, which bounds
every list of different links.
-/

namespace SyntaxCheck.Proofs

/-- Whether a name can stand in a directory: it is there, it means neither the directory itself nor
the one above, and it is not too long. -/
def isProperName (name : String) : Bool :=
  name != "" && name != "." && name != ".." &&
    decide (Location.width name.toList ≤ FileSystem.nameLimit)

mutual

/-- Whether the names in every directory are proper and differ from each other. -/
def wellNamed : Node → Bool
  | .file _ => true
  | .link _ => true
  | .directory entries => decide (entries.map Prod.fst).Nodup && wellNamedEntries entries

/-- Whether all entries have proper names and are well named themselves. -/
def wellNamedEntries : List (String × Node) → Bool
  | [] => true
  | (name, node) :: rest => isProperName name && wellNamed node && wellNamedEntries rest

end

lemma not_mem_dots_of_proper {name : String} (h : isProperName name = true) :
    name ∉ ["", ".", ".."] := by
  simp only [isProperName, Bool.and_eq_true, bne_iff_ne] at h
  simp [h]

lemma width_of_proper {name : String} (h : isProperName name = true) :
    Location.width name.toList ≤ FileSystem.nameLimit := by
  rw [isProperName, Bool.and_eq_true, decide_eq_true_iff] at h
  exact h.2

lemma wellNamedEntries_iff (entries : List (String × Node)) :
    wellNamedEntries entries = true ↔
      ∀ e ∈ entries, isProperName e.1 = true ∧ wellNamed e.2 = true := by
  induction entries with
  | nil => simp [wellNamedEntries]
  | cons e rest ih =>
    rw [wellNamedEntries, Bool.and_eq_true, Bool.and_eq_true, ih, List.forall_mem_cons]

lemma wellNamed_directory_iff (entries : List (String × Node)) :
    wellNamed (.directory entries) = true ↔
      (entries.map Prod.fst).Nodup ∧
        ∀ e ∈ entries, isProperName e.1 = true ∧ wellNamed e.2 = true := by
  rw [wellNamed, Bool.and_eq_true, decide_eq_true_iff, wellNamedEntries_iff]

@[elab_as_elim]
theorem node_induction {motive : Node → Prop} (file : ∀ content, motive (.file content))
    (link : ∀ target, motive (.link target))
    (directory : ∀ entries, (∀ e ∈ entries, motive e.2) → motive (.directory entries))
    (node : Node) : motive node := by
  match node with
  | .file content => exact file content
  | .link target => exact link target
  | .directory entries =>
    apply directory
    intro e he
    have hentry : sizeOf e < sizeOf entries := List.sizeOf_lt_of_mem he
    have hnode : sizeOf e.2 < sizeOf e := by
      obtain ⟨name, node⟩ := e
      change sizeOf node < sizeOf (name, node)
      rw [Prod.mk.sizeOf_spec]
      omega
    exact node_induction file link directory e.2
termination_by sizeOf node
decreasing_by
  rw [Node.directory.sizeOf_spec]
  omega

/-! ### Paths -/

/-- A path that is not empty goes through an entry of a directory. -/
lemma at_cons_eq_some {start node : Node} {name : String} {p : Path}
    (h : start.at? (name :: p) = some node) :
    ∃ entries child, start = .directory entries ∧ entries.lookup name = some child ∧
      child.at? p = some node := by
  rw [Node.at?] at h
  cases start with
  | file content => simp [Node.child?, Node.entries] at h
  | link target => simp [Node.child?, Node.entries] at h
  | directory entries =>
    cases hentry : entries.lookup name with
    | none => simp [Node.child?, Node.entries, hentry] at h
    | some child =>
      rw [Node.child?, Node.entries, hentry] at h
      exact ⟨entries, child, rfl, hentry, h⟩

lemma at_append (node : Node) (p q : Path) :
    node.at? (p ++ q) = (node.at? p).bind fun inner => inner.at? q := by
  induction p generalizing node with
  | nil => rfl
  | cons name p ih =>
    rw [List.cons_append, Node.at?, Node.at?]
    cases node.child? name with
    | none => rfl
    | some child => exact ih child

lemma exists_above {root node : Node} {p q : Path} (h : root.at? (p ++ q) = some node) :
    ∃ above, root.at? p = some above ∧ above.at? q = some node := by
  rw [at_append] at h
  exact Option.bind_eq_some_iff.mp h

lemma entry_of_at {root node : Node} {place : Path} {name : String}
    (h : root.at? (place ++ [name]) = some node) :
    ∃ entries, root.at? place = some (.directory entries) ∧ entries.lookup name = some node := by
  obtain ⟨above, habove, hbelow⟩ := exists_above h
  obtain ⟨entries, child, rfl, hentry, hchild⟩ := at_cons_eq_some hbelow
  rw [Node.at?, Option.some.injEq] at hchild
  exact ⟨entries, habove, hchild ▸ hentry⟩

lemma at_entry {root : Node} {place : Path} {entries : List (String × Node)} {name : String}
    {node : Node} (hplace : root.at? place = some (.directory entries))
    (hentry : entries.lookup name = some node) : root.at? (place ++ [name]) = some node := by
  rw [at_append, hplace, Option.bind_some, Node.at?, Node.child?, Node.entries, hentry]
  rfl

lemma wellNamed_at {root node : Node} {place : Path} (hroot : wellNamed root = true)
    (h : root.at? place = some node) : wellNamed node = true := by
  induction place generalizing root with
  | nil =>
    obtain rfl : root = node := by simpa [Node.at?] using h
    exact hroot
  | cons name place ih =>
    obtain ⟨entries, child, rfl, hentry, hbelow⟩ := at_cons_eq_some h
    have hentries := ((wellNamed_directory_iff entries).mp hroot).2
    exact ih (hentries _ (mem_of_lookup hentry)).2 hbelow

lemma isProperName_of_lookup {root : Node} {place : Path} {entries : List (String × Node)}
    {name : String} {node : Node} (hroot : wellNamed root = true)
    (hplace : root.at? place = some (.directory entries))
    (hentry : entries.lookup name = some node) : isProperName name = true :=
  (((wellNamed_directory_iff entries).mp (wellNamed_at hroot hplace)).2 _
    (mem_of_lookup hentry)).1

/-! ### The names of a tree -/

/-- What holds of the name of every entry in a tree. -/
def NamesAre (P : String → Prop) (root : Node) : Prop :=
  ∀ ⦃place entries name node⦄, root.at? place = some (.directory entries) →
    entries.lookup name = some node → P name

lemma names_at {P : String → Prop} {root node : Node} {place : Path} (h : NamesAre P root)
    (hnode : root.at? place = some node) : ∀ name ∈ place, P name := by
  induction place using List.reverseRecOn generalizing node with
  | nil => simp
  | append_singleton front last ih =>
    obtain ⟨entries, hfront, hlast⟩ := entry_of_at hnode
    intro name hname
    rcases List.mem_append.mp hname with hname | hname
    · exact ih hfront name hname
    · rw [List.mem_singleton.mp hname]
      exact h hfront hlast

lemma namesAre_proper {root : Node} (hroot : wellNamed root = true) :
    NamesAre (fun name => isProperName name = true) root :=
  fun _ _ _ _ hplace hentry => isProperName_of_lookup hroot hplace hentry

lemma isProperName_of_at {root node : Node} {place : Path} (hroot : wellNamed root = true)
    (h : root.at? place = some node) : ∀ part ∈ place, isProperName part = true :=
  names_at (namesAre_proper hroot) h

mutual

/-- Whether every name in a tree passes a test. -/
def everyName (test : String → Bool) : Node → Bool
  | .file _ => true
  | .link _ => true
  | .directory entries => everyNameOf test entries

/-- Whether the names of all entries, and the names below them, pass a test. -/
def everyNameOf (test : String → Bool) : List (String × Node) → Bool
  | [] => true
  | (name, node) :: rest => test name && everyName test node && everyNameOf test rest

end

section EveryName

variable {test : String → Bool}

lemma everyNameOf_iff (entries : List (String × Node)) :
    everyNameOf test entries = true ↔
      ∀ e ∈ entries, test e.1 = true ∧ everyName test e.2 = true := by
  induction entries with
  | nil => simp [everyNameOf]
  | cons e rest ih =>
    rw [everyNameOf, Bool.and_eq_true, Bool.and_eq_true, ih, List.forall_mem_cons]

lemma everyName_at {root node : Node} {place : Path} (hroot : everyName test root = true)
    (h : root.at? place = some node) : everyName test node = true := by
  induction place generalizing root with
  | nil =>
    obtain rfl : root = node := by simpa [Node.at?] using h
    exact hroot
  | cons name place ih =>
    obtain ⟨entries, child, rfl, hentry, hbelow⟩ := at_cons_eq_some h
    exact ih ((everyNameOf_iff entries).mp hroot _ (mem_of_lookup hentry)).2 hbelow

lemma namesAre_of_everyName {root : Node} (h : everyName test root = true) :
    NamesAre (fun name => test name = true) root := by
  intro place entries name node hplace hentry
  exact ((everyNameOf_iff entries).mp (everyName_at h hplace) _ (mem_of_lookup hentry)).1

end EveryName

/-! ### Places without links -/

/-- A directory stands at the place. -/
def DirectoryAt (fs : FileSystem) (place : Path) : Prop :=
  ∃ entries, fs.root.at? place = some (.directory entries)

/-- A node that can be entered: no link stands there. -/
def IsReal (node : Node) : Prop :=
  ∀ target, node ≠ .link target

lemma isReal_file (content : List UInt8) : IsReal (.file content) := by
  intro target h
  cases h

lemma isReal_directory (entries : List (String × Node)) : IsReal (.directory entries) := by
  intro target h
  cases h

/-- No link lies on the way to what is found without following links. -/
lemma isReal_of_at {start node : Node} {p : Path} (hnode : start.at? p = some node)
    (hreal : IsReal node) : IsReal start := by
  intro target hstart
  subst hstart
  cases p with
  | nil =>
    obtain rfl : Node.link target = node := by simpa [Node.at?] using hnode
    exact hreal target rfl
  | cons name p =>
    obtain ⟨entries, child, hdirectory, _, _⟩ := at_cons_eq_some hnode
    cases hdirectory

/-! ### Trees that are built -/

lemma fst_mem_setEntry {name other : String} {child : Node} {entries : List (String × Node)} :
    other ∈ (Node.setEntry name child entries).map Prod.fst ↔
      other = name ∨ other ∈ entries.map Prod.fst := by
  induction entries with
  | nil => simp [Node.setEntry]
  | cons e rest ih =>
    rw [Node.setEntry]
    by_cases hname : e.1 = name
    · rw [if_pos hname]
      simp [hname]
    · rw [if_neg hname, List.map_cons, List.mem_cons, ih, List.map_cons, List.mem_cons]
      tauto

lemma nodup_setEntry (name : String) (child : Node) {entries : List (String × Node)}
    (h : (entries.map Prod.fst).Nodup) :
    ((Node.setEntry name child entries).map Prod.fst).Nodup := by
  induction entries with
  | nil => simp [Node.setEntry]
  | cons e rest ih =>
    rw [List.map_cons, List.nodup_cons] at h
    rw [Node.setEntry]
    by_cases hname : e.1 = name
    · rw [if_pos hname, List.map_cons, List.nodup_cons, ← hname]
      exact h
    · rw [if_neg hname, List.map_cons, List.nodup_cons, fst_mem_setEntry, not_or]
      exact ⟨⟨hname, h.1⟩, ih h.2⟩

lemma mem_setEntry {name : String} {child : Node} {entries : List (String × Node)}
    {e : String × Node} (h : e ∈ Node.setEntry name child entries) :
    e = (name, child) ∨ e ∈ entries := by
  induction entries with
  | nil => simpa [Node.setEntry] using h
  | cons other rest ih =>
    rw [Node.setEntry] at h
    by_cases hname : other.1 = name
    · rw [if_pos hname] at h
      rcases List.mem_cons.mp h with rfl | h
      · exact Or.inl rfl
      · exact Or.inr (List.mem_cons_of_mem _ h)
    · rw [if_neg hname] at h
      rcases List.mem_cons.mp h with rfl | h
      · exact Or.inr List.mem_cons_self
      · exact (ih h).imp_right (List.mem_cons_of_mem _)

lemma wellNamed_entries {node : Node} (h : wellNamed node = true) :
    (node.entries.map Prod.fst).Nodup ∧
      ∀ e ∈ node.entries, isProperName e.1 = true ∧ wellNamed e.2 = true := by
  cases node with
  | file content => simp [Node.entries]
  | link target => simp [Node.entries]
  | directory entries => exact (wellNamed_directory_iff entries).mp h

lemma wellNamed_child {node : Node} (h : wellNamed node = true) (name : String) :
    wellNamed ((node.child? name).getD Node.empty) = true := by
  cases hchild : node.child? name with
  | none => rfl
  | some child => exact ((wellNamed_entries h).2 _ (mem_of_lookup hchild)).2

/-- A tree that is built node by node, under proper names, is well named. -/
theorem wellNamed_insert {child node : Node} {p : Path} (hchild : wellNamed child = true)
    (hnode : wellNamed node = true) (hp : ∀ name ∈ p, isProperName name = true) :
    wellNamed (Node.insert child p node) = true := by
  induction p generalizing node with
  | nil => exact hchild
  | cons name p ih =>
    rw [List.forall_mem_cons] at hp
    obtain ⟨hnames, hentries⟩ := wellNamed_entries hnode
    rw [Node.insert, wellNamed_directory_iff]
    refine ⟨nodup_setEntry _ _ hnames, ?_⟩
    intro e he
    rcases mem_setEntry he with rfl | he
    · exact ⟨hp.1, ih (wellNamed_child hnode name) hp.2⟩
    · exact hentries e he

/-! ### The places of links -/

mutual

/-- The places of the links of a tree that stands at `here`. -/
def linkPlaces (here : Path) : Node → List Path
  | .file _ => []
  | .link _ => [here]
  | .directory entries => linkPlacesOf here entries

/-- The places of the links of the entries of a directory that stands at `here`. -/
def linkPlacesOf (here : Path) : List (String × Node) → List Path
  | [] => []
  | (name, node) :: rest => linkPlaces (here ++ [name]) node ++ linkPlacesOf here rest

end

mutual

lemma length_linkPlaces (here : Path) (node : Node) :
    (linkPlaces here node).length = node.linkCount := by
  cases node with
  | file content => rfl
  | link target => rfl
  | directory entries => exact length_linkPlacesOf here entries

lemma length_linkPlacesOf (here : Path) (entries : List (String × Node)) :
    (linkPlacesOf here entries).length = Node.linkCountOf entries := by
  match entries with
  | [] => rfl
  | (name, node) :: rest =>
    rw [linkPlacesOf, List.length_append, length_linkPlaces, length_linkPlacesOf, Node.linkCountOf]

end

lemma linkPlaces_subset_of_mem (here : Path) {entries : List (String × Node)} {name : String}
    {node : Node} (h : (name, node) ∈ entries) :
    linkPlaces (here ++ [name]) node ⊆ linkPlacesOf here entries := by
  induction entries with
  | nil => cases h
  | cons e rest ih =>
    rw [linkPlacesOf]
    rcases List.mem_cons.mp h with heq | hrest
    · subst heq
      exact List.subset_append_left _ _
    · exact List.subset_append_of_subset_right _ (ih hrest)

lemma mem_linkPlaces {node : Node} {place : Path} {target : String} (here : Path)
    (h : node.at? place = some (.link target)) : here ++ place ∈ linkPlaces here node := by
  induction place generalizing node here with
  | nil =>
    obtain rfl : node = .link target := by simpa [Node.at?] using h
    simp [linkPlaces]
  | cons name place ih =>
    obtain ⟨entries, child, rfl, hentry, hbelow⟩ := at_cons_eq_some h
    have hmem := ih (here ++ [name]) hbelow
    rw [List.append_assoc, List.singleton_append] at hmem
    exact linkPlaces_subset_of_mem here (mem_of_lookup hentry) hmem

/-- Different links are at most as many as the tree has. -/
lemma length_le_linkCount {root : Node} {places : List Path} (hnodup : places.Nodup)
    (hlinks : ∀ q ∈ places, ∃ target, root.at? q = some (.link target)) :
    places.length ≤ root.linkCount := by
  rw [← length_linkPlaces [] root]
  apply List.Nodup.length_le_of_subset hnodup
  intro q hq
  obtain ⟨target, htarget⟩ := hlinks q hq
  exact mem_linkPlaces [] htarget

end SyntaxCheck.Proofs
