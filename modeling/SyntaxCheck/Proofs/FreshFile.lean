import Mathlib.Tactic
import SyntaxCheck.Proofs.PutFile

/-!
# A file under a free name

A file is put under a free name into a directory to which, and above which, no link leads. Whatever
was in the tree is where it was, paths resolve to where they did, and the tree has as many links.
-/

namespace SyntaxCheck.Proofs

variable {fs : FileSystem}

/-- A name that is free in a directory. No link leads to the directory or to one above it, and no
link that leads nowhere leads to the new file when it is there. -/
structure FreshFile (fs : FileSystem) (dir : Path) (name : String) (bytes : List UInt8) : Prop where
  free : ∃ entries, fs.root.at? dir = some (.directory entries) ∧ entries.lookup name = none
  proper : isProperName name = true
  slash_free : '/' ∉ name.toList
  no_link_above : ∀ q target stop, fs.root.at? q = some (.link target) →
    fs.resolvePath q = .ok stop → ¬ stop <+: dir
  no_dangling_link : ∀ q target error, fs.root.at? q = some (.link target) →
    fs.resolvePath q = .error error →
    (putFile fs (dir ++ [name]) bytes).resolvePath q ≠ .ok (dir ++ [name])

section Fresh

variable {dir : Path} {name : String} {bytes : List UInt8}

/-! ### The tree with the new file -/

lemma nothing_at_new (h : FreshFile fs dir name bytes) : fs.root.at? (dir ++ [name]) = none := by
  obtain ⟨entries, hdir, hfree⟩ := h.free
  rw [at_append, hdir, Option.bind_some, Node.at?, Node.child?, Node.entries, hfree]

lemma exists_on_way (h : FreshFile fs dir name bytes) {place : Path} (hplace : place <+: dir) :
    ∃ entries, fs.root.at? place = some (.directory entries) := by
  obtain ⟨rest, rfl⟩ := hplace
  obtain ⟨entries, hdir, _⟩ := h.free
  obtain ⟨above, habove, hbelow⟩ := exists_above hdir
  cases rest with
  | nil => exact ⟨entries, by simpa using hdir⟩
  | cons next rest =>
    obtain ⟨entries, _, rfl, _, _⟩ := at_cons_eq_some hbelow
    exact ⟨entries, habove⟩

lemma at_putFile_on_way {place rest : Path} {node : Node} (hplace : fs.root.at? place = some node) :
    (putFile fs (place ++ rest ++ [name]) bytes).root.at? place =
      some (Node.insert (.file bytes) (rest ++ [name]) node) := by
  rw [putFile, List.append_assoc]
  exact at_insert_above _ place _ hplace

lemma prefix_or_eq_of_prefix_concat {place : Path} (h : place <+: dir ++ [name]) :
    place = dir ++ [name] ∨ place <+: dir :=
  List.prefix_concat_iff.mp h

/-- What was somewhere is there still, unless the new file lies below it. -/
lemma at_putFile_apart (h : FreshFile fs dir name bytes) {place : Path} {node : Node}
    (hplace : fs.root.at? place = some node) (hapart : ¬ place <+: dir) :
    (putFile fs (dir ++ [name]) bytes).root.at? place = some node := by
  have hbelow : ¬ dir ++ [name] <+: place := by
    rintro ⟨rest, rfl⟩
    obtain ⟨above, habove, _⟩ := exists_above hplace
    rw [nothing_at_new h] at habove
    cases habove
  have habove : ¬ place <+: dir ++ [name] := by
    intro hprefix
    rcases prefix_or_eq_of_prefix_concat hprefix with rfl | hprefix
    · exact hbelow List.prefix_rfl
    · exact hapart hprefix
  rw [putFile, at_insert_apart _ hbelow habove, hplace]

lemma newFileAt (h : FreshFile fs dir name bytes) :
    NewFileAt fs (putFile fs (dir ++ [name]) bytes) (dir ++ [name]) := by
  have hnow : (putFile fs (dir ++ [name]) bytes).root.at? (dir ++ [name]) = some (.file bytes) :=
    at_insert_self _ _ _
  refine ⟨by simp [kindAt, nothing_at_new h], by simp [kindAt, hnow, kindOf], ?_⟩
  intro place hplace
  by_cases hway : place <+: dir
  · obtain ⟨entries, hentries⟩ := exists_on_way h hway
    obtain ⟨rest, rfl⟩ := hway
    rw [kindAt, kindAt, at_putFile_on_way hentries, hentries]
    cases rest <;> rfl
  cases hnode : fs.root.at? place with
  | some node => rw [kindAt, kindAt, at_putFile_apart h hnode hway, hnode]
  | none =>
    -- Below a file there is nothing either.
    have hnone : (putFile fs (dir ++ [name]) bytes).root.at? place = none := by
      by_cases hunder : dir ++ [name] <+: place
      · obtain ⟨rest, rfl⟩ := hunder
        cases rest with
        | nil => simp at hplace
        | cons next rest => exact at_below_file hnow next rest
      · rw [putFile, at_insert_apart _ hunder, hnode]
        intro hprefix
        rcases prefix_or_eq_of_prefix_concat hprefix with heq | hprefix
        · exact hplace heq
        · exact hway hprefix
    rw [kindAt, kindAt, hnone, hnode]

/-- Directories are where they were. -/
lemma directory_putFile (h : FreshFile fs dir name bytes) {place : Path}
    {entries : List (String × Node)} (hplace : fs.root.at? place = some (.directory entries)) :
    ∃ entries', (putFile fs (dir ++ [name]) bytes).root.at? place = some (.directory entries') :=
  kindAt_directory_iff.mp
    (kindAt_of_some (newFileAt h) (kindAt_directory_iff.mpr ⟨entries, hplace⟩))

/-- Files are where they were, and have in them what they had. -/
lemma file_putFile (h : FreshFile fs dir name bytes) {place : Path} {content : List UInt8}
    (hplace : fs.root.at? place = some (.file content)) :
    (putFile fs (dir ++ [name]) bytes).root.at? place = some (.file content) := by
  refine at_putFile_apart h hplace fun hway => ?_
  obtain ⟨entries, hentries⟩ := exists_on_way h hway
  rw [hplace] at hentries
  cases hentries

lemma wellNamed_putFile (hwell : wellNamed fs.root = true) (h : FreshFile fs dir name bytes) :
    wellNamed (putFile fs (dir ++ [name]) bytes).root = true := by
  obtain ⟨entries, hdir, _⟩ := h.free
  refine wellNamed_insert rfl hwell ?_
  intro part hpart
  rcases List.mem_append.mp hpart with hpart | hpart
  · exact isProperName_of_at hwell hdir part hpart
  · rw [List.mem_singleton.mp hpart]
    exact h.proper

lemma setEntry_eq_append {child : Node} {entries : List (String × Node)}
    (hfree : entries.lookup name = none) :
    Node.setEntry name child entries = entries ++ [(name, child)] := by
  induction entries with
  | nil => rfl
  | cons e rest ih =>
    rw [List.lookup_cons] at hfree
    by_cases hname : e.1 = name
    · simp [hname] at hfree
    · have hbeq : (name == e.1) = false := beq_false_of_ne (Ne.symm hname)
      rw [hbeq] at hfree
      rw [Node.setEntry, if_neg hname, ih hfree, List.cons_append]

lemma setEntry_eq_map {old new : Node} {entries : List (String × Node)}
    (hnames : (entries.map Prod.fst).Nodup) (hentry : entries.lookup name = some old) :
    Node.setEntry name new entries =
      entries.map fun e => (e.1, if e.1 = name then new else e.2) := by
  induction entries with
  | nil => cases hentry
  | cons e rest ih =>
    rw [List.map_cons, List.nodup_cons] at hnames
    rw [Node.setEntry, List.map_cons]
    by_cases hname : e.1 = name
    · -- No other entry has the name.
      have hkept : ∀ other ∈ rest,
          (other.1, if other.1 = name then new else other.2) = id other := by
        intro other hother
        rw [if_neg, id]
        intro heq
        exact hnames.1 (hname.trans heq.symm ▸ List.mem_map_of_mem hother)
      rw [if_pos hname, if_pos hname, List.map_congr_left hkept, List.map_id, hname]
    · have hbeq : (name == e.1) = false := beq_false_of_ne (Ne.symm hname)
      rw [List.lookup_cons, hbeq] at hentry
      rw [if_neg hname, if_neg hname, ih hnames.2 hentry]

lemma linkCountOf_append (a b : List (String × Node)) :
    Node.linkCountOf (a ++ b) = Node.linkCountOf a + Node.linkCountOf b := by
  induction a with
  | nil => simp [Node.linkCountOf]
  | cons e rest ih =>
    rw [List.cons_append, Node.linkCountOf, Node.linkCountOf, ih]
    omega

lemma linkCountOf_setEntry {old new : Node} {entries : List (String × Node)}
    (hentry : entries.lookup name = some old) (hsame : new.linkCount = old.linkCount) :
    Node.linkCountOf (Node.setEntry name new entries) = Node.linkCountOf entries := by
  induction entries with
  | nil => cases hentry
  | cons e rest ih =>
    rw [Node.setEntry]
    by_cases hname : e.1 = name
    · subst hname
      rw [List.lookup_cons_self] at hentry
      rw [if_pos rfl, Node.linkCountOf, Node.linkCountOf, hsame, Option.some.inj hentry]
    · have hbeq : (name == e.1) = false := beq_false_of_ne (Ne.symm hname)
      rw [List.lookup_cons, hbeq] at hentry
      rw [if_neg hname, Node.linkCountOf, Node.linkCountOf, ih hentry]

lemma linkCount_insert {root : Node} {entries : List (String × Node)}
    (hdir : root.at? dir = some (.directory entries)) (hfree : entries.lookup name = none) :
    (Node.insert (.file bytes) (dir ++ [name]) root).linkCount = root.linkCount := by
  induction dir generalizing root with
  | nil =>
    obtain rfl : root = .directory entries := by simpa [Node.at?] using hdir
    rw [List.nil_append, Node.insert, Node.entries, setEntry_eq_append hfree, Node.linkCount,
      linkCountOf_append, Node.linkCount]
    rfl
  | cons next dir ih =>
    obtain ⟨above, child, rfl, hentry, hbelow⟩ := at_cons_eq_some hdir
    rw [List.cons_append, Node.insert, Node.child?, Node.entries, hentry, Option.getD_some,
      Node.linkCount, linkCountOf_setEntry hentry (ih hbelow), Node.linkCount]

lemma linkCount_putFile (h : FreshFile fs dir name bytes) :
    (putFile fs (dir ++ [name]) bytes).root.linkCount = fs.root.linkCount := by
  obtain ⟨entries, hdir, hfree⟩ := h.free
  exact linkCount_insert hdir hfree

/-! ### Where links lead -/

/-- No link leads to the new file. -/
lemma not_link_to_new (h : FreshFile fs dir name bytes) {q : Path} {target : String}
    (hq : fs.root.at? q = some (.link target)) :
    (putFile fs (dir ++ [name]) bytes).resolvePath q ≠ .ok (dir ++ [name]) := by
  cases hresolve : fs.resolvePath q with
  | error error => exact h.no_dangling_link q target error hq hresolve
  | ok stop =>
    -- The link ends where it ended before, and there was no new file to end at.
    rw [resolvePath_newFile (newFileAt h) hresolve]
    rintro heq
    obtain ⟨node, hnode⟩ := exists_of_resolvePath hresolve
    rw [Except.ok.inj heq, nothing_at_new h] at hnode
    cases hnode

end Fresh

end SyntaxCheck.Proofs
