import Mathlib.Tactic
import SyntaxCheck.Proofs.PutFile
import SyntaxCheck.Proofs.WalkWays
import SyntaxCheck.Run.Basic

/-!
# What a walk sees of a tree

Resolution and walks look at names, links and directories, but neither into a file nor at the order
in which a directory lists its entries. So all that they see of a tree are the kinds of what stands
at its paths. Trees in which the same kinds stand at the same paths are walked in the same way.
-/

namespace SyntaxCheck.Proofs

variable {fs fs' : FileSystem}

/-- The same kinds of node stand at the same paths. -/
def SameKinds (a b : Node) : Prop :=
  ∀ p, (a.at? p).map kindOf = (b.at? p).map kindOf

lemma sameKinds_symm {a b : Node} (h : SameKinds a b) : SameKinds b a :=
  fun p => (h p).symm

lemma kindOf_of_sameKinds {a b : Node} (h : SameKinds a b) : kindOf a = kindOf b :=
  Option.some.inj (h [])

/-- What stands at a path of one tree stands at that path of the other. -/
lemma sameKinds_at {a b x : Node} (h : SameKinds a b) {p : Path} (hx : a.at? p = some x) :
    ∃ y, b.at? p = some y ∧ SameKinds x y := by
  have hp := h p
  rw [hx, Option.map_some] at hp
  obtain ⟨y, hy, _⟩ := Option.map_eq_some_iff.mp hp.symm
  refine ⟨y, hy, fun q => ?_⟩
  have hq := h (p ++ q)
  rwa [at_append, at_append, hx, hy, Option.bind_some, Option.bind_some] at hq

lemma at_eq_none_of_sameKinds {a b : Node} (h : SameKinds a b) {p : Path} (hp : a.at? p = none) :
    b.at? p = none := by
  have hkind := h p
  rw [hp, Option.map_none] at hkind
  exact Option.map_eq_none_iff.mp hkind.symm

lemma sameKinds_file {content : List UInt8} {b : Node} (h : SameKinds (.file content) b) :
    ∃ content', b = .file content' := by
  have hkind := kindOf_of_sameKinds h
  cases b with
  | file content' => exact ⟨content', rfl⟩
  | _ => cases hkind

lemma sameKinds_link {target : String} {b : Node} (h : SameKinds (.link target) b) :
    b = .link target := by
  have hkind := kindOf_of_sameKinds h
  cases b with
  | link other => rw [NodeKind.link.inj hkind]
  | _ => cases hkind

lemma sameKinds_directory {entries : List (String × Node)} {b : Node}
    (h : SameKinds (.directory entries) b) : ∃ entries', b = .directory entries' := by
  have hkind := kindOf_of_sameKinds h
  cases b with
  | directory entries' => exact ⟨entries', rfl⟩
  | _ => cases hkind

lemma at_singleton (entries : List (String × Node)) (name : String) :
    (Node.directory entries).at? [name] = entries.lookup name := by
  rw [Node.at?, Node.child?, Node.entries]
  cases entries.lookup name <;> rfl

lemma at_directory_cons (entries : List (String × Node)) (name : String) (p : Path) :
    (Node.directory entries).at? (name :: p) =
      (entries.lookup name).bind fun child => child.at? p := by
  rw [← List.singleton_append, at_append, at_singleton]

/-! ### Entries -/

section Entries

variable {entries entries' : List (String × Node)} {β : Type}

lemma mem_of_sameKinds (h : SameKinds (.directory entries) (.directory entries'))
    (hnames : (entries.map Prod.fst).Nodup) {name : String} {x : Node} (hx : (name, x) ∈ entries) :
    ∃ y, (name, y) ∈ entries' ∧ SameKinds x y := by
  have hlisted : (Node.directory entries).at? [name] = some x := by
    rw [at_singleton, lookup_of_mem hnames hx]
  obtain ⟨y, hy, hsame⟩ := sameKinds_at h hlisted
  rw [at_singleton] at hy
  exact ⟨y, mem_of_lookup hy, hsame⟩

lemma map_subset_of_sameKinds (h : SameKinds (.directory entries) (.directory entries'))
    (hnames : (entries.map Prod.fst).Nodup) {f g : String × Node → β}
    (hfg : ∀ name x y, (name, x) ∈ entries → (name, y) ∈ entries' → SameKinds x y →
      f (name, x) = g (name, y)) :
    (entries.map fun e => (e.1, f e)) ⊆ entries'.map fun e => (e.1, g e) := by
  intro value hvalue
  obtain ⟨⟨name, x⟩, hx, rfl⟩ := List.mem_map.mp hvalue
  obtain ⟨y, hy, hsame⟩ := mem_of_sameKinds h hnames hx
  exact List.mem_map.mpr ⟨(name, y), hy, by rw [hfg name x y hx hy hsame]⟩

lemma nodup_map_entries (hnames : (entries.map Prod.fst).Nodup) (f : String × Node → β) :
    (entries.map fun e => (e.1, f e)).Nodup := by
  refine List.Nodup.of_map Prod.fst ?_
  rwa [List.map_map]

/-- What the entries of a directory are made into, under their names, differs at most in order. -/
theorem map_perm_of_sameKinds (h : SameKinds (.directory entries) (.directory entries'))
    (hnames : (entries.map Prod.fst).Nodup) (hnames' : (entries'.map Prod.fst).Nodup)
    {f g : String × Node → β}
    (hfg : ∀ name x y, (name, x) ∈ entries → (name, y) ∈ entries' → SameKinds x y →
      f (name, x) = g (name, y)) :
    (entries.map fun e => (e.1, f e)).Perm (entries'.map fun e => (e.1, g e)) := by
  rw [List.perm_ext_iff_of_nodup (nodup_map_entries hnames f) (nodup_map_entries hnames' g)]
  intro value
  constructor
  · exact fun hvalue => map_subset_of_sameKinds h hnames hfg hvalue
  · refine fun hvalue => map_subset_of_sameKinds (sameKinds_symm h) hnames' ?_ hvalue
    intro name y x hy hx hsame
    exact (hfg name x y hx hy (sameKinds_symm hsame)).symm

end Entries

lemma linkCountOf_eq_sum (entries : List (String × Node)) :
    Node.linkCountOf entries = (entries.map fun e => e.2.linkCount).sum := by
  induction entries with
  | nil => rfl
  | cons e rest ih => rw [Node.linkCountOf, ih, List.map_cons, List.sum_cons]

lemma linkCount_of_sameKinds {a b : Node} (h : SameKinds a b) (ha : wellNamed a = true)
    (hb : wellNamed b = true) : a.linkCount = b.linkCount := by
  induction a using node_induction generalizing b with
  | file content =>
    obtain ⟨content', rfl⟩ := sameKinds_file h
    rfl
  | link target =>
    rw [sameKinds_link h]
  | directory entries ih =>
    obtain ⟨entries', rfl⟩ := sameKinds_directory h
    rw [wellNamed_directory_iff] at ha hb
    have hperm := map_perm_of_sameKinds h ha.1 hb.1 (f := fun e => e.2.linkCount)
      (g := fun e => e.2.linkCount) fun name x y hx hy hsame =>
        ih _ hx hsame (ha.2 _ hx).2 (hb.2 _ hy).2
    have hsum := (hperm.map Prod.snd).sum_eq
    rw [List.map_map, List.map_map] at hsum
    rw [Node.linkCount, Node.linkCount, linkCountOf_eq_sum, linkCountOf_eq_sum]
    exact hsum

/-! ### Resolution -/

lemma walkUpTo_of_sameKinds (h : SameKinds fs.root fs'.root) (n : Nat) :
    fs'.walkUpTo n = fs.walkUpTo n :=
  walkUpTo_eq_of_kindAt (sameKinds_symm h) n

lemma resolvePath_of_sameKinds (h : SameKinds fs.root fs'.root) (path : Path) :
    fs'.resolvePath path = fs.resolvePath path := by
  rw [FileSystem.resolvePath, walkUpTo_of_sameKinds h, FileSystem.resolvePath]

lemma resolve_of_sameKinds (h : SameKinds fs.root fs'.root) (hcurrent : fs'.current = fs.current)
    (text : String) : fs'.resolve text = fs.resolve text := by
  rw [FileSystem.resolve, FileSystem.resolve, walkUpTo_of_sameKinds h, hcurrent]

lemma isDirectory_eq_kindAt (fs : FileSystem) (place : Path) :
    (fs.root.at? place).any Node.isDirectory = (kindAt fs place == some .directory) := by
  unfold kindAt
  cases fs.root.at? place with
  | none => rfl
  | some node => cases node <;> rfl

theorem resolveRoot_of_sameKinds (h : SameKinds fs.root fs'.root)
    (hcurrent : fs'.current = fs.current) (text : String) :
    resolveRoot fs' text = resolveRoot fs text := by
  have hkind : ∀ place, kindAt fs' place = kindAt fs place := sameKinds_symm h
  unfold resolveRoot
  simp only [resolve_of_sameKinds h hcurrent, isDirectory_eq_kindAt, hkind]

/-! ### Walks -/

/-- Two ways to go on from the ends of links that come upon the same where the same kinds stand. -/
def SameDescent (descend descend' : List Walk.OpenDirectory → Path → Path → Node → List Sighting) :
    Prop :=
  ∀ opened place way node node', SameKinds node node' → wellNamed node = true →
    wellNamed node' = true → descend' opened place way node' = descend opened place way node

section Visits

variable {descend descend' : List Walk.OpenDirectory → Path → Path → Node → List Sighting}

lemma visitLink_of_sameKinds (h : SameKinds fs.root fs'.root) (hwell : wellNamed fs.root = true)
    (hwell' : wellNamed fs'.root = true) (hsame : SameDescent descend descend')
    (opened : List Walk.OpenDirectory) (way : Path) :
    Walk.visitLink fs' descend' opened way = Walk.visitLink fs descend opened way := by
  unfold Walk.visitLink
  rw [resolvePath_of_sameKinds h]
  cases fs.resolvePath way with
  | error e => rfl
  | ok place =>
    dsimp only
    cases hstop : fs.root.at? place with
    | none => rw [at_eq_none_of_sameKinds h hstop]
    | some x =>
      obtain ⟨y, hy, hxy⟩ := sameKinds_at h hstop
      rw [hy]
      cases x with
      | file content =>
        obtain ⟨content', rfl⟩ := sameKinds_file hxy
        rfl
      | link target => rw [sameKinds_link hxy]
      | directory entries =>
        obtain ⟨entries', rfl⟩ := sameKinds_directory hxy
        dsimp only
        rw [hsame opened place way _ _ hxy (wellNamed_at hwell hstop) (wellNamed_at hwell' hy)]

lemma visit_of_sameKinds (h : SameKinds fs.root fs'.root) (hwell : wellNamed fs.root = true)
    (hwell' : wellNamed fs'.root = true) (hsame : SameDescent descend descend') :
    SameDescent (Walk.visit fs descend) (Walk.visit fs' descend') := by
  intro opened place way node node' hnode hwellNode hwellNode'
  induction node using node_induction generalizing opened place way node' with
  | file content =>
    obtain ⟨content', rfl⟩ := sameKinds_file hnode
    rfl
  | link target =>
    rw [sameKinds_link hnode]
    exact visitLink_of_sameKinds h hwell hwell' hsame opened way
  | directory entries ih =>
    obtain ⟨entries', rfl⟩ := sameKinds_directory hnode
    rw [wellNamed_directory_iff] at hwellNode hwellNode'
    rw [Walk.visit, Walk.visit, visitEntries_eq_map, visitEntries_eq_map]
    -- The entries are visited under their names, and arranging them forgets how they were listed.
    have hperm := map_perm_of_sameKinds hnode hwellNode.1 hwellNode'.1
      (f := fun e => Walk.visit fs descend (⟨place, way⟩ :: opened) (place ++ [e.1])
        (way ++ [e.1]) e.2)
      (g := fun e => Walk.visit fs' descend' (⟨place, way⟩ :: opened) (place ++ [e.1])
        (way ++ [e.1]) e.2) fun name x y hx hy hxy =>
        (ih _ hx _ _ _ y hxy (hwellNode.2 _ hx).2 (hwellNode'.2 _ hy).2).symm
    rw [sortByName_eq_of_perm hperm (by rw [List.map_map]; exact hwellNode.1)]

end Visits

lemma visitUpTo_of_sameKinds (h : SameKinds fs.root fs'.root) (hwell : wellNamed fs.root = true)
    (hwell' : wellNamed fs'.root = true) (n : Nat) :
    SameDescent (Walk.visitUpTo fs n) (Walk.visitUpTo fs' n) := by
  induction n with
  | zero =>
    refine visit_of_sameKinds h hwell hwell' ?_
    intro _ _ _ _ _ _ _ _
    rfl
  | succ n ih => exact visit_of_sameKinds h hwell hwell' ih

/-- A walk sees nothing of a tree but the kinds of what stands at its paths. -/
theorem sightings_of_sameKinds (h : SameKinds fs.root fs'.root) (hwell : wellNamed fs.root = true)
    (hwell' : wellNamed fs'.root = true) (root : Path) :
    fs'.sightings root = fs.sightings root := by
  rw [FileSystem.sightings, FileSystem.sightings, ← linkCount_of_sameKinds h hwell hwell']
  cases hroot : fs.root.at? root with
  | none => rw [at_eq_none_of_sameKinds h hroot]
  | some x =>
    obtain ⟨y, hy, hxy⟩ := sameKinds_at h hroot
    rw [hy]
    exact visitUpTo_of_sameKinds h hwell hwell' _ _ _ _ _ _ hxy (wellNamed_at hwell hroot)
      (wellNamed_at hwell' hy)

theorem discover_of_sameKinds (h : SameKinds fs.root fs'.root) (hwell : wellNamed fs.root = true)
    (hwell' : wellNamed fs'.root = true) (root : Path) (selection : Selection) :
    discover fs' root selection = discover fs root selection := by
  rw [discover, sightings_of_sameKinds h hwell hwell', discover]

/-! ### Checks -/

/-- A path is read alike if the place that it resolves to holds the same bytes. -/
theorem checkFile_of_sameKinds [CharacterNames] (h : SameKinds fs.root fs'.root)
    (hcurrent : fs'.current = fs.current) {text : String}
    (hcontent : ∀ place content, fs.resolve text = .ok place →
      (fs'.root.at? place = some (.file content) ↔ fs.root.at? place = some (.file content))) :
    checkFile fs' text = checkFile fs text := by
  have hread : fs'.readBytes text = fs.readBytes text := by
    unfold FileSystem.readBytes
    rw [resolve_of_sameKinds h hcurrent]
    cases hresolve : fs.resolve text with
    | error e => rfl
    | ok place =>
      have hsame := hcontent place
      dsimp only
      congr 2
      cases hstop : fs.root.at? place with
      | none => rw [at_eq_none_of_sameKinds h hstop]
      | some x =>
        obtain ⟨y, hy, hxy⟩ := sameKinds_at h hstop
        rw [hy]
        cases x with
        | file content =>
          have hfile := (hsame content hresolve).mpr hstop
          rw [Option.some.inj (hy.symm.trans hfile)]
        | link target => rw [sameKinds_link hxy]
        | directory entries =>
          obtain ⟨entries', rfl⟩ := sameKinds_directory hxy
          rfl
  rw [checkFile, checkFile, FileSystem.readText, FileSystem.readText, hread]

end SyntaxCheck.Proofs
