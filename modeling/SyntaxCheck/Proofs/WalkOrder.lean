import Mathlib.Tactic
import SyntaxCheck.Proofs.WalkWays

/-!
# The order of a walk

Paths are compared name by name, each name by its bytes. A walk visits the entries of a directory by
their names and goes through everything below an entry before it comes to the next, so the ways by
which it comes upon files stand in the order of paths from the first to the last. That is not the
order of the written paths: a slash is a byte like any other there, and some bytes come before it.
-/

namespace SyntaxCheck.Proofs

variable {fs : FileSystem}

/-- The bytes of the names on a path. -/
def nameBytes (p : Path) : List (List UInt8) :=
  p.map fun name => Utf8.encode name.toList

/-- Whether a path comes before another: the first names that differ decide, by their bytes. -/
def PathBefore (p q : Path) : Prop :=
  nameBytes p < nameBytes q

lemma pathBefore_of_names {way p q : Path} {a b : String} (hab : bytesBefore a b = true)
    (hp : way ++ [a] <+: p) (hq : way ++ [b] <+: q) : PathBefore p q := by
  obtain ⟨below, rfl⟩ := hp
  obtain ⟨below', rfl⟩ := hq
  rw [bytesBefore, decide_eq_true_iff] at hab
  simp only [PathBefore, nameBytes, List.map_append, List.append_assoc]
  exact List.append_left_lt (List.cons_lt_cons_iff.mpr (.inl hab))

/-- What the paths have in common in front decides nothing. -/
lemma pathBefore_of_append {root p q : Path} (h : PathBefore (root ++ p) (root ++ q)) :
    PathBefore p q := by
  unfold PathBefore nameBytes at *
  induction root with
  | nil => exact h
  | cons name root ih =>
    rw [List.cons_append, List.cons_append, List.map_cons, List.map_cons,
      List.cons_lt_cons_self] at h
    exact ih h

/-! ### One directory -/

variable {descend : List Walk.OpenDirectory → Path → Path → Node → List Sighting}

/-- The files below every directory are come upon in order by ways that go on from it. -/
def DescendsInOrder (fs : FileSystem)
    (descend : List Walk.OpenDirectory → Path → Path → Node → List Sighting) : Prop :=
  ∀ (s : Station) entries, s.Holds fs entries →
    GoOnFrom s.way (descend s.opened s.place s.way (.directory entries)) ∧
      (waysOf (descend s.opened s.place s.way (.directory entries))).Pairwise PathBefore

lemma ordered_visitLink (s : Station) (hdescend : DescendsInOrder fs descend) :
    (waysOf (Walk.visitLink fs descend s.opened s.way)).Pairwise PathBefore := by
  refine visitLink_cases (motive := fun visited => (waysOf visited).Pairwise PathBefore) s
    (fun _ => List.Pairwise.nil) (List.pairwise_singleton _ _) List.Pairwise.nil ?_
  intro stop entries hstop
  exact (hdescend ⟨s.opened, stop, s.way⟩ entries hstop).2

lemma ordered_visitAt (s : Station) (hdescend : DescendsInOrder fs descend) {node : Node}
    (hwell : wellNamed node = true) :
    (waysOf (visitAt fs descend s node)).Pairwise PathBefore := by
  induction node using node_induction generalizing s with
  | file content => exact List.pairwise_singleton _ _
  | link target => exact ordered_visitLink s hdescend
  | directory entries ih =>
    obtain ⟨hnames, hentries⟩ := (wellNamed_directory_iff entries).mp hwell
    have hafter : ∀ e ∈ sortByName entries, ∀ w ∈ waysOf (visitAt fs descend (s.next e.1) e.2),
        s.way ++ [e.1] <+: w := by
      intro e he
      have hwellEntry := (hentries e (mem_sortByName.mp he)).2
      exact (goOnFrom_visitAt (s.next e.1) (fun t below ht => (hdescend t below ht).1)
        hwellEntry).after
    -- Below one entry the visit of the entry keeps the order; between two their names decide.
    rw [waysOf_directory, List.pairwise_flatMap]
    constructor
    · intro e he
      have hmem := mem_sortByName.mp he
      exact ih e hmem (s.next e.1) (hentries e hmem).2
    · refine (ordered_sortByName hnames).imp_of_mem ?_
      intro a b ha hb hab p hp q hq
      exact pathBefore_of_names hab (hafter a ha p hp) (hafter b hb q hq)

/-! ### The whole walk -/

lemma ordered_visitUpTo (hwell : wellNamed fs.root = true) (n : Nat) :
    DescendsInOrder fs (Walk.visitUpTo fs n) := by
  induction n with
  | zero =>
    intro s entries hs
    have hnothing : DescendsInOrder fs fun _ _ _ _ => [] :=
      fun t below _ => ⟨goOnFrom_nil t.way, List.Pairwise.nil⟩
    exact ⟨goOnFrom_visitUpTo hwell 0 s hs, ordered_visitAt s hnothing (wellNamed_at hwell hs)⟩
  | succ n ih =>
    intro s entries hs
    exact ⟨goOnFrom_visitUpTo hwell (n + 1) s hs, ordered_visitAt s ih (wellNamed_at hwell hs)⟩

/-- A walk comes upon files in the order of the paths. -/
theorem ordered_sightings (hwell : wellNamed fs.root = true) {root : Path}
    {entries : List (String × Node)} (hroot : fs.root.at? root = some (.directory entries)) :
    (waysOf (fs.sightings root)).Pairwise PathBefore := by
  rw [FileSystem.sightings, hroot]
  exact (ordered_visitUpTo hwell _ (.start root) entries hroot).2

end SyntaxCheck.Proofs
