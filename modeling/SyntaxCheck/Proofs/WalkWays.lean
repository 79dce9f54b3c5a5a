import Mathlib.Tactic
import SyntaxCheck.Proofs.WalkReach

/-!
# The ways of a walk

A walk comes upon files by ways, and what it comes upon below a directory it comes upon by ways that
begin with the way of the directory and the name of an entry. As the names in a directory differ, no
way is taken twice, whatever the links in the tree are.
-/

namespace SyntaxCheck.Proofs

variable {fs : FileSystem}

/-- The way by which a walk came upon a file, if it is one that it came upon. -/
def fileWay? : Sighting → Option Path
  | .file way => some way
  | .fault _ => none

/-- The ways by which a walk came upon files. -/
def waysOf (sightings : List Sighting) : List Path :=
  sightings.filterMap fileWay?

lemma mem_waysOf (sightings : List Sighting) (way : Path) :
    way ∈ waysOf sightings ↔ Sighting.file way ∈ sightings := by
  rw [waysOf, List.mem_filterMap]
  constructor
  · rintro ⟨sighting, hmem, hway⟩
    cases sighting with
    | file other =>
      obtain rfl : other = way := by simpa [fileWay?] using hway
      exact hmem
    | fault fault => simp [fileWay?] at hway
  · intro hmem
    exact ⟨_, hmem, rfl⟩

/-- The ways by which files were come upon differ from each other and go on from `way`. -/
structure GoOnFrom (way : Path) (sightings : List Sighting) : Prop where
  nodup : (waysOf sightings).Nodup
  after : ∀ w ∈ waysOf sightings, way <+: w

lemma goOnFrom_nil (way : Path) : GoOnFrom way [] := by
  constructor <;> simp [waysOf]

lemma goOnFrom_file (way : Path) : GoOnFrom way [.file way] := by
  constructor <;> simp [waysOf, fileWay?]

lemma goOnFrom_fault (way : Path) (fault : WalkFault) : GoOnFrom way [.fault fault] := by
  have hnone : waysOf [.fault fault] = [] := rfl
  constructor <;> simp [hnone]

lemma goOnFrom_perm {way : Path} {a b : List Sighting} (hperm : a.Perm b) (h : GoOnFrom way b) :
    GoOnFrom way a := by
  have hways : (waysOf a).Perm (waysOf b) := hperm.filterMap fileWay?
  refine ⟨hways.nodup_iff.mpr h.nodup, ?_⟩
  intro w hw
  exact h.after w (hways.mem_iff.mp hw)

lemma name_eq_of_common {way w : Path} {a b : String} (ha : way ++ [a] <+: w)
    (hb : way ++ [b] <+: w) : a = b := by
  have hprefix : way ++ [a] <+: way ++ [b] :=
    List.prefix_of_prefix_length_le ha hb (by simp)
  have heq : way ++ [a] = way ++ [b] := hprefix.eq_of_length (by simp)
  simpa using heq

/-- Ways that go on from a directory through entries of different names differ. -/
lemma goOnFrom_flatMap {way : Path} {entries : List (String × Node)}
    (hnames : (entries.map Prod.fst).Nodup) {sightings : String × Node → List Sighting}
    (h : ∀ e ∈ entries, GoOnFrom (way ++ [e.1]) (sightings e)) :
    GoOnFrom way (entries.flatMap sightings) := by
  have hways : waysOf (entries.flatMap sightings) =
      entries.flatMap fun e => waysOf (sightings e) := by
    rw [waysOf, List.filterMap_flatMap]
    rfl
  constructor
  · rw [hways, List.nodup_flatMap]
    refine ⟨fun e he => (h e he).nodup, ?_⟩
    have hdistinct : entries.Pairwise fun e e' => e.1 ≠ e'.1 := List.pairwise_map.mp hnames
    refine hdistinct.imp_of_mem ?_
    intro e e' he he' hne w hw hw'
    exact hne (name_eq_of_common ((h e he).after w hw) ((h e' he').after w hw'))
  · intro w hw
    rw [hways] at hw
    obtain ⟨e, he, hw⟩ := List.mem_flatMap.mp hw
    exact (List.prefix_append way [e.1]).trans ((h e he).after w hw)

/-! ### The ways of a visit -/

variable {descend : List Walk.OpenDirectory → Path → Path → Node → List Sighting}

/-- The station at an entry of the directory at a station. -/
def Station.next (s : Station) (name : String) : Station :=
  ⟨s.within, s.place ++ [name], s.way ++ [name]⟩

lemma waysOf_directory (s : Station) (entries : List (String × Node)) :
    waysOf (visitAt fs descend s (.directory entries)) =
      (sortByName entries).flatMap fun e => waysOf (visitAt fs descend (s.next e.1) e.2) := by
  have hsorted : sortByName (Walk.visitEntries fs descend s.within s.place s.way entries) =
      (sortByName entries).map fun e => (e.1, visitAt fs descend (s.next e.1) e.2) := by
    rw [visitEntries_eq_map]
    exact sortByName_map _ entries
  rw [visitAt, Walk.visit]
  change waysOf ((sortByName (Walk.visitEntries fs descend s.within _ _ entries)).flatMap _) = _
  rw [hsorted, List.flatMap_map, waysOf, List.filterMap_flatMap]
  rfl

/-- What can be come upon at a link: one thing, nothing, or what lies below the directory where it
ends. -/
lemma visitLink_cases {motive : List Sighting → Prop} (s : Station)
    (fault : ∀ f, motive [.fault f]) (file : motive [.file s.way]) (nothing : motive [])
    (directory : ∀ stop entries, fs.root.at? stop = some (.directory entries) →
      motive (descend s.opened stop s.way (.directory entries))) :
    motive (Walk.visitLink fs descend s.opened s.way) := by
  unfold Walk.visitLink
  cases hresolve : fs.resolvePath s.way with
  | error e => exact fault _
  | ok stop =>
    cases hstop : fs.root.at? stop with
    | none => simpa [hstop] using nothing
    | some node =>
      cases node with
      | file content => simpa [hstop] using file
      | link target => simpa [hstop] using nothing
      | directory entries =>
        cases hfind : s.opened.find? (·.place == stop) with
        | none => simpa [hstop, hfind] using directory stop entries hstop
        | some d => simpa [hstop, hfind] using fault _

lemma goOnFrom_visitLink (s : Station)
    (hdescend : ∀ (s : Station) entries, s.Holds fs entries →
      GoOnFrom s.way (descend s.opened s.place s.way (.directory entries))) :
    GoOnFrom s.way (Walk.visitLink fs descend s.opened s.way) := by
  apply visitLink_cases s (goOnFrom_fault s.way) (goOnFrom_file s.way) (goOnFrom_nil s.way)
  intro stop entries hstop
  exact hdescend ⟨s.opened, stop, s.way⟩ entries hstop

lemma goOnFrom_visitAt (s : Station)
    (hdescend : ∀ (s : Station) entries, s.Holds fs entries →
      GoOnFrom s.way (descend s.opened s.place s.way (.directory entries)))
    {node : Node} (hwell : wellNamed node = true) :
    GoOnFrom s.way (visitAt fs descend s node) := by
  induction node using node_induction generalizing s with
  | file content => exact goOnFrom_file s.way
  | link target => exact goOnFrom_visitLink s hdescend
  | directory entries ih =>
    obtain ⟨hnames, hentries⟩ := (wellNamed_directory_iff entries).mp hwell
    refine goOnFrom_perm (visitAt_directory_perm s entries) (goOnFrom_flatMap hnames ?_)
    intro e he
    exact ih e he ⟨s.within, s.place ++ [e.1], s.way ++ [e.1]⟩ (hentries e he).2

lemma goOnFrom_visitUpTo (hwell : wellNamed fs.root = true) (n : Nat) (s : Station)
    {entries : List (String × Node)} (hnode : s.Holds fs entries) :
    GoOnFrom s.way (Walk.visitUpTo fs n s.opened s.place s.way (.directory entries)) := by
  induction n generalizing s entries with
  | zero =>
    apply goOnFrom_visitAt s _ (wellNamed_at hwell hnode)
    intro s entries _
    exact goOnFrom_nil s.way
  | succ n ih =>
    apply goOnFrom_visitAt s _ (wellNamed_at hwell hnode)
    intro s entries hs
    exact ih s hs

/-- No way is taken twice, and all ways begin at the root. -/
theorem goOnFrom_sightings (hwell : wellNamed fs.root = true) {root : Path}
    {entries : List (String × Node)} (hroot : fs.root.at? root = some (.directory entries)) :
    GoOnFrom root (fs.sightings root) := by
  rw [FileSystem.sightings, hroot]
  exact goOnFrom_visitUpTo hwell _ (.start root) hroot

end SyntaxCheck.Proofs
