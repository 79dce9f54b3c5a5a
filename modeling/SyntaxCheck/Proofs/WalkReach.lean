import Mathlib.Tactic
import SyntaxCheck.Discovery.Walk
import SyntaxCheck.Proofs.PathResolution

/-!
# What a walk reaches

A walk goes from station to station: from a directory to an entry that is no link, or to the end of
a link unless that is a directory that is open. The directories that are open, and the links that
were followed to get there, are known at every station. As every link that was followed ends in a
directory that is open, none is followed twice, and so a walk that may follow as many links as the
tree has comes upon every file that the stations lead to.
-/

namespace SyntaxCheck.Proofs

open Relation

variable {fs : FileSystem}

/-- Where a walk stands: what is at `place` was reached by `way` through the directories `opened`.
-/
structure Station where
  opened : List Walk.OpenDirectory
  place : Path
  way : Path

namespace Station

/-- The station at which a walk starts. -/
def start (root : Path) : Station := ⟨[], root, root⟩

/-- The open directories for the entries of the directory at the station. -/
def within (s : Station) : List Walk.OpenDirectory := ⟨s.place, s.way⟩ :: s.opened

/-- The file system has a directory with these entries at the station. -/
def Holds (fs : FileSystem) (s : Station) (entries : List (String × Node)) : Prop :=
  fs.root.at? s.place = some (.directory entries)

end Station

/-- A step of a walk, from a directory to what one of its entries leads to. -/
inductive WalkStep (fs : FileSystem) (s : Station) : Station → Prop
  | entry {entries name node} (directory : s.Holds fs entries)
      (listed : entries.lookup name = some node) (real : IsReal node) :
      WalkStep fs s ⟨s.within, s.place ++ [name], s.way ++ [name]⟩
  | link {entries name target stop} (directory : s.Holds fs entries)
      (listed : entries.lookup name = some (.link target))
      (resolved : fs.resolvePath (s.way ++ [name]) = .ok stop)
      (fresh : ∀ d ∈ s.within, d.place ≠ stop) :
      WalkStep fs s ⟨s.within, stop, s.way ++ [name]⟩

/-- A walk from the station comes upon a regular file by this way. -/
def ArrivesAt (fs : FileSystem) (s : Station) (way : Path) : Prop :=
  ∃ t, ReflTransGen (WalkStep fs) s t ∧ t.way = way ∧
    ∃ content, fs.root.at? t.place = some (.file content)

lemma arrivesAt_of_step {s t : Station} {way : Path} (hstep : WalkStep fs s t)
    (h : ArrivesAt fs t way) : ArrivesAt fs s way := by
  obtain ⟨u, hreach, hway, hfile⟩ := h
  exact ⟨u, ReflTransGen.head hstep hreach, hway, hfile⟩

/-! ### What is known at a station -/

/-- The way resolves to the place, and what is open are directories. -/
structure Station.Valid (fs : FileSystem) (s : Station) : Prop where
  way_resolves : fs.resolvePath s.way = .ok s.place
  opened_directories : ∀ d ∈ s.opened, ∃ entries, fs.root.at? d.place = some (.directory entries)

lemma valid_within {s : Station} (h : s.Valid fs) {entries : List (String × Node)}
    (directory : s.Holds fs entries) :
    ∀ d ∈ s.within, ∃ entries, fs.root.at? d.place = some (.directory entries) := by
  intro d hd
  rcases List.mem_cons.mp hd with rfl | hd
  · exact ⟨entries, directory⟩
  · exact h.opened_directories d hd

lemma valid_start (hwell : wellNamed fs.root = true) {root : Path} {entries : List (String × Node)}
    (hroot : (Station.start root).Holds fs entries) : (Station.start root).Valid fs :=
  ⟨resolvePath_real hwell hroot (isReal_directory entries), by simp [Station.start]⟩

lemma valid_step (hwell : wellNamed fs.root = true) {s t : Station} (h : s.Valid fs)
    (hstep : WalkStep fs s t) : t.Valid fs := by
  cases hstep with
  | entry directory listed real =>
    exact ⟨resolvePath_entry hwell h.way_resolves directory listed real, valid_within h directory⟩
  | link directory listed resolved fresh =>
    exact ⟨resolved, valid_within h directory⟩

lemma valid_reached (hwell : wellNamed fs.root = true) {s t : Station} (h : s.Valid fs)
    (hreach : ReflTransGen (WalkStep fs) s t) : t.Valid fs := by
  induction hreach with
  | refl => exact h
  | tail _ hstep ih => exact valid_step hwell ih hstep

/-- Every step goes on by the name of an entry. -/
lemma names_step {P : String → Prop} (hnames : NamesAre P fs.root) {s t : Station}
    (h : ∀ name ∈ s.way, P name) (hstep : WalkStep fs s t) : ∀ name ∈ t.way, P name := by
  have hconcat : ∀ {name}, P name → ∀ other ∈ s.way ++ [name], P other := by
    intro name hname
    rw [List.forall_mem_append, List.forall_mem_singleton]
    exact ⟨h, hname⟩
  cases hstep with
  | entry directory listed => exact hconcat (hnames directory listed)
  | link directory listed => exact hconcat (hnames directory listed)

lemma names_reached {P : String → Prop} (hnames : NamesAre P fs.root) {s t : Station}
    (h : ∀ name ∈ s.way, P name) (hreach : ReflTransGen (WalkStep fs) s t) :
    ∀ name ∈ t.way, P name := by
  induction hreach with
  | refl => exact h
  | tail _ hstep ih => exact names_step hnames ih hstep

/-- Every link that was followed ends in a directory that is open, or at the station. -/
structure FollowedLinks (fs : FileSystem) (s : Station) (links : List Path) : Prop where
  nodup : links.Nodup
  isLink : ∀ q ∈ links, ∃ target, fs.root.at? q = some (.link target)
  ends_open : ∀ q ∈ links, ∃ d ∈ s.within, LeadsTo fs q d.place

lemma followedLinks_entry {s : Station} {links : List Path} (h : FollowedLinks fs s links)
    (place way : Path) : FollowedLinks fs ⟨s.within, place, way⟩ links := by
  refine ⟨h.nodup, h.isLink, ?_⟩
  intro q hq
  obtain ⟨d, hd, hleads⟩ := h.ends_open q hq
  exact ⟨d, List.mem_cons_of_mem _ hd, hleads⟩

/-- A link to a directory that is not open has not been followed yet. -/
lemma followedLinks_link (hwell : wellNamed fs.root = true) {s : Station} {links : List Path}
    (h : FollowedLinks fs s links) (hvalid : s.Valid fs) {entries : List (String × Node)}
    {name target : String} {stop : Path} (directory : s.Holds fs entries)
    (listed : entries.lookup name = some (.link target))
    (resolved : fs.resolvePath (s.way ++ [name]) = .ok stop)
    (fresh : ∀ d ∈ s.within, d.place ≠ stop) :
    FollowedLinks fs ⟨s.within, stop, s.way ++ [name]⟩ ((s.place ++ [name]) :: links) := by
  have hleads : LeadsTo fs (s.place ++ [name]) stop :=
    leadsTo_of_resolvePath hwell hvalid.way_resolves directory resolved
  -- Had it been followed, its end would be open; a link has only one end, and this one is not.
  have hnew : s.place ++ [name] ∉ links := by
    intro hold
    obtain ⟨d, hd, hend⟩ := h.ends_open _ hold
    exact fresh d hd (leadsTo_unique hend hleads)
  have hentry := followedLinks_entry h stop (s.way ++ [name])
  refine ⟨List.nodup_cons.mpr ⟨hnew, h.nodup⟩, ?_, ?_⟩
  · intro q hq
    rcases List.mem_cons.mp hq with rfl | hq
    · exact ⟨target, at_entry directory listed⟩
    · exact h.isLink q hq
  · intro q hq
    rcases List.mem_cons.mp hq with rfl | hq
    · exact ⟨⟨stop, s.way ++ [name]⟩, List.mem_cons_self, hleads⟩
    · exact hentry.ends_open q hq

/-! ### The entries of a directory -/

section Visits

variable {descend : List Walk.OpenDirectory → Path → Path → Node → List Sighting}

lemma visitEntries_eq_map (opened : List Walk.OpenDirectory) (place way : Path)
    (entries : List (String × Node)) :
    Walk.visitEntries fs descend opened place way entries =
      entries.map fun e =>
        (e.1, Walk.visit fs descend opened (place ++ [e.1]) (way ++ [e.1]) e.2) := by
  induction entries with
  | nil => rfl
  | cons e rest ih => rw [Walk.visitEntries, ih, List.map_cons]

/-- What is visited at a station where this node stands. -/
def visitAt (fs : FileSystem)
    (descend : List Walk.OpenDirectory → Path → Path → Node → List Sighting) (s : Station)
    (node : Node) : List Sighting :=
  Walk.visit fs descend s.opened s.place s.way node

lemma visitAt_directory_perm (s : Station) (entries : List (String × Node)) :
    (visitAt fs descend s (.directory entries)).Perm (entries.flatMap fun e =>
      visitAt fs descend ⟨s.within, s.place ++ [e.1], s.way ++ [e.1]⟩ e.2) := by
  rw [visitAt, Walk.visit, visitEntries_eq_map]
  refine ((sortByName_perm _).flatMap_right _).trans ?_
  rw [List.flatMap_map]
  rfl

lemma mem_visitAt_directory (s : Station) (entries : List (String × Node)) (sighting : Sighting) :
    sighting ∈ visitAt fs descend s (.directory entries) ↔
      ∃ e ∈ entries,
        sighting ∈ visitAt fs descend ⟨s.within, s.place ++ [e.1], s.way ++ [e.1]⟩ e.2 := by
  rw [(visitAt_directory_perm s entries).mem_iff, List.mem_flatMap]

lemma mem_visitAt_file (s : Station) (content : List UInt8) (way : Path) :
    Sighting.file way ∈ visitAt fs descend s (.file content) ↔ way = s.way := by
  rw [visitAt, Walk.visit, List.mem_singleton, Sighting.file.injEq]

/-- A link is visited for the file at its end, or for what lies below the directory at its end. -/
lemma mem_visitAt_link (s : Station) (target : String) (way : Path) :
    Sighting.file way ∈ visitAt fs descend s (.link target) ↔
      ∃ stop, fs.resolvePath s.way = .ok stop ∧
        ((∃ content, fs.root.at? stop = some (.file content) ∧ way = s.way) ∨
          ∃ entries, fs.root.at? stop = some (.directory entries) ∧
            (∀ d ∈ s.opened, d.place ≠ stop) ∧
            Sighting.file way ∈ descend s.opened stop s.way (.directory entries)) := by
  rw [visitAt, Walk.visit, Walk.visitLink]
  cases hresolve : fs.resolvePath s.way with
  | error e => simp
  | ok stop =>
    cases hstop : fs.root.at? stop with
    | none => simp [hstop]
    | some node =>
      cases node with
      | file content => simp [hstop]
      | link target => simp [hstop]
      | directory entries =>
        cases hfind : s.opened.find? (·.place == stop) with
        | none =>
          have hfresh : ∀ d ∈ s.opened, d.place ≠ stop := by simpa using hfind
          simpa [hstop, hfind] using fun _ => hfresh
        | some d =>
          have hd : d ∈ s.opened ∧ d.place = stop :=
            ⟨List.mem_of_find?_eq_some hfind, by simpa using List.find?_some hfind⟩
          have hopen : ¬ ∀ d ∈ s.opened, d.place ≠ stop := fun h => h d hd.1 hd.2
          simp [hstop, hfind, hopen]

/-! ### Soundness -/

/-- A visit comes upon a file only where the walk arrives, if what it does with the directories at
the ends of links does so. -/
lemma arrivesAt_of_mem_visitAt (hwell : wellNamed fs.root = true)
    (hdescend : ∀ (s : Station) entries way, s.Valid fs → s.Holds fs entries →
      Sighting.file way ∈ descend s.opened s.place s.way (.directory entries) →
      ArrivesAt fs s way)
    {s : Station} (hvalid : s.Valid fs) {node : Node} (hnode : fs.root.at? s.place = some node)
    (hreal : IsReal node) {way : Path} (h : Sighting.file way ∈ visitAt fs descend s node) :
    ArrivesAt fs s way := by
  induction node using node_induction generalizing s with
  | file content =>
    rw [mem_visitAt_file] at h
    exact ⟨s, ReflTransGen.refl, h.symm, content, hnode⟩
  | link target => exact absurd rfl (hreal target)
  | directory entries ih =>
    obtain ⟨⟨name, node⟩, hmem, h⟩ := (mem_visitAt_directory s entries _).mp h
    have hnames := ((wellNamed_directory_iff entries).mp (wellNamed_at hwell hnode)).1
    have hlisted : entries.lookup name = some node := lookup_of_mem hnames hmem
    by_cases hentry : IsReal node
    · have hstep := WalkStep.entry hnode hlisted hentry
      exact arrivesAt_of_step hstep
        (ih _ hmem (valid_step hwell hvalid hstep) (at_entry hnode hlisted) hentry h)
    · obtain ⟨target, rfl⟩ : ∃ target, node = .link target := by
        simpa [IsReal] using hentry
      obtain ⟨stop, hresolve, hstop⟩ := (mem_visitAt_link _ target way).mp h
      rcases hstop with ⟨content, hfile, hway⟩ | ⟨below, hbelow, hfresh, hmore⟩
      · -- What is open are directories, so a file at the end of a link is never refused.
        have hfresh : ∀ d ∈ s.within, d.place ≠ stop := by
          intro d hd heq
          obtain ⟨entries, hopen⟩ := valid_within hvalid hnode d hd
          rw [heq, hfile] at hopen
          cases hopen
        exact arrivesAt_of_step (WalkStep.link hnode hlisted hresolve hfresh)
          ⟨_, ReflTransGen.refl, hway.symm, content, hfile⟩
      · have hstep := WalkStep.link hnode hlisted hresolve hfresh
        exact arrivesAt_of_step hstep
          (hdescend ⟨s.within, stop, s.way ++ [name]⟩ below way
            (valid_step hwell hvalid hstep) hbelow hmore)

end Visits

/-- A walk that may follow any number of links comes upon files only where it arrives. -/
theorem arrivesAt_of_mem_visitUpTo (hwell : wellNamed fs.root = true) (n : Nat) {s : Station}
    (hvalid : s.Valid fs) {entries : List (String × Node)} (hnode : s.Holds fs entries) {way : Path}
    (h : Sighting.file way ∈ Walk.visitUpTo fs n s.opened s.place s.way (.directory entries)) :
    ArrivesAt fs s way := by
  induction n generalizing s entries way with
  | zero =>
    refine arrivesAt_of_mem_visitAt hwell ?_ hvalid hnode (isReal_directory entries) h
    intro s entries way _ _ hnone
    cases hnone
  | succ n ih =>
    refine arrivesAt_of_mem_visitAt hwell ?_ hvalid hnode (isReal_directory entries) h
    intro s entries way hs hentries hmore
    exact ih hs hentries hmore

/-! ### Completeness -/

/-- What a walk that may follow `n` links does with the directory at the end of one. -/
def descendUpTo (fs : FileSystem) :
    Nat → List Walk.OpenDirectory → Path → Path → Node → List Sighting
  | 0 => fun _ _ _ _ => []
  | n + 1 => Walk.visitUpTo fs n

lemma visitUpTo_eq_visitAt (n : Nat) (s : Station) (node : Node) :
    Walk.visitUpTo fs n s.opened s.place s.way node = visitAt fs (descendUpTo fs n) s node := by
  cases n <;> rfl

lemma arrived_or_directory {s t : Station} (hreach : ReflTransGen (WalkStep fs) s t) :
    s = t ∨ ∃ entries, s.Holds fs entries := by
  rcases ReflTransGen.cases_head hreach with heq | ⟨u, hstep, _⟩
  · exact Or.inl heq
  · cases hstep with
    | entry directory => exact Or.inr ⟨_, directory⟩
    | link directory => exact Or.inr ⟨_, directory⟩

/-- A walk that may still follow every link it has not followed comes upon each file where it
arrives. -/
theorem mem_visitUpTo_of_reach (hwell : wellNamed fs.root = true) {s t : Station}
    (hreach : ReflTransGen (WalkStep fs) s t) {content : List UInt8}
    (hfile : fs.root.at? t.place = some (.file content)) {n : Nat} {links : List Path}
    (hvalid : s.Valid fs) (hlinks : FollowedLinks fs s links)
    (hfuel : fs.root.linkCount ≤ n + links.length) {node : Node}
    (hnode : fs.root.at? s.place = some node) :
    Sighting.file t.way ∈ Walk.visitUpTo fs n s.opened s.place s.way node := by
  induction hreach using ReflTransGen.head_induction_on generalizing n links node with
  | refl =>
    obtain rfl : Node.file content = node := Option.some.inj (hfile.symm.trans hnode)
    rw [visitUpTo_eq_visitAt, mem_visitAt_file]
  | @head s u hstep hrest ih =>
    have hnext := valid_step hwell hvalid hstep
    rw [visitUpTo_eq_visitAt]
    cases hstep with
    | @entry entries name inner directory listed real =>
      obtain rfl : Node.directory entries = node := Option.some.inj (directory.symm.trans hnode)
      refine (mem_visitAt_directory s entries _).mpr ⟨_, mem_of_lookup listed, ?_⟩
      rw [← visitUpTo_eq_visitAt]
      exact ih hnext (followedLinks_entry hlinks _ _) hfuel (at_entry directory listed)
    | @link entries name target stop directory listed resolved fresh =>
      obtain rfl : Node.directory entries = node := Option.some.inj (directory.symm.trans hnode)
      refine (mem_visitAt_directory s entries _).mpr ⟨_, mem_of_lookup listed, ?_⟩
      refine (mem_visitAt_link _ target _).mpr ⟨stop, resolved, ?_⟩
      rcases arrived_or_directory hrest with rfl | ⟨below, hbelow⟩
      · exact Or.inl ⟨content, hfile, rfl⟩
      · -- With this one, the links followed are different links of the tree: one was left.
        have hmore := followedLinks_link hwell hlinks hvalid directory listed resolved fresh
        have hcount := length_le_linkCount hmore.nodup hmore.isLink
        rw [List.length_cons] at hcount
        obtain ⟨m, rfl⟩ : ∃ m, n = m + 1 := ⟨n - 1, by omega⟩
        refine Or.inr ⟨below, hbelow, fresh, ?_⟩
        exact ih hnext hmore (by rw [List.length_cons]; omega) hbelow

/-- A walk comes upon exactly the files that it arrives at. -/
theorem file_mem_sightings_iff (hwell : wellNamed fs.root = true) {root : Path}
    {entries : List (String × Node)} (hroot : fs.root.at? root = some (.directory entries))
    (way : Path) :
    Sighting.file way ∈ fs.sightings root ↔ ArrivesAt fs (.start root) way := by
  have hvalid : (Station.start root).Valid fs := valid_start hwell hroot
  have hsightings : fs.sightings root =
      Walk.visitUpTo fs fs.root.linkCount [] root root (.directory entries) := by
    rw [FileSystem.sightings, hroot]
  rw [hsightings]
  constructor
  · intro h
    exact arrivesAt_of_mem_visitUpTo hwell _ hvalid hroot h
  · rintro ⟨t, hreach, rfl, content, hfile⟩
    have hnone : FollowedLinks fs (.start root) [] := ⟨List.nodup_nil, by simp, by simp⟩
    exact mem_visitUpTo_of_reach hwell hreach hfile hvalid hnone (by omega) hroot

end SyntaxCheck.Proofs
