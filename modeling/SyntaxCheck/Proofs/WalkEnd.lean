import Mathlib.Tactic
import SyntaxCheck.Proofs.DiscoveredFiles

/-!
# The end of a walk

A walk goes down into every directory, also into one that is open, and follows every link that does
not lead to an open directory. So a directory can be entered twice on one way down, and what makes
the walk end is not the number of directories. It is that no link is followed twice on one way: with
each link that is followed fewer are left, and between two of them each step goes one level down in
the tree. `Walks` is the walk without a bound on the links that it follows; the walk of a discovery,
which has one, is that walk.
-/

namespace SyntaxCheck.Proofs

variable {fs : FileSystem}

/-! ### Ways and the links on them -/

/-- A way of a walk from a station to another, with the places of the links that it follows, the
last one first. -/
inductive Trail (fs : FileSystem) (s : Station) : List Path → Station → Prop
  | start : Trail fs s [] s
  | entry {links t entries name node} (trail : Trail fs s links t) (directory : t.Holds fs entries)
      (listed : entries.lookup name = some node) (real : IsReal node) :
      Trail fs s links ⟨t.within, t.place ++ [name], t.way ++ [name]⟩
  | link {links t entries name target stop} (trail : Trail fs s links t)
      (directory : t.Holds fs entries) (listed : entries.lookup name = some (.link target))
      (resolved : fs.resolvePath (t.way ++ [name]) = .ok stop)
      (fresh : ∀ d ∈ t.within, d.place ≠ stop) :
      Trail fs s ((t.place ++ [name]) :: links) ⟨t.within, stop, t.way ++ [name]⟩

lemma trail_step {s t u : Station} {links : List Path} (h : Trail fs s links t)
    (hstep : WalkStep fs t u) : ∃ more, Trail fs s more u := by
  cases hstep with
  | entry directory listed real => exact ⟨_, .entry h directory listed real⟩
  | link directory listed resolved fresh => exact ⟨_, .link h directory listed resolved fresh⟩

lemma opened_of_step {s t : Station} (h : WalkStep fs s t) : t.opened = s.within := by
  cases h <;> rfl

/-- What is known of the links hold all along a way. -/
lemma followedLinks_trail (hwell : wellNamed fs.root = true) {root : Path}
    (hvalid : (Station.start root).Valid fs) {links : List Path} {t : Station}
    (h : Trail fs (.start root) links t) : t.Valid fs ∧ FollowedLinks fs t links := by
  induction h with
  | start => exact ⟨hvalid, List.nodup_nil, by simp, by simp⟩
  | entry trail directory listed real ih =>
    exact ⟨valid_step hwell ih.1 (.entry directory listed real), followedLinks_entry ih.2 _ _⟩
  | link trail directory listed resolved fresh ih =>
    exact ⟨valid_step hwell ih.1 (.link directory listed resolved fresh),
      followedLinks_link hwell ih.2 ih.1 directory listed resolved fresh⟩

/-! ### How far down a tree goes -/

mutual

/-- The number of directories one in another. -/
def nesting : Node → Nat
  | .file _ => 0
  | .link _ => 0
  | .directory entries => nestingOf entries + 1

/-- The largest number of directories one in another among the entries of a directory. -/
def nestingOf : List (String × Node) → Nat
  | [] => 0
  | (_, node) :: rest => max (nesting node) (nestingOf rest)

end

lemma nesting_le_nestingOf {entries : List (String × Node)} {e : String × Node}
    (h : e ∈ entries) : nesting e.2 ≤ nestingOf entries := by
  induction entries with
  | nil => cases h
  | cons other rest ih =>
    rw [nestingOf]
    rcases List.mem_cons.mp h with rfl | h
    · exact le_max_left _ _
    · exact (ih h).trans (le_max_right _ _)

lemma nesting_lt_of_lookup {entries : List (String × Node)} {name : String} {node : Node}
    (h : entries.lookup name = some node) : nesting node < nesting (.directory entries) := by
  rw [nesting]
  exact Nat.lt_succ_of_le (nesting_le_nestingOf (mem_of_lookup h))

lemma nesting_at_le {root node : Node} {place : Path} (h : root.at? place = some node) :
    nesting node ≤ nesting root := by
  induction place generalizing root with
  | nil =>
    obtain rfl : root = node := by simpa [Node.at?] using h
    exact le_rfl
  | cons name place ih =>
    obtain ⟨entries, child, rfl, hlisted, hbelow⟩ := at_cons_eq_some h
    exact (ih hbelow).trans (nesting_lt_of_lookup hlisted).le

/-- The nesting of what stands at a place. -/
def nestingAt (fs : FileSystem) (place : Path) : Nat :=
  ((fs.root.at? place).map nesting).getD 0

lemma nestingAt_eq {place : Path} {node : Node} (h : fs.root.at? place = some node) :
    nestingAt fs place = nesting node := by
  rw [nestingAt, h]
  rfl

lemma nestingAt_le (fs : FileSystem) (place : Path) : nestingAt fs place ≤ nesting fs.root := by
  unfold nestingAt
  cases h : fs.root.at? place with
  | none => exact Nat.zero_le _
  | some node => exact nesting_at_le h

/-- The most steps that a walk can still take: for each link that has not been followed, one step
along it and then as many as it takes to go down through the whole tree. -/
def stepsLeft (fs : FileSystem) (followed : Nat) (place : Path) : Nat :=
  (fs.root.linkCount - followed) * (nesting fs.root + 1) + nestingAt fs place

lemma stepsLeft_entry {place : Path} {entries : List (String × Node)} {name : String} {node : Node}
    (directory : fs.root.at? place = some (.directory entries))
    (listed : entries.lookup name = some node) (followed : Nat) :
    stepsLeft fs followed (place ++ [name]) < stepsLeft fs followed place := by
  unfold stepsLeft
  rw [nestingAt_eq directory, nestingAt_eq (at_entry directory listed)]
  have hlt := nesting_lt_of_lookup listed
  omega

lemma stepsLeft_link {followed : Nat} (hleft : followed < fs.root.linkCount) {place : Path}
    {entries : List (String × Node)} (directory : fs.root.at? place = some (.directory entries))
    (stop : Path) : stepsLeft fs (followed + 1) stop < stepsLeft fs followed place := by
  unfold stepsLeft
  obtain ⟨m, hm⟩ : ∃ m, fs.root.linkCount - followed = m + 1 :=
    ⟨fs.root.linkCount - followed - 1, by omega⟩
  have hm' : fs.root.linkCount - (followed + 1) = m := by omega
  have hstop := nestingAt_le fs stop
  have hplace : 0 < nestingAt fs place := by
    rw [nestingAt_eq directory, nesting]
    exact Nat.succ_pos _
  rw [hm, hm', Nat.succ_mul]
  omega

/-- On every way the directories that are open and the steps that are left are no more together than
the steps that were left at the root. -/
lemma length_opened_add_stepsLeft (hwell : wellNamed fs.root = true) {root : Path}
    (hvalid : (Station.start root).Valid fs) {links : List Path} {t : Station}
    (h : Trail fs (.start root) links t) :
    t.opened.length + stepsLeft fs links.length t.place ≤ stepsLeft fs 0 root := by
  induction h with
  | start => exact (Nat.zero_add _).le
  | @entry links t entries name node trail directory listed real ih =>
    have hstep := stepsLeft_entry directory listed links.length
    change t.opened.length + 1 + stepsLeft fs links.length (t.place ++ [name]) ≤ _
    omega
  | @link links t entries name target stop trail directory listed resolved fresh ih =>
    obtain ⟨ht, hlinks⟩ := followedLinks_trail hwell hvalid trail
    have hmore := followedLinks_link hwell hlinks ht directory listed resolved fresh
    have hcount := length_le_linkCount hmore.nodup hmore.isLink
    rw [List.length_cons] at hcount
    have hstep := stepsLeft_link hcount directory stop
    change t.opened.length + 1 + stepsLeft fs (links.length + 1) stop ≤ _
    omega

/-! ### Walks without a bound -/

/-- A walk that may follow any number of links comes upon this below a station where this node
stands. A link to what is neither a file nor a directory is passed over. -/
inductive Walks (fs : FileSystem) : Station → Node → List Sighting → Prop
  | file (s : Station) (content : List UInt8) : Walks fs s (.file content) [.file s.way]
  | unresolved {s target error} (resolved : fs.resolvePath s.way = .error error) :
      Walks fs s (.link target) [.fault (.unresolved s.way error)]
  | linkToFile {s target stop content} (resolved : fs.resolvePath s.way = .ok stop)
      (stands : fs.root.at? stop = some (.file content)) :
      Walks fs s (.link target) [.file s.way]
  | linkElsewhere {s target stop} (resolved : fs.resolvePath s.way = .ok stop)
      (stands : ∀ content, fs.root.at? stop ≠ some (.file content))
      (empty : ∀ entries, fs.root.at? stop ≠ some (.directory entries)) :
      Walks fs s (.link target) []
  | circle {s target stop entries ancestor} (resolved : fs.resolvePath s.way = .ok stop)
      (stands : fs.root.at? stop = some (.directory entries))
      (opened : s.opened.find? (·.place == stop) = some ancestor) :
      Walks fs s (.link target) [.fault (.circle s.way ancestor.way)]
  | linkToDirectory {s target stop entries sightings}
      (resolved : fs.resolvePath s.way = .ok stop)
      (stands : fs.root.at? stop = some (.directory entries))
      (fresh : s.opened.find? (·.place == stop) = none)
      (below : Walks fs ⟨s.opened, stop, s.way⟩ (.directory entries) sightings) :
      Walks fs s (.link target) sightings
  | directory {s entries} (below : String × Node → List Sighting)
      (each : ∀ e ∈ entries,
        Walks fs ⟨s.within, s.place ++ [e.1], s.way ++ [e.1]⟩ e.2 (below e)) :
      Walks fs s (.directory entries)
        ((sortByName (entries.map fun e => (e.1, below e))).flatMap (·.2))

/-- There is one thing that a walk comes upon. -/
lemma walks_unique {s : Station} {node : Node} {a b : List Sighting} (ha : Walks fs s node a)
    (hb : Walks fs s node b) : a = b := by
  induction ha generalizing b with
  | file s content =>
    cases hb
    rfl
  | unresolved resolved => cases hb <;> simp_all
  | linkToFile resolved stands => cases hb <;> simp_all
  | linkElsewhere resolved stands empty => cases hb <;> simp_all
  | circle resolved stands opened => cases hb <;> simp_all
  | linkToDirectory resolved stands fresh below ih =>
    cases hb with
    | linkToDirectory resolved' stands' fresh' below' =>
      obtain rfl := Except.ok.inj (resolved.symm.trans resolved')
      obtain ⟨rfl⟩ := Node.directory.inj (Option.some.inj (stands.symm.trans stands'))
      exact ih below'
    | circle resolved' stands' opened =>
      obtain rfl := Except.ok.inj (resolved.symm.trans resolved')
      cases fresh.symm.trans opened
    | _ => simp_all
  | @directory s entries below each ih =>
    cases hb with
    | directory other each' =>
      have hsame : entries.map (fun e => (e.1, below e)) = entries.map fun e => (e.1, other e) :=
        List.map_congr_left fun e he => by rw [ih e he (each' e he)]
      rw [hsame]

section Bounded

variable {descend : List Walk.OpenDirectory → Path → Path → Node → List Sighting}

lemma walks_visitLink (s : Station) (target : String)
    (hdescend : ∀ stop entries, fs.resolvePath s.way = .ok stop →
      fs.root.at? stop = some (.directory entries) → (∀ d ∈ s.opened, d.place ≠ stop) →
      Walks fs ⟨s.opened, stop, s.way⟩ (.directory entries)
        (descend s.opened stop s.way (.directory entries))) :
    Walks fs s (.link target) (visitAt fs descend s (.link target)) := by
  rw [visitAt, Walk.visit, Walk.visitLink]
  cases hresolve : fs.resolvePath s.way with
  | error error => exact .unresolved hresolve
  | ok stop =>
    cases hstop : fs.root.at? stop with
    | none => simpa [hstop] using Walks.linkElsewhere hresolve (by simp [hstop]) (by simp [hstop])
    | some node =>
      cases node with
      | file content => simpa [hstop] using Walks.linkToFile hresolve hstop
      | link other =>
        simpa [hstop] using Walks.linkElsewhere hresolve (by simp [hstop]) (by simp [hstop])
      | directory entries =>
        cases hfind : s.opened.find? (·.place == stop) with
        | some ancestor => simpa [hstop, hfind] using Walks.circle hresolve hstop hfind
        | none =>
          have hfresh : ∀ d ∈ s.opened, d.place ≠ stop := by simpa using hfind
          have hbelow := hdescend stop entries hresolve hstop hfresh
          simpa [hstop, hfind] using Walks.linkToDirectory hresolve hstop hfind hbelow

/-- What a visit comes upon is what a walk comes upon, if that is so wherever the visit goes down
after following one link more. -/
lemma walks_visitAt (hwell : wellNamed fs.root = true) {followed : Nat}
    (hdescend : ∀ (s : Station) entries links, s.Valid fs → FollowedLinks fs s links →
      links.length = followed + 1 → s.Holds fs entries →
      Walks fs s (.directory entries) (descend s.opened s.place s.way (.directory entries)))
    {s : Station} {links : List Path} (hvalid : s.Valid fs) (hlinks : FollowedLinks fs s links)
    (hfollowed : links.length = followed) {node : Node}
    (hnode : fs.root.at? s.place = some node) (hreal : IsReal node) :
    Walks fs s node (visitAt fs descend s node) := by
  induction node using node_induction generalizing s links with
  | file content => exact .file s content
  | link target => exact absurd rfl (hreal target)
  | directory entries ih =>
    have hnames := ((wellNamed_directory_iff entries).mp (wellNamed_at hwell hnode)).1
    rw [visitAt, Walk.visit, visitEntries_eq_map]
    refine .directory (fun e => visitAt fs descend
      ⟨s.within, s.place ++ [e.1], s.way ++ [e.1]⟩ e.2) ?_
    rintro ⟨name, node⟩ hmem
    have hlisted : entries.lookup name = some node := lookup_of_mem hnames hmem
    by_cases hentry : IsReal node
    · exact ih _ hmem (valid_step hwell hvalid (.entry hnode hlisted hentry))
        (followedLinks_entry hlinks _ _) hfollowed (at_entry hnode hlisted) hentry
    · obtain ⟨target, rfl⟩ : ∃ target, node = .link target := by
        simpa [IsReal] using hentry
      refine walks_visitLink _ target fun stop below hresolve hstop hfresh => ?_
      have hstep := WalkStep.link hnode hlisted hresolve hfresh
      have hmore := followedLinks_link hwell hlinks hvalid hnode hlisted hresolve hfresh
      exact hdescend ⟨s.within, stop, s.way ++ [name]⟩ below _ (valid_step hwell hvalid hstep)
        hmore (congrArg (· + 1) hfollowed) hstop

end Bounded

/-- A walk that may still follow every link that it has not followed needs no bound. -/
theorem walks_visitUpTo (hwell : wellNamed fs.root = true) (n : Nat) {s : Station}
    {links : List Path} (hvalid : s.Valid fs) (hlinks : FollowedLinks fs s links)
    (hfuel : fs.root.linkCount ≤ n + links.length) {entries : List (String × Node)}
    (hnode : s.Holds fs entries) :
    Walks fs s (.directory entries)
      (Walk.visitUpTo fs n s.opened s.place s.way (.directory entries)) := by
  induction n generalizing s links entries with
  | zero =>
    refine walks_visitAt hwell ?_ hvalid hlinks rfl hnode (isReal_directory entries)
    intro t below more _ hmore hlength _
    -- All links of the tree have been followed, so there is none that could be followed now.
    have hcount := length_le_linkCount hmore.nodup hmore.isLink
    omega
  | succ n ih =>
    refine walks_visitAt hwell ?_ hvalid hlinks rfl hnode (isReal_directory entries)
    intro t below more ht hmore hlength hbelow
    exact ih ht hmore (by omega) hbelow

/-! ### The walk of a discovery -/

/-- The most steps on a way from the root of a walk. -/
def stepLimit (fs : FileSystem) : Nat :=
  fs.root.linkCount * (nesting fs.root + 1) + nesting fs.root

lemma length_opened_le (hwell : wellNamed fs.root = true) {root : Path}
    (hvalid : (Station.start root).Valid fs) {links : List Path} {t : Station}
    (h : Trail fs (.start root) links t) : t.opened.length ≤ stepLimit fs := by
  have hsteps := length_opened_add_stepsLeft hwell hvalid h
  have hstart : stepsLeft fs 0 root ≤ stepLimit fs := by
    unfold stepsLeft stepLimit
    rw [Nat.sub_zero]
    exact Nat.add_le_add_left (nestingAt_le fs root) _
  omega

/-- A walk that took a step again and again would have a way as long as one likes. -/
lemma exists_trail_of_steps {root : Path} {stations : Nat → Station}
    (hstart : stations 0 = .start root) (hsteps : ∀ n, WalkStep fs (stations n) (stations (n + 1)))
    (n : Nat) :
    (stations n).opened.length = n ∧ ∃ links, Trail fs (.start root) links (stations n) := by
  induction n with
  | zero => exact ⟨by rw [hstart]; rfl, [], by rw [hstart]; exact .start⟩
  | succ n ih =>
    obtain ⟨hlength, links, htrail⟩ := ih
    refine ⟨?_, trail_step htrail (hsteps n)⟩
    rw [opened_of_step (hsteps n), Station.within, List.length_cons, hlength]

/-- How the walk below a root comes to an end. -/
structure WalkEnds (fs : FileSystem) (root : Path) : Prop where
  recursion_ends : ∃ node sightings, fs.root.at? root = some node ∧
    Walks fs (.start root) node sightings ∧
      (∀ others, Walks fs (.start root) node others → others = sightings) ∧
        ∀ selection, discover fs root selection = sightings.filterMap (selection.classify root)
  no_endless_way : ∀ stations : Nat → Station, stations 0 = .start root →
    ∃ n, ¬ WalkStep fs (stations n) (stations (n + 1))
  ways_bounded : ∀ links t, Trail fs (.start root) links t → t.opened.length ≤ stepLimit fs
  links_once : ∀ links t, Trail fs (.start root) links t →
    links.Nodup ∧ ∀ q ∈ links, ∃ target, fs.root.at? q = some (.link target)

lemma walkEnds_of_directory (hwell : wellNamed fs.root = true) {root : Path}
    {entries : List (String × Node)} (hroot : fs.root.at? root = some (.directory entries)) :
    WalkEnds fs root := by
  have hvalid : (Station.start root).Valid fs := valid_start hwell hroot
  have hnone : FollowedLinks fs (.start root) [] := ⟨List.nodup_nil, by simp, by simp⟩
  have hwalks : Walks fs (.start root) (.directory entries) (fs.sightings root) := by
    have hbound := walks_visitUpTo hwell fs.root.linkCount hvalid hnone (by simp) hroot
    rwa [FileSystem.sightings, hroot]
  refine ⟨⟨_, _, hroot, hwalks, fun others h => walks_unique h hwalks, fun selection => rfl⟩,
    ?_, ?_, ?_⟩
  · intro stations hstart
    by_contra hendless
    have hsteps : ∀ n, WalkStep fs (stations n) (stations (n + 1)) := by simpa using hendless
    obtain ⟨hlength, links, htrail⟩ := exists_trail_of_steps hstart hsteps (stepLimit fs + 1)
    have hle := length_opened_le hwell hvalid htrail
    omega
  · intro links t htrail
    exact length_opened_le hwell hvalid htrail
  · intro links t htrail
    have hlinks := (followedLinks_trail hwell hvalid htrail).2
    exact ⟨hlinks.nodup, hlinks.isLink⟩

/-- A link to the directory above the root, a link through it, and two directories with links to
each other. -/
def loopedFiles : FileSystem where
  root := .directory [("p", .directory [("up", .link ".."), ("more", .link "up/p/a"),
    ("a", .directory [("to", .link "../b")]), ("b", .directory [("to", .link "../a")])])]
  current := ["p"]

/-- On the way up along the link and down again the root is entered a second time while it is open.
-/
lemma trail_loopedFiles :
    Trail loopedFiles (.start ["p"]) [["p", "up"]]
      ⟨[⟨[], ["p", "up"]⟩, ⟨["p"], ["p"]⟩], ["p"], ["p", "up", "p"]⟩ := by
  have hup : Trail loopedFiles (.start ["p"]) [["p", "up"]]
      ⟨[⟨["p"], ["p"]⟩], [], ["p", "up"]⟩ :=
    .link .start rfl rfl rfl (by decide)
  exact .entry hup rfl rfl (isReal_directory _)

/-- The walk comes to an end on every tree, and no way of it follows a link twice, although there
are trees in which a way enters a directory that is open. -/
theorem walk_ends_on_every_tree :
    (∀ (fs : FileSystem) (text : String) (root : Path), wellNamed fs.root = true →
      resolveRoot fs text = .ok root → WalkEnds fs root) ∧
    ∃ (fs : FileSystem) (text : String) (root : Path) (links : List Path) (t : Station),
      wellNamed fs.root = true ∧ resolveRoot fs text = .ok root ∧
        Trail fs (.start root) links t ∧ ∃ d ∈ t.opened, d.place = t.place := by
  constructor
  · intro fs text root hwell hroot
    obtain ⟨entries, hentries⟩ := directory_of_resolveRoot hroot
    exact walkEnds_of_directory hwell hentries
  · exact ⟨loopedFiles, ".", ["p"], _, _, rfl, rfl, trail_loopedFiles, ⟨["p"], ["p"]⟩, by simp,
      rfl⟩

theorem walk_ends_loopedFiles :
    wellNamed loopedFiles.root = true ∧ resolveRoot loopedFiles "." = .ok ["p"] ∧
      WalkEnds loopedFiles ["p"] := by
  have hwell : wellNamed loopedFiles.root = true := by rfl
  have hroot : resolveRoot loopedFiles "." = .ok ["p"] := by rfl
  exact ⟨hwell, hroot, walk_ends_on_every_tree.1 loopedFiles "." ["p"] hwell hroot⟩

end SyntaxCheck.Proofs
