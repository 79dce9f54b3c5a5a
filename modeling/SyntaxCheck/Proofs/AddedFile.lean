import Mathlib.Tactic
import SyntaxCheck.Proofs.FreshFile
import SyntaxCheck.Proofs.OneMore
import SyntaxCheck.Proofs.RunProtocol
import SyntaxCheck.Proofs.WrittenPaths

/-!
# One more file on a walk

No link leads to the directory of the new file or above it, so a walk is there only by the path on
which no link lies. Wherever else the walk is, it comes upon the same files by the same ways. In the
directory it comes upon one file more, between the others.
-/

namespace SyntaxCheck.Proofs

variable {fs : FileSystem}

section Fresh

variable {dir : Path} {name : String} {bytes : List UInt8}
  {descend descend' : List Walk.OpenDirectory → Path → Path → Node → List Sighting}

/-! ### Away from the directory -/

/-- Two ways to go on from the ends of links that come upon the same files wherever the new file is
not below. -/
def SameApart (fs : FileSystem) (dir : Path)
    (descend descend' : List Walk.OpenDirectory → Path → Path → Node → List Sighting) : Prop :=
  ∀ (s : Station) entries, s.Valid fs → s.Holds fs entries → ¬ s.place <+: dir →
    waysOf (descend' s.opened s.place s.way (.directory entries)) =
      waysOf (descend s.opened s.place s.way (.directory entries))

/-- An entry of a directory ends where the way to it through the directory ends. -/
lemma resolvePath_of_way (hwell : wellNamed fs.root = true) {way place stop : Path} {last : String}
    {entries : List (String × Node)} (hway : fs.resolvePath way = .ok place)
    (hplace : fs.root.at? place = some (.directory entries))
    (hstop : fs.resolvePath (way ++ [last]) = .ok stop) :
    fs.resolvePath (place ++ [last]) = .ok stop := by
  obtain ⟨m, hm, hgo⟩ := walkUpTo_goesOn fs _ _ _ _ hway
  rw [FileSystem.resolvePath, hgo] at hstop
  rw [FileSystem.resolvePath, walkUpTo_real hwell _ hplace (isReal_directory entries)]
  exact walkUpTo_mono hm hstop

/-- What leads nowhere leads nowhere still, for only the new file could be its end. -/
lemma resolvePath_error_putFile (hwell : wellNamed fs.root = true) (h : FreshFile fs dir name bytes)
    {s : Station} (hvalid : s.Valid fs) {entries : List (String × Node)}
    (hdirectory : s.Holds fs entries) {link target : String}
    (hlink : fs.root.at? (s.place ++ [link]) = some (.link target)) {error : SystemError}
    (hresolve : fs.resolvePath (s.way ++ [link]) = .error error) :
    ∃ error', (putFile fs (dir ++ [name]) bytes).resolvePath (s.way ++ [link]) = .error error' := by
  cases hresolve' : (putFile fs (dir ++ [name]) bytes).resolvePath (s.way ++ [link]) with
  | error error' => exact ⟨error', rfl⟩
  | ok stop =>
    exfalso
    obtain ⟨entries', hdirectory'⟩ := directory_putFile h hdirectory
    rcases resolvePath_newFile_sound (newFileAt h) hresolve' with rfl | hbefore
    · have hway := resolvePath_newFile (newFileAt h) hvalid.way_resolves
      have hnew := resolvePath_of_way (wellNamed_putFile hwell h) hway hdirectory' hresolve'
      exact not_link_to_new h hlink hnew
    · rw [hresolve] at hbefore
      cases hbefore

lemma waysOf_link_same (hwell : wellNamed fs.root = true) (h : FreshFile fs dir name bytes)
    (hsame : SameApart fs dir descend descend') {s : Station} (hvalid : s.Valid fs)
    {entries : List (String × Node)} (hdirectory : s.Holds fs entries) {link target : String}
    (hlisted : entries.lookup link = some (.link target)) :
    waysOf (visitAt (putFile fs (dir ++ [name]) bytes) descend' (s.next link) (.link target)) =
      waysOf (visitAt fs descend (s.next link) (.link target)) := by
  have hlink : fs.root.at? (s.place ++ [link]) = some (.link target) :=
    at_entry hdirectory hlisted
  change waysOf (Walk.visitLink _ descend' s.within (s.way ++ [link])) =
    waysOf (Walk.visitLink fs descend s.within (s.way ++ [link]))
  unfold Walk.visitLink
  cases hresolve : fs.resolvePath (s.way ++ [link]) with
  | error error =>
    obtain ⟨error', herror⟩ := resolvePath_error_putFile hwell h hvalid hdirectory hlink hresolve
    rw [herror]
    rfl
  | ok stop =>
    rw [resolvePath_newFile (newFileAt h) hresolve]
    have hend := resolvePath_of_way hwell hvalid.way_resolves hdirectory hresolve
    have hapart : ¬ stop <+: dir := h.no_link_above _ target stop hlink hend
    obtain ⟨node, hstop⟩ := exists_of_resolvePath hresolve
    dsimp only
    rw [at_putFile_apart h hstop hapart, hstop]
    cases node with
    | file content => rfl
    | link target => rfl
    | directory below =>
      dsimp only
      cases hfind : s.within.find? (·.place == stop) with
      | some ancestor => rfl
      | none =>
        have hfresh : ∀ d ∈ s.within, d.place ≠ stop := by simpa using hfind
        have hstep := WalkStep.link hdirectory hlisted hresolve hfresh
        exact hsame ⟨s.within, stop, s.way ++ [link]⟩ below (valid_step hwell hvalid hstep) hstop
          hapart

/-- A directory is come upon as before if its entries are. -/
lemma waysOf_directory_congr {fs' : FileSystem} {s : Station} {entries : List (String × Node)}
    (hentries : ∀ e ∈ entries, waysOf (visitAt fs' descend' (s.next e.1) e.2) =
      waysOf (visitAt fs descend (s.next e.1) e.2)) :
    waysOf (visitAt fs' descend' s (.directory entries)) =
      waysOf (visitAt fs descend s (.directory entries)) := by
  rw [waysOf_directory, waysOf_directory]
  exact List.flatMap_congr fun e he => hentries e (mem_sortByName.mp he)

lemma waysOf_entry_apart (hwell : wellNamed fs.root = true) (h : FreshFile fs dir name bytes)
    (hsame : SameApart fs dir descend descend') {s : Station} (hvalid : s.Valid fs)
    {entries : List (String × Node)} (hdirectory : s.Holds fs entries) {e : String × Node}
    (he : e ∈ entries) (hapart : ¬ s.place ++ [e.1] <+: dir) :
    waysOf (visitAt (putFile fs (dir ++ [name]) bytes) descend' (s.next e.1) e.2) =
      waysOf (visitAt fs descend (s.next e.1) e.2) := by
  obtain ⟨entry, node⟩ := e
  have hnames := ((wellNamed_directory_iff entries).mp (wellNamed_at hwell hdirectory)).1
  have hlisted : entries.lookup entry = some node := lookup_of_mem hnames he
  induction node using node_induction generalizing s entries entry with
  | file content => rfl
  | link target => exact waysOf_link_same hwell h hsame hvalid hdirectory hlisted
  | directory below ih =>
    have hstep := WalkStep.entry hdirectory hlisted (isReal_directory below)
    have hbelow : (s.next entry).Holds fs below := at_entry hdirectory hlisted
    have hnamesBelow := ((wellNamed_directory_iff below).mp (wellNamed_at hwell hbelow)).1
    refine waysOf_directory_congr fun e he => ?_
    refine ih e he (valid_step hwell hvalid hstep) hbelow e.1 he ?_ hnamesBelow
      (lookup_of_mem hnamesBelow he)
    exact fun hprefix => hapart ((List.prefix_append _ _).trans hprefix)

lemma waysOf_directory_apart (hwell : wellNamed fs.root = true) (h : FreshFile fs dir name bytes)
    (hsame : SameApart fs dir descend descend') {s : Station} (hvalid : s.Valid fs)
    {entries : List (String × Node)} (hdirectory : s.Holds fs entries)
    (hapart : ¬ s.place <+: dir) :
    waysOf (visitAt (putFile fs (dir ++ [name]) bytes) descend' s (.directory entries)) =
      waysOf (visitAt fs descend s (.directory entries)) :=
  waysOf_directory_congr fun _ he => waysOf_entry_apart hwell h hsame hvalid hdirectory he
    fun hprefix => hapart ((List.prefix_append _ _).trans hprefix)

/-- However many links may be followed, the new file is the only difference. -/
lemma sameApart_descendUpTo (hwell : wellNamed fs.root = true) (h : FreshFile fs dir name bytes)
    (n : Nat) : SameApart fs dir (descendUpTo fs n)
      (descendUpTo (putFile fs (dir ++ [name]) bytes) n) := by
  induction n with
  | zero =>
    intro s entries _ _ _
    rfl
  | succ n ih =>
    intro s entries hvalid hdirectory hapart
    rw [descendUpTo, descendUpTo, visitUpTo_eq_visitAt, visitUpTo_eq_visitAt]
    exact waysOf_directory_apart hwell h ih hvalid hdirectory hapart

/-! ### On the way to the directory -/

lemma name_ne_of_entry_ne {entries : List (String × Node)}
    (hnames : (entries.map Prod.fst).Nodup) {e : String × Node} (he : e ∈ entries) {name : String}
    {child : Node} (hlisted : entries.lookup name = some child) (hne : e ≠ (name, child)) :
    e.1 ≠ name := by
  rintro rfl
  have hlookup := lookup_of_mem hnames he
  rw [hlisted] at hlookup
  exact hne (Prod.ext rfl (Option.some.inj hlookup).symm)

lemma waysOf_on_way (hwell : wellNamed fs.root = true) (h : FreshFile fs dir name bytes)
    (hsame : SameApart fs dir descend descend') {rest : Path} {s : Station} (hvalid : s.Valid fs)
    (hrest : s.place ++ rest = dir) {node : Node} (hnode : fs.root.at? s.place = some node) :
    OneMore (s.way ++ (rest ++ [name])) (waysOf (visitAt fs descend s node))
      (waysOf (visitAt (putFile fs (dir ++ [name]) bytes) descend' s
        (Node.insert (.file bytes) (rest ++ [name]) node))) := by
  obtain ⟨inside, hdir, hfree⟩ := h.free
  induction rest generalizing s node with
  | nil =>
    rw [List.append_nil] at hrest
    subst hrest
    obtain rfl : node = .directory inside := Option.some.inj (hnode.symm.trans hdir)
    rw [List.nil_append, Node.insert, Node.entries, setEntry_eq_append hfree, waysOf_directory,
      waysOf_directory]
    refine oneMore_flatMap_new (oneMore_sortByName _ inside) rfl ?_
    intro e he
    refine waysOf_entry_apart hwell h hsame hvalid hdir (mem_sortByName.mp he) ?_
    intro hprefix
    simpa using hprefix.length_le
  | cons next rest ih =>
    rw [← hrest, at_append, hnode, Option.bind_some] at hdir
    obtain ⟨entries, child, rfl, hentry, hbelow⟩ := at_cons_eq_some hdir
    have hnames := ((wellNamed_directory_iff entries).mp (wellNamed_at hwell hnode)).1
    have hmem : (next, child) ∈ entries := mem_of_lookup hentry
    rw [List.cons_append, Node.insert, Node.child?, Node.entries, hentry, Option.getD_some,
      setEntry_eq_map hnames hentry, waysOf_directory, waysOf_directory, sortByName_map,
      List.flatMap_map]
    refine oneMore_flatMap_at (mem_sortByName.mpr hmem) ?_ (nodup_sortByName hnames) ?_
    · -- The way goes on through this entry.
      have hreal : IsReal child := isReal_of_at hbelow (isReal_directory inside)
      have hstep := WalkStep.entry hnode hentry hreal
      have hnext := ih (valid_step hwell hvalid hstep) (by simpa using hrest)
        (at_entry hnode hentry)
      simpa [Station.next] using hnext
    · intro e he hne
      have hmemE := mem_sortByName.mp he
      have hother : e.1 ≠ next := name_ne_of_entry_ne hnames hmemE hentry hne
      dsimp only
      rw [if_neg hother]
      refine waysOf_entry_apart hwell h hsame hvalid hnode hmemE ?_
      rw [← hrest, List.prefix_append_right_inj, List.cons_prefix_cons]
      exact fun heq => hother heq.1

/-! ### The whole walk -/

/-- A walk that starts above the new file comes upon it once, between the files it came upon. -/
theorem waysOf_sightings_above (hwell : wellNamed fs.root = true)
    (h : FreshFile fs dir name bytes) {root : Path} (hroot : root <+: dir) :
    OneMore (dir ++ [name]) (waysOf (fs.sightings root))
      (waysOf ((putFile fs (dir ++ [name]) bytes).sightings root)) := by
  obtain ⟨entries, hentries⟩ := exists_on_way h hroot
  obtain ⟨rest, rfl⟩ := hroot
  have hmore := waysOf_on_way hwell h (sameApart_descendUpTo hwell h fs.root.linkCount)
    (s := .start root) (valid_start hwell hentries) rfl hentries
  rw [← visitUpTo_eq_visitAt, ← visitUpTo_eq_visitAt, List.append_assoc] at hmore
  rw [FileSystem.sightings, FileSystem.sightings, linkCount_putFile h, at_putFile_on_way hentries,
    hentries, List.append_assoc]
  exact hmore

/-- A walk that starts elsewhere never comes upon the new file. -/
theorem waysOf_sightings_apart (hwell : wellNamed fs.root = true)
    (h : FreshFile fs dir name bytes) {root : Path} {entries : List (String × Node)}
    (hroot : fs.root.at? root = some (.directory entries)) (hapart : ¬ root <+: dir) :
    waysOf ((putFile fs (dir ++ [name]) bytes).sightings root) = waysOf (fs.sightings root) := by
  have hsame := waysOf_directory_apart hwell h (sameApart_descendUpTo hwell h fs.root.linkCount)
    (s := .start root) (valid_start hwell hroot) hroot hapart
  rw [← visitUpTo_eq_visitAt, ← visitUpTo_eq_visitAt] at hsame
  rw [FileSystem.sightings, FileSystem.sightings, linkCount_putFile h,
    at_putFile_apart h hroot hapart, hroot]
  exact hsame

/-! ### What is found -/

/-- What is turned up is the same, or one of the two lists has one more in it. -/
inductive TurnsUpMore (root new : Path) (d d' : Discovered) : Prop
  | nothing (same : d' = d)
  | ignored (more : OneMore (new.drop root.length) d.ignored d'.ignored)
      (same : d'.candidates = d.candidates)
  | candidate (more : OneMore ⟨new.drop root.length, new⟩ d.candidates d'.candidates)
      (same : d'.ignored = d.ignored)

section Ways

variable {a b : List Sighting}

lemma turnedUp_congr (selection : Selection) (root : Path) (hways : waysOf b = waysOf a) :
    turnedUp selection root b = turnedUp selection root a := by
  rw [turnedUp_eq, turnedUp_eq, wantedWays, hways, wantedWays]

/-- One more way is put into the list where it belongs, if it is wanted at all. -/
lemma turnsUpMore_of_oneMore (selection : Selection) (root : Path) {new : Path}
    (hways : OneMore new (waysOf a) (waysOf b)) :
    TurnsUpMore root new (turnedUp selection root a) (turnedUp selection root b) := by
  rw [turnedUp_eq, turnedUp_eq]
  cases hwants : selection.wants new with
  | false =>
    have hwanted : wantedWays selection b = wantedWays selection a :=
      filter_eq_of_oneMore hways hwants
    exact .nothing (by rw [hwanted])
  | true =>
    have hwanted : OneMore new (wantedWays selection a) (wantedWays selection b) :=
      oneMore_filter hways hwants
    cases hexcluded : isExcluded selection new with
    | true =>
      refine .ignored (oneMore_map (oneMore_filter hwanted hexcluded) _) ?_
      exact congrArg (List.map _) (filter_eq_of_oneMore hwanted (by simp [hexcluded]))
    | false =>
      refine .candidate (oneMore_map (oneMore_filter hwanted (by simp [hexcluded])) _) ?_
      exact congrArg (List.map _) (filter_eq_of_oneMore hwanted hexcluded)

lemma total_of_oneMore_wanted {selection : Selection} (root : Path) {new : Path}
    (hways : OneMore new (waysOf a) (waysOf b)) (hwants : selection.wants new = true) :
    (turnedUp selection root b).total = (turnedUp selection root a).total + 1 := by
  rw [total_turnedUp, total_turnedUp]
  exact oneMore_length (oneMore_filter hways hwants)

lemma total_of_oneMore_unwanted {selection : Selection} (root : Path) {new : Path}
    (hways : OneMore new (waysOf a) (waysOf b)) (hwants : selection.wants new = false) :
    (turnedUp selection root b).total = (turnedUp selection root a).total := by
  rw [total_turnedUp, total_turnedUp, wantedWays, filter_eq_of_oneMore hways hwants, wantedWays]

end Ways

/-! ### What is read -/

variable [CharacterNames]

/-- The check of a file that was listed comes to the same. -/
lemma checkFile_newFile (hslash : slashFree fs.root = true) (h : FreshFile fs dir name bytes)
    {root : Path} {entries : List (String × Node)}
    (hroot : fs.root.at? root = some (.directory entries)) {extension : String} {p : Path}
    (hlisted : Listed fs root extension p) :
    checkFile (putFile fs (dir ++ [name]) bytes) (Path.absoluteText (root ++ p)) =
      checkFile fs (Path.absoluteText (root ++ p)) := by
  obtain ⟨t, _, _, hresolved, content, hfile⟩ := hlisted.reached
  obtain ⟨hpath, hne⟩ := readable_of_listed hslash hroot hlisted
  obtain ⟨entries', hroot'⟩ := directory_putFile h hroot
  obtain ⟨top, htop⟩ := directory_of_at hroot
  obtain ⟨top', htop'⟩ := directory_of_at hroot'
  have hread : (putFile fs (dir ++ [name]) bytes).readBytes (Path.absoluteText (root ++ p)) =
      fs.readBytes (Path.absoluteText (root ++ p)) := by
    rw [FileSystem.readBytes, FileSystem.readBytes, resolve_absoluteText htop hpath hne,
      resolve_absoluteText htop' hpath hne, resolvePath_newFile (newFileAt h) hresolved, hresolved]
    dsimp only
    rw [hfile, file_putFile h hfile]
  rw [checkFile, checkFile, FileSystem.readText, FileSystem.readText, hread]

/-! ### The two runs -/

/-- A run with one more file in the tree finds the same and tells the same of everything else. -/
structure NewFileOnly (root new : Path) (r r' : Run) : Prop where
  candidates_kept : r'.discovered.candidates = r.discovered.candidates ∨
    OneMore ⟨new.drop root.length, new⟩ r.discovered.candidates r'.discovered.candidates
  ignored_kept : r'.discovered.ignored = r.discovered.ignored ∨
    OneMore (new.drop root.length) r.discovered.ignored r'.discovered.ignored
  one_entry : r'.discovered.candidates = r.discovered.candidates ∨
    r'.discovered.ignored = r.discovered.ignored
  failures_kept : r'.report.failures = r.report.failures ∨
    ∃ message, OneMore ⟨Path.text (new.drop root.length), message⟩
      r.report.failures r'.report.failures

lemma outcomes_kept (hwell : wellNamed fs.root = true) (hslash : slashFree fs.root = true)
    (h : FreshFile fs dir name bytes) {root : Path} {entries : List (String × Node)}
    (hroot : fs.root.at? root = some (.directory entries)) (settings : Settings) :
    ((Run.ofRoot fs root settings).discovered.candidates.map fun c =>
        (CheckedFile.ofCandidate (putFile fs (dir ++ [name]) bytes) c).outcome) =
      (Run.ofRoot fs root settings).outcomes := by
  rw [outcomes_eq_map]
  refine List.map_congr_left fun c hc => ?_
  have hexact := exactDiscovery_discover hwell hroot settings
  obtain ⟨habsolute, hlisted, _⟩ := (mem_candidates_iff hexact c).mp hc
  simp only [CheckedFile.outcome, CheckedFile.ofCandidate, habsolute,
    checkFile_newFile hslash h hroot hlisted]

lemma newFileOnly_of_turnsUpMore (hwell : wellNamed fs.root = true)
    (hslash : slashFree fs.root = true) (h : FreshFile fs dir name bytes) {root : Path}
    {entries : List (String × Node)} (hroot : fs.root.at? root = some (.directory entries))
    (settings : Settings)
    (hmore : TurnsUpMore root (dir ++ [name])
      (Run.ofRoot fs root settings).discovered
      (Run.ofRoot (putFile fs (dir ++ [name]) bytes) root settings).discovered) :
    NewFileOnly root (dir ++ [name]) (Run.ofRoot fs root settings)
      (Run.ofRoot (putFile fs (dir ++ [name]) bytes) root settings) := by
  have hkept := outcomes_kept hwell hslash h hroot settings
  have houtcomes := outcomes_eq_map (putFile fs (dir ++ [name]) bytes) root settings
  have hsame : (Run.ofRoot (putFile fs (dir ++ [name]) bytes) root settings).discovered.candidates =
        (Run.ofRoot fs root settings).discovered.candidates →
      (Run.ofRoot (putFile fs (dir ++ [name]) bytes) root settings).report.failures =
        (Run.ofRoot fs root settings).report.failures := by
    intro hcandidates
    rw [hcandidates, hkept] at houtcomes
    exact congrArg (List.filterMap Run.failure?) houtcomes
  cases hmore with
  | nothing same =>
    exact ⟨.inl (by rw [same]), .inl (by rw [same]), .inl (by rw [same]),
      .inl (hsame (by rw [same]))⟩
  | ignored more same => exact ⟨.inl same, .inr more, .inl same, .inl (hsame same)⟩
  | candidate more same =>
    refine ⟨.inr more, .inl same, .inr same, ?_⟩
    have houtcome := oneMore_map more fun c =>
      (CheckedFile.ofCandidate (putFile fs (dir ++ [name]) bytes) c).outcome
    rw [hkept, ← houtcomes] at houtcome
    cases hfailure : Run.failure? (CheckedFile.ofCandidate (putFile fs (dir ++ [name]) bytes)
        ⟨(dir ++ [name]).drop root.length, dir ++ [name]⟩).outcome with
    | none => exact Or.inl (filterMap_eq_of_oneMore houtcome hfailure)
    | some failure =>
      have hpath := path_of_failure hfailure
      have hfailures := oneMore_filterMap houtcome hfailure
      obtain ⟨path, message⟩ := failure
      subst hpath
      exact Or.inr ⟨message, hfailures⟩

end Fresh

end SyntaxCheck.Proofs
