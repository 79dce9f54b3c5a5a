import Mathlib.Data.List.TakeWhile
import Mathlib.Tactic
import SyntaxCheck.Proofs.WalkWays
import SyntaxCheck.Run.Basic

/-!
# What a discovery turns up

Of the files at which a walk arrives, a discovery keeps those whose name ends in a dot and the
extension, with something in front. Each is kept once, in one of two lists: among the ignored files
if a fragment occurs in its path from the top, else among the candidates.
-/

namespace SyntaxCheck.Proofs

open Relation

variable {fs : FileSystem}

/-! ### Names with an extension -/

/-- The name is something that is not empty, a dot and the extension, which has no dot in it. -/
def HasExtension (extension name : String) : Prop :=
  ∃ stem, stem ≠ "" ∧ name = stem ++ "." ++ extension ∧ '.' ∉ extension.toList

lemma extension_of_append {stem extension : String} (hstem : stem ≠ "")
    (hdot : '.' ∉ extension.toList) :
    Path.extension? (stem ++ "." ++ extension) = some extension := by
  have hchars : (stem ++ "." ++ extension).toList.reverse =
      extension.toList.reverse ++ '.' :: stem.toList.reverse := by
    simp
  have hpass : ∀ c ∈ extension.toList.reverse, (c != '.') = true := by
    intro c hc
    rw [List.mem_reverse] at hc
    exact bne_iff_ne.mpr fun heq => hdot (heq ▸ hc)
  rw [Path.extension?, hchars, List.takeWhile_append_of_pos hpass,
    List.dropWhile_append_of_pos hpass]
  simp [hstem]

lemma hasExtension_of_extension {extension name : String}
    (h : Path.extension? name = some extension) : HasExtension extension name := by
  have hsplit := List.takeWhile_append_dropWhile (p := (· != '.')) (l := name.toList.reverse)
  rw [Path.extension?] at h
  generalize htail : name.toList.reverse.takeWhile (· != '.') = tail at h hsplit
  cases hfront : name.toList.reverse.dropWhile (· != '.') with
  | nil => simp [hfront] at h
  | cons c front =>
    have hc : c = '.' := by
      have hhead := List.head_dropWhile_not (· != '.') (l := name.toList.reverse) (by simp [hfront])
      simpa [hfront] using hhead
    subst hc
    have hne : front ≠ [] := by
      rintro rfl
      simp [hfront] at h
    obtain rfl : String.ofList tail.reverse = extension := by
      simpa [hfront, hne] using h
    refine ⟨String.ofList front.reverse, ?_, ?_, ?_⟩
    · intro hempty
      apply hne
      simpa using congrArg String.toList hempty
    · rw [hfront] at hsplit
      apply String.toList_injective
      rw [← List.reverse_inj, ← hsplit]
      simp
    · intro hdot
      rw [String.toList_ofList, List.mem_reverse, ← htail] at hdot
      simpa using List.mem_takeWhile_imp hdot

lemma extension_eq_some_iff (extension name : String) :
    Path.extension? name = some extension ↔ HasExtension extension name := by
  constructor
  · exact hasExtension_of_extension
  · rintro ⟨stem, hstem, rfl, hdot⟩
    exact extension_of_append hstem hdot

lemma wants_iff (selection : Selection) (path : Path) :
    selection.wants path = true ↔
      ∃ name, path.getLast? = some name ∧ HasExtension selection.extension name := by
  rw [Selection.wants, beq_iff_eq, Option.bind_eq_some_iff]
  simp only [extension_eq_some_iff]

/-! ### Ignored paths -/

lemma occursIn_iff (fragment text : List Char) :
    occursIn fragment text = true ↔ fragment <:+: text := by
  induction text with
  | nil => simp [occursIn]
  | cons c rest ih =>
    rw [occursIn, Bool.or_eq_true, List.isPrefixOf_iff_prefix, ih, List.infix_cons_iff]

lemma isIgnored_iff (rules : IgnoreRules) (text : String) :
    rules.isIgnored text = true ↔ ∃ f ∈ rules.fragments, f.toList <:+: text.toList := by
  rw [IgnoreRules.isIgnored, IgnoreRules.matching?, List.find?_isSome]
  simp only [occursIn_iff]

/-! ### The two lists -/

section Lists

variable (selection : Selection) (root : Path)

/-- The ways of a walk that lead to files with the wanted extension. -/
def wantedWays (sightings : List Sighting) : List Path :=
  (waysOf sightings).filter selection.wants

/-- Whether a fragment occurs in the path from the top. -/
def isExcluded (way : Path) : Bool :=
  selection.rules.isIgnored way.absoluteText

/-- The files that a discovery turns up among what a walk came upon. -/
def turnedUp (sightings : List Sighting) : Discovered :=
  .ofFindings (sightings.filterMap (selection.classify root))

lemma classify_wanted {way : Path} (h : selection.wants way = true) :
    (isExcluded selection way = true ∧ ∃ fragment,
        selection.classify root (.file way) = some (.ignored (way.drop root.length) fragment)) ∨
      (isExcluded selection way = false ∧
        selection.classify root (.file way) = some (.candidate ⟨way.drop root.length, way⟩)) := by
  unfold isExcluded IgnoreRules.isIgnored Selection.classify
  cases hmatch : selection.rules.matching? way.absoluteText with
  | none => simp [h, hmatch]
  | some fragment => simp [h, hmatch]

lemma classify_unwanted {way : Path} (h : selection.wants way = false) :
    selection.classify root (.file way) = none := by
  simp [Selection.classify, h]

/-- The wanted ways are divided between the two lists, each in the order of the walk. -/
lemma turnedUp_eq (sightings : List Sighting) :
    turnedUp selection root sightings =
      ⟨((wantedWays selection sightings).filter fun way => !isExcluded selection way).map
          fun way => ⟨way.drop root.length, way⟩,
        ((wantedWays selection sightings).filter (isExcluded selection)).map
          fun way => way.drop root.length⟩ := by
  induction sightings with
  | nil => rfl
  | cons sighting rest ih =>
    simp only [turnedUp, Discovered.ofFindings, Discovered.mk.injEq] at ih
    cases sighting with
    | fault fault =>
      have hways : waysOf (.fault fault :: rest) = waysOf rest := rfl
      simpa [turnedUp, Discovered.ofFindings, Selection.classify, wantedWays, hways] using ih
    | file way =>
      have hways : waysOf (.file way :: rest) = way :: waysOf rest := rfl
      cases hwants : selection.wants way with
      | false =>
        simpa [turnedUp, Discovered.ofFindings, classify_unwanted selection root hwants,
          wantedWays, hways, hwants] using ih
      | true =>
        rcases classify_wanted selection root hwants with
          ⟨hexcluded, fragment, hclassify⟩ | ⟨hexcluded, hclassify⟩
        · simpa [turnedUp, Discovered.ofFindings, hclassify, wantedWays, hways, hwants,
            hexcluded] using ih
        · simpa [turnedUp, Discovered.ofFindings, hclassify, wantedWays, hways, hwants,
            hexcluded] using ih

lemma turnedUp_perm (sightings : List Sighting) :
    ((turnedUp selection root sightings).candidates.map (·.path) ++
        (turnedUp selection root sightings).ignored).Perm
      ((wantedWays selection sightings).map fun way => way.drop root.length) := by
  rw [turnedUp_eq, List.map_map]
  change (List.map (List.drop root.length) _ ++ List.map (List.drop root.length) _).Perm _
  rw [← List.map_append]
  refine List.Perm.map _ (List.perm_append_comm.trans ?_)
  exact List.filter_append_perm (isExcluded selection) _

lemma total_turnedUp (sightings : List Sighting) :
    (turnedUp selection root sightings).total = (wantedWays selection sightings).length := by
  have hperm := (turnedUp_perm selection root sightings).length_eq
  rwa [List.length_append, List.length_map, List.length_map] at hperm

end Lists

/-! ### What is listed -/

/-- The walk reaches the path, which resolves to a regular file and has the extension. -/
structure Listed (fs : FileSystem) (root : Path) (extension : String) (p : Path) : Prop where
  reached : ∃ t, ReflTransGen (WalkStep fs) (.start root) t ∧ t.way = root ++ p ∧
    fs.resolvePath (root ++ p) = .ok t.place ∧ ∃ content, fs.root.at? t.place = some (.file content)
  named : ∃ name, p.getLast? = some name ∧ HasExtension extension name

lemma way_extends {s t : Station} (hreach : ReflTransGen (WalkStep fs) s t) : s.way <+: t.way := by
  induction hreach with
  | refl => exact List.prefix_rfl
  | tail _ hstep ih =>
    cases hstep with
    | entry => exact ih.trans (List.prefix_append _ _)
    | link => exact ih.trans (List.prefix_append _ _)

/-- A file is reached by a way that is longer than that of the directory it is reached from. -/
lemma way_longer {s t : Station} {entries : List (String × Node)} (hnode : s.Holds fs entries)
    (hreach : ReflTransGen (WalkStep fs) s t) {content : List UInt8}
    (hfile : fs.root.at? t.place = some (.file content)) :
    ∃ p name, t.way = s.way ++ (p ++ [name]) := by
  rcases ReflTransGen.cases_tail hreach with heq | ⟨u, hreach, hstep⟩
  · rw [heq, hnode] at hfile
    cases hfile
  · obtain ⟨p, hp⟩ := way_extends hreach
    cases hstep with
    | entry => exact ⟨p, _, by rw [← List.append_assoc, hp]⟩
    | link => exact ⟨p, _, by rw [← List.append_assoc, hp]⟩

lemma mem_wantedWays_iff (hwell : wellNamed fs.root = true) {root : Path}
    {entries : List (String × Node)} (hroot : fs.root.at? root = some (.directory entries))
    (selection : Selection) (way : Path) :
    way ∈ wantedWays selection (fs.sightings root) ↔
      ∃ p, way = root ++ p ∧ Listed fs root selection.extension p := by
  rw [wantedWays, List.mem_filter, mem_waysOf, file_mem_sightings_iff hwell hroot, wants_iff]
  constructor
  · rintro ⟨⟨t, hreach, rfl, content, hfile⟩, name, hname, hextension⟩
    have hvalid := valid_reached hwell (valid_start hwell hroot) hreach
    obtain ⟨p, last, hway⟩ := way_longer (s := .start root) hroot hreach hfile
    change t.way = root ++ (p ++ [last]) at hway
    refine ⟨p ++ [last], hway, ⟨t, hreach, hway, ?_, content, hfile⟩, name, ?_, hextension⟩
    · rw [← hway]
      exact hvalid.way_resolves
    · rw [hway, ← List.append_assoc, List.getLast?_concat] at hname
      rw [List.getLast?_concat, hname]
  · rintro ⟨p, rfl, ⟨t, hreach, hway, _, content, hfile⟩, name, hname, hextension⟩
    refine ⟨⟨t, hreach, hway, content, hfile⟩, name, ?_, hextension⟩
    rw [List.getLast?_append, hname, Option.some_or]

/-- Real directories are entered whatever links stand elsewhere. -/
lemma reached_by_entries {s : Station} {start node : Node} {p : Path}
    (hstart : fs.root.at? s.place = some start) (hnode : start.at? p = some node)
    (hreal : IsReal node) :
    ∃ t, ReflTransGen (WalkStep fs) s t ∧ t.way = s.way ++ p ∧ t.place = s.place ++ p := by
  induction p generalizing s start with
  | nil => exact ⟨s, ReflTransGen.refl, by simp, by simp⟩
  | cons name p ih =>
    obtain ⟨entries, child, rfl, hlisted, hbelow⟩ := at_cons_eq_some hnode
    have hstep := WalkStep.entry hstart hlisted (isReal_of_at hbelow hreal)
    obtain ⟨t, hreach, hway, hplace⟩ :=
      ih (s := ⟨s.within, s.place ++ [name], s.way ++ [name]⟩) (at_entry hstart hlisted) hbelow
    exact ⟨t, ReflTransGen.head hstep hreach, by simp [hway], by simp [hplace]⟩

lemma listed_of_at (hwell : wellNamed fs.root = true) {root p : Path}
    {entries : List (String × Node)} (hroot : fs.root.at? root = some (.directory entries))
    {content : List UInt8} (hfile : fs.root.at? (root ++ p) = some (.file content))
    {extension name : String} (hname : p.getLast? = some name)
    (hextension : HasExtension extension name) : Listed fs root extension p := by
  have hbelow : (Node.directory entries).at? p = some (.file content) := by
    rw [at_append, hroot, Option.bind_some] at hfile
    exact hfile
  obtain ⟨t, hreach, hway, hplace⟩ :=
    reached_by_entries (s := .start root) hroot hbelow (isReal_file content)
  change t.way = root ++ p at hway
  change t.place = root ++ p at hplace
  refine ⟨⟨t, hreach, hway, ?_, content, ?_⟩, name, hname, hextension⟩
  · rw [hplace]
    exact resolvePath_real hwell hfile (isReal_file content)
  · rw [hplace]
    exact hfile

/-! ### The whole discovery -/

/-- A discovery lists exactly the files that it should, each in the one list where it belongs. -/
structure ExactDiscovery (fs : FileSystem) (root : Path) (settings : Settings)
    (found : Discovered) : Prop where
  mem_iff : ∀ p, p ∈ found.candidates.map (·.path) ++ found.ignored ↔
    Listed fs root settings.extension p
  nodup : (found.candidates.map (·.path) ++ found.ignored).Nodup
  total_eq : found.total = (found.candidates.map (·.path) ++ found.ignored).length
  ignored_iff : ∀ p, p ∈ found.ignored ↔ Listed fs root settings.extension p ∧
    ∃ f ∈ settings.ignore, f.toList <:+: (Path.absoluteText (root ++ p)).toList
  absolute_eq : ∀ c ∈ found.candidates, c.absolute = root ++ c.path
  link_free_once : ∀ p content name, fs.root.at? (root ++ p) = some (.file content) →
    p.getLast? = some name → HasExtension settings.extension name →
    (found.candidates.map (·.path) ++ found.ignored).count p = 1

lemma exactDiscovery_discover (hwell : wellNamed fs.root = true) {root : Path}
    {entries : List (String × Node)} (hroot : fs.root.at? root = some (.directory entries))
    (settings : Settings) :
    ExactDiscovery fs root settings
      (.ofFindings (discover fs root ⟨settings.extension, ⟨settings.ignore⟩⟩)) := by
  let selection : Selection := ⟨settings.extension, ⟨settings.ignore⟩⟩
  let ways := wantedWays selection (fs.sightings root)
  change ExactDiscovery fs root settings (turnedUp selection root (fs.sightings root))
  have hways : ∀ way, way ∈ ways ↔ ∃ p, way = root ++ p ∧ Listed fs root settings.extension p :=
    mem_wantedWays_iff hwell hroot selection
  have hperm := turnedUp_perm selection root (fs.sightings root)
  have hmem : ∀ p, p ∈ ways.map (fun way => way.drop root.length) ↔
      Listed fs root settings.extension p := by
    intro p
    rw [List.mem_map]
    constructor
    · rintro ⟨way, hway, rfl⟩
      obtain ⟨p, rfl, hlisted⟩ := (hways way).mp hway
      rwa [List.drop_left]
    · intro hlisted
      exact ⟨root ++ p, (hways _).mpr ⟨p, rfl, hlisted⟩, List.drop_left⟩
  have hnodup : (ways.map fun way => way.drop root.length).Nodup := by
    refine List.Nodup.map_on ?_ ((goOnFrom_sightings hwell hroot).nodup.filter _)
    intro a ha b hb heq
    obtain ⟨p, rfl, _⟩ := (hways a).mp ha
    obtain ⟨q, rfl, _⟩ := (hways b).mp hb
    rw [List.drop_left, List.drop_left] at heq
    rw [heq]
  have hall : ∀ p, p ∈ _ ↔ Listed fs root settings.extension p :=
    fun p => hperm.mem_iff.trans (hmem p)
  refine ⟨hall, hperm.nodup_iff.mpr hnodup, ?_, ?_, ?_, ?_⟩
  · rw [Discovered.total, List.length_append, List.length_map]
  · intro p
    rw [turnedUp_eq, List.mem_map]
    constructor
    · rintro ⟨way, hway, rfl⟩
      obtain ⟨hwanted, hexcluded⟩ := List.mem_filter.mp hway
      obtain ⟨p, rfl, hlisted⟩ := (hways way).mp hwanted
      rw [List.drop_left]
      exact ⟨hlisted, (isIgnored_iff selection.rules _).mp hexcluded⟩
    · rintro ⟨hlisted, hfragment⟩
      refine ⟨root ++ p, List.mem_filter.mpr ⟨(hways _).mpr ⟨p, rfl, hlisted⟩, ?_⟩, List.drop_left⟩
      exact (isIgnored_iff selection.rules _).mpr hfragment
  · intro c hc
    rw [turnedUp_eq, List.mem_map] at hc
    obtain ⟨way, hway, rfl⟩ := hc
    obtain ⟨p, rfl, _⟩ := (hways way).mp (List.mem_filter.mp hway).1
    rw [List.drop_left]
  · intro p content name hfile hname hextension
    refine List.count_eq_one_of_mem (hperm.nodup_iff.mpr hnodup) ?_
    exact (hall p).mpr (listed_of_at hwell hroot hfile hname hextension)

lemma mem_candidates_iff {place : Path} {settings : Settings} {found : Discovered}
    (h : ExactDiscovery fs place settings found) (c : Candidate) :
    c ∈ found.candidates ↔
      c.absolute = place ++ c.path ∧ Listed fs place settings.extension c.path ∧
      ∀ f ∈ settings.ignore, ¬ f.toList <:+: (Path.absoluteText (place ++ c.path)).toList := by
  constructor
  · intro hc
    have hpath : c.path ∈ found.candidates.map (·.path) := List.mem_map_of_mem hc
    have hlisted := (h.mem_iff c.path).mp (List.mem_append_left _ hpath)
    refine ⟨h.absolute_eq c hc, hlisted, ?_⟩
    intro f hf hinfix
    -- No path stands in both lists.
    have hignored := (h.ignored_iff c.path).mpr ⟨hlisted, f, hf, hinfix⟩
    exact (List.nodup_append.mp h.nodup).2.2 _ hpath _ hignored rfl
  · rintro ⟨habsolute, hlisted, hkept⟩
    rcases List.mem_append.mp ((h.mem_iff c.path).mpr hlisted) with hmem | hmem
    · obtain ⟨d, hd, hpath⟩ := List.mem_map.mp hmem
      have hsame : d = c := by
        have hd' := h.absolute_eq d hd
        cases c
        cases d
        simp_all
      exact hsame ▸ hd
    · obtain ⟨_, f, hf, hinfix⟩ := (h.ignored_iff c.path).mp hmem
      exact absurd hinfix (hkept f hf)

lemma directory_of_resolveRoot {text : String} {place : Path}
    (h : resolveRoot fs text = .ok place) :
    ∃ entries, fs.root.at? place = some (.directory entries) :=
  (resolveRoot_eq_ok_iff.mp h).2

/-- Whatever links there are in the tree, a discovery finds exactly the files that the walk reaches
and that have the extension, once each. -/
theorem discovery_is_exact (fs : FileSystem) (root : String) (settings : Settings) (place : Path)
    (hwell : wellNamed fs.root = true) (hroot : resolveRoot fs root = .ok place) :
    ExactDiscovery fs place settings
      (.ofFindings (discover fs place ⟨settings.extension, ⟨settings.ignore⟩⟩)) := by
  obtain ⟨entries, hplace⟩ := directory_of_resolveRoot hroot
  exact exactDiscovery_discover hwell hplace settings

/-- A file, a link to it, a link that leads nowhere, a link back to the root, and a directory
outside the root that two links lead to. -/
def linkedFiles : FileSystem where
  root := .directory
    [("lib", .directory [("b.py", .file []), ("up", .link "../p")]),
      ("p", .directory [("a.py", .file []), ("c.py", .link "a.py"), ("d.py", .link "none"),
        ("here", .link "."), ("x", .link "../lib"), ("venv", .link "x")])]
  current := ["p"]

theorem discovery_is_exact_linkedFiles :
    wellNamed linkedFiles.root = true ∧ resolveRoot linkedFiles "." = .ok ["p"] ∧
    ExactDiscovery linkedFiles ["p"] Settings.default
      ⟨[⟨["a.py"], ["p", "a.py"]⟩, ⟨["c.py"], ["p", "c.py"]⟩, ⟨["x", "b.py"], ["p", "x", "b.py"]⟩],
        [["venv", "b.py"]]⟩ := by
  have hwell : wellNamed linkedFiles.root = true := by rfl
  have hroot : resolveRoot linkedFiles "." = .ok ["p"] := by rfl
  have hfound : Discovered.ofFindings (discover linkedFiles ["p"]
      ⟨Settings.default.extension, ⟨Settings.default.ignore⟩⟩) =
      ⟨[⟨["a.py"], ["p", "a.py"]⟩, ⟨["c.py"], ["p", "c.py"]⟩, ⟨["x", "b.py"], ["p", "x", "b.py"]⟩],
        [["venv", "b.py"]]⟩ := by decide +kernel
  refine ⟨hwell, hroot, ?_⟩
  rw [← hfound]
  exact discovery_is_exact linkedFiles "." Settings.default ["p"] hwell hroot

end SyntaxCheck.Proofs
