import Mathlib.Tactic
import SyntaxCheck.Proofs.ResolutionSteps
import SyntaxCheck.Proofs.RunProtocol
import SyntaxCheck.Proofs.WrittenPaths

/-!
# The ways to write a root

However a root is written, a run starts at the place that the writing resolves to and knows of
nothing else. That place has one path without dots and links, which resolves to itself. A root is
refused as missing if no place can be reached step by step, and as no directory if something else
stands there.
-/

namespace SyntaxCheck.Proofs

open Relation

variable {fs : FileSystem}

/-- The resolution of a written path at its start. -/
def startingAt (fs : FileSystem) (text : String) : Resolution where
  here := FileSystem.startOf fs.current text
  left := Path.components text
  links := 0

/-- The parts of the path lead to the place, through no more links than may be followed. -/
def ResolvesTo (fs : FileSystem) (text : String) (place : Path) : Prop :=
  text ≠ "" ∧ ∃ links ≤ FileSystem.linkLimit,
    ReflTransGen (ResolutionStep fs) (startingAt fs text) ⟨place, [], links⟩

/-- Nothing is written, or the parts of the path lead to one that leads nowhere, or through too many
links. -/
def LeadsNowhere (fs : FileSystem) (text : String) : Prop :=
  text = "" ∨ ∃ s, ReflTransGen (ResolutionStep fs) (startingAt fs text) s ∧
    (Stuck fs s ∨ FileSystem.linkLimit < s.links)

/-- The path is the one by which a place is known: it is absolute, it has no dots, no link lies on
it, and it resolves to itself. -/
structure CanonicalPath (fs : FileSystem) (place : Path) : Prop where
  absolute : Path.isAbsolute place.absoluteText = true
  plain : ∀ part ∈ Path.components place.absoluteText, part ≠ "." ∧ part ≠ ".."
  stands : ∃ node, fs.root.at? place = some node
  link_free : ∀ p, p <+: place → ∀ target, fs.root.at? p ≠ some (.link target)
  fixed : fs.resolve place.absoluteText = .ok place

/-- What becomes of a root that is written as `text`. -/
structure RootSpelling [CharacterNames] (fs : FileSystem) (text : String) : Prop where
  ok_iff : ∀ root, resolveRoot fs text = .ok root ↔ ResolvesTo fs text root ∧ DirectoryAt fs root
  canonical : ∀ root, resolveRoot fs text = .ok root →
    CanonicalPath fs root ∧ DirectoryAt fs root ∧ resolveRoot fs root.absoluteText = .ok root
  same_run : ∀ other root settings, resolveRoot fs text = .ok root →
    resolveRoot fs other = .ok root → ∃ r r', run fs text settings = .ok r ∧
      run fs other settings = .ok r' ∧ r.events = r'.events ∧ r.report = r'.report ∧
      r.report.root = root.absoluteText
  missing_iff : resolveRoot fs text = .error (.missing text) ↔ ∀ place, ¬ ResolvesTo fs text place
  unresolved_iff : (∀ place, ¬ ResolvesTo fs text place) ↔ LeadsNowhere fs text
  loop_unresolved : ∀ s links, ReflTransGen (ResolutionStep fs) (startingAt fs text) s →
    ReflTransGen (ResolutionStep fs) s ⟨s.here, s.left, links⟩ → s.links < links →
    ∀ place, ¬ ResolvesTo fs text place
  notDirectory_iff : ∀ place, resolveRoot fs text = .error (.notDirectory place) ↔
    ResolvesTo fs text place ∧ ¬ DirectoryAt fs place
  notDirectory_canonical : ∀ place, resolveRoot fs text = .error (.notDirectory place) →
    CanonicalPath fs place
  no_other_error : ∀ error, resolveRoot fs text = .error error →
    error = .missing text ∨ ∃ place, error = .notDirectory place

/-! ### Where a written path leads -/

lemma resolve_eq_outcome {text : String} (h : text ≠ "") :
    fs.resolve text = (startingAt fs text).outcome fs FileSystem.linkLimit := by
  rw [FileSystem.resolve, if_neg h]
  rfl

lemma resolve_eq_ok_iff (hwell : wellNamed fs.root = true) {text : String} {place : Path} :
    fs.resolve text = .ok place ↔ ResolvesTo fs text place := by
  by_cases htext : text = ""
  · simp [FileSystem.resolve, ResolvesTo, htext]
  · rw [resolve_eq_outcome htext, outcome_eq_ok_iff hwell, ResolvesTo, and_iff_right htext]

lemma resolve_eq_error_iff (hwell : wellNamed fs.root = true) {text : String} :
    (∃ error, fs.resolve text = .error error) ↔ LeadsNowhere fs text := by
  by_cases htext : text = ""
  · simp [FileSystem.resolve, LeadsNowhere, htext]
  · rw [resolve_eq_outcome htext, outcome_eq_error_iff hwell, LeadsNowhere, or_iff_right htext]

lemma unresolved_iff_error (hwell : wellNamed fs.root = true) {text : String} :
    (∀ place, ¬ ResolvesTo fs text place) ↔ ∃ error, fs.resolve text = .error error := by
  simp only [← resolve_eq_ok_iff hwell]
  cases fs.resolve text with
  | ok place => simp
  | error error => simp

lemma components_ne_nil (text : String) : Path.components text ≠ [] := by
  rw [Path.components, ne_eq, List.map_eq_nil_iff]
  exact splitSlashes_ne_nil _

lemma realPlace_of_resolvesTo {text : String} {place : Path} (h : ResolvesTo fs text place) :
    RealPlace fs place ∧ DirectoryAt fs [] := by
  obtain ⟨_, links, _, hsteps⟩ := h
  -- A written path has parts, so at least one step was taken, wherever the resolution started.
  exact realPlace_of_steps hsteps (components_ne_nil text)

/-! ### The path of a place -/

lemma components_slash : Path.components (Path.absoluteText []) = ["", ""] := rfl

lemma mem_components_absoluteText (hslash : slashFree fs.root = true) {place : Path} {node : Node}
    (hnode : fs.root.at? place = some node) {part : String}
    (hpart : part ∈ Path.components place.absoluteText) : part = "" ∨ part ∈ place := by
  cases place with
  | nil =>
    rw [components_slash] at hpart
    simpa using hpart
  | cons name rest =>
    rw [components_absoluteText (slashFree_at hslash hnode) (List.cons_ne_nil name rest)] at hpart
    exact List.mem_cons.mp hpart

lemma link_free_of_realPlace {place : Path} (h : RealPlace fs place) {p : Path} (hp : p <+: place)
    (target : String) : fs.root.at? p ≠ some (.link target) := by
  obtain ⟨below, rfl⟩ := hp
  obtain ⟨node, hnode, hreal⟩ := h
  obtain ⟨above, habove, hbelow⟩ := exists_above hnode
  rw [habove]
  exact fun hlink => isReal_of_at hbelow hreal target (Option.some.inj hlink)

/-- The top of a tree is named by a slash, if the top is a directory. -/
lemma resolve_slash {entries : List (String × Node)} (htop : fs.root = .directory entries) :
    fs.resolve (Path.absoluteText []) = .ok [] := by
  rw [resolve_absolute, components_slash, walkUpTo_empty_part htop, walkUpTo_empty_part htop,
    walkUpTo_nil]

lemma resolve_of_realPlace (hwell : wellNamed fs.root = true) (hslash : slashFree fs.root = true)
    (htop : DirectoryAt fs []) {place : Path} (h : RealPlace fs place) :
    fs.resolve place.absoluteText = .ok place := by
  obtain ⟨entries, hentries⟩ := htop
  have hroot : fs.root = .directory entries := by simpa [Node.at?] using hentries
  by_cases hne : place = []
  · rw [hne]
    exact resolve_slash hroot
  · obtain ⟨node, hnode, hreal⟩ := h
    rw [resolve_absoluteText hroot (slashFree_at hslash hnode) hne,
      resolvePath_real hwell hnode hreal]

theorem canonicalPath_of_realPlace (hwell : wellNamed fs.root = true)
    (hslash : slashFree fs.root = true) (htop : DirectoryAt fs []) {place : Path}
    (h : RealPlace fs place) : CanonicalPath fs place := by
  obtain ⟨node, hnode, _⟩ := id h
  refine ⟨isAbsolute_absoluteText place, ?_, ⟨node, hnode⟩, fun p hp => link_free_of_realPlace h hp,
    resolve_of_realPlace hwell hslash htop h⟩
  intro part hpart
  rcases mem_components_absoluteText hslash hnode hpart with rfl | hmem
  · decide
  · have hname := not_mem_dots_of_proper (isProperName_of_at hwell hnode part hmem)
    constructor
    · rintro rfl
      exact hname (by decide)
    · rintro rfl
      exact hname (by decide)

/-! ### Every writing -/

/-- Whatever the tree, the working directory and the writing of the root are, the root that is found
is the one canonical path of a directory, on which alone the run depends, and a root that is not
found is refused for what its parts lead to. -/
theorem root_by_any_spelling [CharacterNames] (fs : FileSystem) (text : String)
    (hwell : wellNamed fs.root = true)
    (hslash : slashFree fs.root = true) : RootSpelling fs text := by
  have hcanonical : ∀ {place}, fs.resolve text = .ok place → CanonicalPath fs place := by
    intro place h
    obtain ⟨hreal, htop⟩ := realPlace_of_resolvesTo ((resolve_eq_ok_iff hwell).mp h)
    exact canonicalPath_of_realPlace hwell hslash htop hreal
  refine ⟨?_, ?_, ?_, ?_, ?_, ?_, ?_, ?_, fun error => resolveRoot_error⟩
  · intro root
    rw [resolveRoot_eq_ok_iff, resolve_eq_ok_iff hwell]
  · intro root hroot
    obtain ⟨hresolve, hdirectory⟩ := resolveRoot_eq_ok_iff.mp hroot
    have h := hcanonical hresolve
    exact ⟨h, hdirectory, resolveRoot_eq_ok_iff.mpr ⟨h.fixed, hdirectory⟩⟩
  · intro other root settings hroot hother
    exact ⟨_, _, run_of_resolveRoot hroot settings, run_of_resolveRoot hother settings, rfl, rfl,
      rfl⟩
  · rw [resolveRoot_eq_missing_iff, unresolved_iff_error hwell]
  · rw [unresolved_iff_error hwell, resolve_eq_error_iff hwell]
  · intro s links hreached hloop hlinks place hresolves
    obtain ⟨error, herror⟩ := outcome_of_loop hwell hloop hlinks FileSystem.linkLimit
    have hfound := (outcome_eq_ok_iff hwell).mpr hresolves.2
    rw [outcome_of_steps hwell _ hreached, herror] at hfound
    cases hfound
  · intro place
    rw [resolveRoot_eq_notDirectory_iff, resolve_eq_ok_iff hwell]
  · intro place hplace
    exact hcanonical (resolveRoot_eq_notDirectory_iff.mp hplace).1

/-- The writing goes through two links, an empty part, a directory outside the root and up again. -/
theorem root_by_any_spelling_linkedFiles :
    wellNamed linkedFiles.root = true ∧ slashFree linkedFiles.root = true ∧
    resolveRoot linkedFiles "here//x/../p/." = .ok ["p"] ∧
    RootSpelling linkedFiles "here//x/../p/." :=
  ⟨rfl, rfl, by decide +kernel, root_by_any_spelling linkedFiles "here//x/../p/." rfl rfl⟩

end SyntaxCheck.Proofs
