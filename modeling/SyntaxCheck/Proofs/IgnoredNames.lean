import Mathlib.Tactic
import SyntaxCheck.Proofs.WrittenPaths

/-!
# Where fragments occur

A fragment excludes a path if it occurs anywhere in its text, across the names on the path if it has
a slash in it. One without a slash cannot lie across a slash: it occurs in the path of a file
exactly if it occurs in the path of the root or in one name below it. If the root holds no fragment,
what is ignored is therefore known from the names below the root alone.
-/

namespace SyntaxCheck.Proofs

variable {fs fs' : FileSystem}

/-- A text holds a fragment, with something before and after it. -/
def Contains (text fragment : String) : Prop :=
  ∃ before after, text = before ++ fragment ++ after

lemma contains_iff_isInfix (text fragment : String) :
    Contains text fragment ↔ fragment.toList <:+: text.toList := by
  constructor
  · rintro ⟨before, after, rfl⟩
    exact ⟨before.toList, after.toList, by simp⟩
  · rintro ⟨before, after, h⟩
    exact ⟨String.ofList before, String.ofList after, String.toList_injective (by simp [h])⟩

/-! ### Rules -/

lemma isIgnored_iff_contains (rules : IgnoreRules) (text : String) :
    rules.isIgnored text = true ↔ ∃ f ∈ rules.fragments, Contains text f := by
  rw [isIgnored_iff]
  simp only [contains_iff_isInfix]

lemma matching_eq_some_iff (rules : IgnoreRules) (text f : String) :
    rules.matching? text = some f ↔ ∃ before after, rules.fragments = before ++ f :: after ∧
      Contains text f ∧ ∀ g ∈ before, ¬ Contains text g := by
  rw [IgnoreRules.matching?, List.find?_eq_some_iff_append]
  simp only [occursIn_iff, contains_iff_isInfix, Bool.not_eq_true', Bool.eq_false_iff, ne_eq]
  constructor
  · rintro ⟨hf, before, after, hsplit, hbefore⟩
    exact ⟨before, after, hsplit, hf, hbefore⟩
  · rintro ⟨before, after, hsplit, hf, hbefore⟩
    exact ⟨hf, before, after, hsplit, hbefore⟩

lemma contains_extended {text f : String} (h : Contains text f) (before after : String) :
    Contains (before ++ text ++ after) f := by
  obtain ⟨a, b, rfl⟩ := h
  exact ⟨before ++ a, b ++ after, by simp only [String.append_assoc]⟩

/-- The rules look for substrings, in the order in which the fragments stand. -/
structure SearchesSubstrings (rules : IgnoreRules) : Prop where
  ignored_iff : ∀ text, rules.isIgnored text = true ↔ ∃ f ∈ rules.fragments, Contains text f
  earliest : ∀ text f, rules.matching? text = some f ↔ ∃ before after,
    rules.fragments = before ++ f :: after ∧ Contains text f ∧ ∀ g ∈ before, ¬ Contains text g
  extended : ∀ before text after, rules.isIgnored text = true →
    rules.isIgnored (before ++ text ++ after) = true

lemma searchesSubstrings (rules : IgnoreRules) : SearchesSubstrings rules where
  ignored_iff := isIgnored_iff_contains rules
  earliest := matching_eq_some_iff rules
  extended before text after h := by
    rw [isIgnored_iff_contains] at h ⊢
    obtain ⟨f, hf, hcontains⟩ := h
    exact ⟨f, hf, contains_extended hcontains before after⟩

/-! ### Fragments without a slash -/

section Slashes

variable {f : List Char}

lemma prefix_of_prefix_append_slash (hf : '/' ∉ f) {a b : List Char} (h : f <+: a ++ '/' :: b) :
    f <+: a := by
  rcases List.prefix_or_prefix_of_prefix h (List.prefix_append a ('/' :: b)) with hfa | ⟨more, rfl⟩
  · exact hfa
  · cases more with
    | nil => rw [List.append_nil]
    | cons c more =>
      have hc : c :: more <+: '/' :: b := (List.prefix_append_right_inj a).mp h
      obtain rfl := (List.cons_prefix_cons.mp hc).1
      exact absurd (List.mem_append_right a List.mem_cons_self) hf

/-- A fragment without a slash lies on one side of a slash. -/
lemma infix_append_slash_iff (hf : '/' ∉ f) (a b : List Char) :
    f <:+: a ++ '/' :: b ↔ f <:+: a ∨ f <:+: b := by
  constructor
  · intro h
    induction a with
    | nil =>
      rcases List.infix_cons_iff.mp h with hprefix | hinfix
      · exact .inl (prefix_of_prefix_append_slash (a := []) hf hprefix).isInfix
      · exact .inr hinfix
    | cons c a ih =>
      rcases List.infix_cons_iff.mp h with hprefix | hinfix
      · exact .inl (prefix_of_prefix_append_slash (a := c :: a) hf hprefix).isInfix
      · exact (ih hinfix).imp_left List.infix_cons
  · rintro (h | h)
    · exact h.trans (List.prefix_append a _).isInfix
    · exact h.trans ((List.suffix_cons '/' b).trans (List.suffix_append a _)).isInfix

lemma infix_text_iff (hf : '/' ∉ f) {p : Path} (hp : p ≠ []) :
    f <:+: p.text.toList ↔ ∃ name ∈ p, f <:+: name.toList := by
  induction p with
  | nil => exact absurd rfl hp
  | cons name p ih =>
    cases p with
    | nil => simp [Path.text]
    | cons next p =>
      have htext : (Path.text (name :: next :: p)).toList =
          name.toList ++ '/' :: (Path.text (next :: p)).toList := by
        simp [Path.text]
      rw [htext, infix_append_slash_iff hf, ih (by simp)]
      simp only [List.mem_cons, exists_eq_or_imp]

/-- A fragment without a slash occurs in the path of the root or in one of the names below it. -/
lemma infix_absoluteText_iff (hf : '/' ∉ f) (root : Path) {p : Path} (hp : p ≠ []) :
    f <:+: (Path.absoluteText (root ++ p)).toList ↔
      f <:+: root.absoluteText.toList ∨ ∃ name ∈ p, f <:+: name.toList := by
  cases root with
  | nil =>
    have htext : (Path.absoluteText p).toList = [] ++ '/' :: p.text.toList := by
      simp [Path.absoluteText]
    have hroot : (Path.absoluteText []).toList = [] ++ '/' :: [] := by
      simp [Path.absoluteText, Path.text]
    rw [List.nil_append, htext, hroot, infix_append_slash_iff hf, infix_append_slash_iff hf,
      infix_text_iff hf hp, or_self]
  | cons first root =>
    have htext : (Path.absoluteText (first :: root ++ p)).toList =
        (Path.absoluteText (first :: root)).toList ++ '/' :: p.text.toList := by
      rw [Path.absoluteText, text_append (by simp) hp, Path.absoluteText]
      simp
    rw [htext, infix_append_slash_iff hf, infix_text_iff hf hp]

end Slashes

/-! ### Discovered files -/

/-- All files that a discovery turned up, by their paths from the root. -/
def allPaths (found : Discovered) : List Path :=
  found.candidates.map (·.path) ++ found.ignored

/-- What a discovery below a root turns up, split by the fragments. -/
def discoveredBelow (fs : FileSystem) (place : Path) (extension : String)
    (fragments : List String) : Discovered :=
  .ofFindings (discover fs place ⟨extension, ⟨fragments⟩⟩)

/-- The root or a single name decides whether a file is ignored. -/
structure NamesDecide (place : Path) (fragments : List String) (found : Discovered) : Prop where
  ignored_iff : ∀ p ∈ allPaths found, p ∈ found.ignored ↔
    ∃ f ∈ fragments, Contains place.absoluteText f ∨ ∃ name ∈ p, Contains name f
  anywhere : (∀ f ∈ fragments, ¬ Contains place.absoluteText f) →
    ∀ p ∈ allPaths found, p ∈ found.ignored ↔ ∃ f ∈ fragments, ∃ name ∈ p, Contains name f

lemma namesDecide_discoveredBelow {fragments : List String}
    (hslash : ∀ f ∈ fragments, '/' ∉ f.toList) (hwell : wellNamed fs.root = true) {root : String}
    {place : Path} (hroot : resolveRoot fs root = .ok place) (extension : String) :
    NamesDecide place fragments (discoveredBelow fs place extension fragments) := by
  obtain ⟨entries, hplace⟩ := directory_of_resolveRoot hroot
  have hexact := exactDiscovery_discover hwell hplace ⟨extension, fragments⟩
  have hdecide : ∀ p ∈ allPaths (discoveredBelow fs place extension fragments),
      p ∈ (discoveredBelow fs place extension fragments).ignored ↔
        ∃ f ∈ fragments, Contains place.absoluteText f ∨ ∃ name ∈ p, Contains name f := by
    intro p hp
    have hlisted := (hexact.mem_iff p).mp hp
    refine (hexact.ignored_iff p).trans ?_
    rw [and_iff_right hlisted]
    apply exists_congr
    intro f
    apply and_congr_right
    intro hf
    simp only [contains_iff_isInfix]
    exact infix_absoluteText_iff (hslash f hf) place (ne_nil_of_listed hlisted)
  refine ⟨hdecide, ?_⟩
  intro hfree p hp
  rw [hdecide p hp]
  apply exists_congr
  intro f
  apply and_congr_right
  intro hf
  rw [or_iff_right (hfree f hf)]

/-- The rules look for substrings. As long as no fragment has a slash in it, a file is ignored
exactly if a fragment occurs in the path of the root or in a single name below it, and a file that
is found below two roots, neither of which holds a fragment, is ignored below both or below none. -/
theorem ignored_by_root_or_name (fragments : List String) :
    SearchesSubstrings ⟨fragments⟩ ∧
    ((∀ f ∈ fragments, '/' ∉ f.toList) → ∀ extension fs root place,
      wellNamed fs.root = true → resolveRoot fs root = .ok place →
      NamesDecide place fragments (discoveredBelow fs place extension fragments) ∧
      ∀ fs' root' place', wellNamed fs'.root = true → resolveRoot fs' root' = .ok place' →
        (∀ f ∈ fragments, ¬ Contains place.absoluteText f ∧ ¬ Contains place'.absoluteText f) →
        ∀ p ∈ allPaths (discoveredBelow fs place extension fragments),
          p ∈ allPaths (discoveredBelow fs' place' extension fragments) →
          (p ∈ (discoveredBelow fs place extension fragments).ignored ↔
            p ∈ (discoveredBelow fs' place' extension fragments).ignored)) := by
  refine ⟨searchesSubstrings ⟨fragments⟩, ?_⟩
  intro hslash extension fs root place hwell hroot
  have hhere := namesDecide_discoveredBelow hslash hwell hroot extension
  refine ⟨hhere, ?_⟩
  intro fs' root' place' hwell' hroot' hfree p hp hp'
  have hthere := namesDecide_discoveredBelow hslash hwell' hroot' extension
  rw [hhere.anywhere (fun f hf => (hfree f hf).1) p hp,
    hthere.anywhere (fun f hf => (hfree f hf).2) p hp']

/-- A file system with one project in a directory. -/
def movedFiles (directory : String) : FileSystem where
  root := .directory [(directory, .directory
    [("a.py", .file []), ("my_venv", .directory [("b.py", .file []), ("notes", .file [])])])]
  current := [directory]

theorem ignored_by_root_or_name_movedFiles :
    (∀ f ∈ ["venv"], '/' ∉ f.toList) ∧
    (∀ f ∈ ["venv"], ¬ Contains (Path.absoluteText ["p"]) f ∧
      ¬ Contains (Path.absoluteText ["q"]) f) ∧
    wellNamed (movedFiles "p").root = true ∧ resolveRoot (movedFiles "p") "." = .ok ["p"] ∧
    wellNamed (movedFiles "q").root = true ∧ resolveRoot (movedFiles "q") "." = .ok ["q"] ∧
    NamesDecide ["p"] ["venv"] ⟨[⟨["a.py"], ["p", "a.py"]⟩], [["my_venv", "b.py"]]⟩ ∧
    (["my_venv", "b.py"] ∈ (discoveredBelow (movedFiles "p") ["p"] "py" ["venv"]).ignored ↔
      ["my_venv", "b.py"] ∈ (discoveredBelow (movedFiles "q") ["q"] "py" ["venv"]).ignored) := by
  have hslash : ∀ f ∈ ["venv"], '/' ∉ f.toList := by decide
  have hfree : ∀ f ∈ ["venv"], ¬ Contains (Path.absoluteText ["p"]) f ∧
      ¬ Contains (Path.absoluteText ["q"]) f := by
    simp only [contains_iff_isInfix]
    decide
  have hhere : discoveredBelow (movedFiles "p") ["p"] "py" ["venv"] =
      ⟨[⟨["a.py"], ["p", "a.py"]⟩], [["my_venv", "b.py"]]⟩ := by decide +kernel
  have hthere : discoveredBelow (movedFiles "q") ["q"] "py" ["venv"] =
      ⟨[⟨["a.py"], ["q", "a.py"]⟩], [["my_venv", "b.py"]]⟩ := by decide +kernel
  obtain ⟨hdecide, hmoved⟩ := (ignored_by_root_or_name ["venv"]).2 hslash "py" (movedFiles "p") "."
    ["p"] rfl rfl
  refine ⟨hslash, hfree, rfl, rfl, rfl, rfl, hhere ▸ hdecide, ?_⟩
  apply hmoved (movedFiles "q") "." ["q"] rfl rfl hfree
  · rw [hhere]
    decide
  · rw [hthere]
    decide

end SyntaxCheck.Proofs
