import Mathlib.Tactic
import SyntaxCheck.Discovery.Root
import SyntaxCheck.Proofs.TreePaths

/-!
# Path resolution

Resolution goes through a path part by part. One part either ends it with an error, or leads to
another place, or is a link, whose target is gone through before the parts that are left. Two facts
follow by going through the parts. What resolves in few links resolves to the same place in more,
so a link has at most one end. And a longer path is resolved from where the shorter one ends.
-/

namespace SyntaxCheck.Proofs

variable {fs : FileSystem}

/-! ### One part -/

/-- What resolution does at one part, whatever it does with links and whatever is left. -/
inductive PartStep (fs : FileSystem) (here : Path) (part : String) : Prop
  | refused (error : SystemError)
      (h : ∀ follow rest, fs.walk follow here (part :: rest) = .error error)
  | moved (next : Path)
      (h : ∀ follow rest, fs.walk follow here (part :: rest) = fs.walk follow next rest)
  | followed (start : Path) (parts : List String)
      (h : ∀ follow rest, fs.walk follow here (part :: rest) = follow start (parts ++ rest))

lemma partStep (fs : FileSystem) (here : Path) (part : String) : PartStep fs here part := by
  cases hhere : fs.root.at? here with
  | none => exact .refused .notDirectory fun follow rest => by simp [FileSystem.walk, hhere]
  | some node =>
    cases node with
    | file content =>
      exact .refused .notDirectory fun follow rest => by simp [FileSystem.walk, hhere]
    | link target =>
      exact .refused .notDirectory fun follow rest => by simp [FileSystem.walk, hhere]
    | directory entries =>
      by_cases hdot : part = "" ∨ part = "."
      · exact .moved here fun follow rest => by simp [FileSystem.walk, hhere, hdot]
      by_cases hup : part = ".."
      · exact .moved here.dropLast fun follow rest => by
          simp [FileSystem.walk, hhere, hup]
      by_cases hlong : FileSystem.nameLimit < Location.width part.toList
      · exact .refused .nameTooLong fun follow rest => by
          simp [FileSystem.walk, hhere, hdot, hup, hlong]
      cases hentry : entries.lookup part with
      | none =>
        exact .refused .notFound fun follow rest => by
          simp [FileSystem.walk, hhere, hdot, hup, hlong, hentry]
      | some node =>
        cases node with
        | file content =>
          exact .moved (here ++ [part]) fun follow rest => by
            simp [FileSystem.walk, hhere, hdot, hup, hlong, hentry]
        | directory entries =>
          exact .moved (here ++ [part]) fun follow rest => by
            simp [FileSystem.walk, hhere, hdot, hup, hlong, hentry]
        | link target =>
          by_cases hempty : target = ""
          · exact .refused .notFound fun follow rest => by
              simp [FileSystem.walk, hhere, hdot, hup, hlong, hentry, hempty]
          · refine .followed (FileSystem.startOf here target) (Path.components target) ?_
            intro follow rest
            simp [FileSystem.walk, hhere, hdot, hup, hlong, hentry, hempty]

/-! ### More links -/

/-- What `more` does with links is what `follow` does wherever `follow` finds a place. -/
def Extends (more follow : Path → List String → Except SystemError Path) : Prop :=
  ∀ here parts place, follow here parts = .ok place → more here parts = .ok place

lemma walk_extends {follow more : Path → List String → Except SystemError Path}
    (hmore : Extends more follow) : Extends (fs.walk more) (fs.walk follow) := by
  intro here parts place h
  induction parts generalizing here with
  | nil => exact h
  | cons part rest ih =>
    cases partStep fs here part with
    | refused error hstep =>
      rw [hstep] at h
      cases h
    | moved next hstep =>
      rw [hstep] at h ⊢
      exact ih next h
    | followed start parts hstep =>
      rw [hstep] at h ⊢
      exact hmore _ _ _ h

lemma walkUpTo_succ_extends (n : Nat) : Extends (fs.walkUpTo (n + 1)) (fs.walkUpTo n) := by
  induction n with
  | zero =>
    apply walk_extends
    intro here parts place h
    cases h
  | succ n ih => exact walk_extends ih

lemma walkUpTo_mono {n m : Nat} (hle : n ≤ m) {here : Path} {parts : List String} {place : Path}
    (h : fs.walkUpTo n here parts = .ok place) : fs.walkUpTo m here parts = .ok place := by
  induction m, hle using Nat.le_induction with
  | base => exact h
  | succ m _ ih => exact walkUpTo_succ_extends m _ _ _ ih

/-! ### Longer paths -/

/-- Resolution with `follow` goes on, with some of the `n` links left, where it came to an end. -/
def GoesOn (fs : FileSystem) (n : Nat)
    (follow : Path → List String → Except SystemError Path) : Prop :=
  ∀ here parts place, follow here parts = .ok place →
    ∃ m ≤ n, ∀ more, follow here (parts ++ more) = fs.walkUpTo m place more

lemma walk_goesOn {n : Nat} {follow : Path → List String → Except SystemError Path}
    (hwalk : fs.walk follow = fs.walkUpTo n) (hfollow : GoesOn fs n follow) :
    GoesOn fs n (fs.walk follow) := by
  intro here parts place h
  induction parts generalizing here with
  | nil =>
    obtain rfl : here = place := by simpa [FileSystem.walk] using h
    exact ⟨n, le_rfl, fun more => by rw [List.nil_append, hwalk]⟩
  | cons part rest ih =>
    cases partStep fs here part with
    | refused error hstep =>
      rw [hstep] at h
      cases h
    | moved next hstep =>
      rw [hstep] at h
      obtain ⟨m, hm, hgo⟩ := ih next h
      exact ⟨m, hm, fun more => by rw [List.cons_append, hstep, hgo]⟩
    | followed start parts hstep =>
      -- The parts that are left, and `more` after them, are taken along to where the link starts.
      rw [hstep] at h
      obtain ⟨m, hm, hgo⟩ := hfollow _ _ _ h
      exact ⟨m, hm, fun more => by rw [List.cons_append, hstep, ← List.append_assoc, hgo]⟩

/-- A longer path is resolved from where the shorter one ends. -/
theorem walkUpTo_goesOn (fs : FileSystem) (n : Nat) : GoesOn fs n (fs.walkUpTo n) := by
  induction n with
  | zero =>
    apply walk_goesOn rfl
    intro here parts place h
    cases h
  | succ n ih =>
    apply walk_goesOn rfl
    intro here parts place h
    obtain ⟨m, hm, hgo⟩ := ih here parts place h
    exact ⟨m, by omega, hgo⟩

/-! ### Paths on which no link lies -/

lemma walk_entry (follow : Path → List String → Except SystemError Path) {here : Path}
    {entries : List (String × Node)} {name : String} {node : Node}
    (hhere : fs.root.at? here = some (.directory entries)) (hname : isProperName name = true)
    (hentry : entries.lookup name = some node) (hreal : IsReal node) (rest : List String) :
    fs.walk follow here (name :: rest) = fs.walk follow (here ++ [name]) rest := by
  simp only [isProperName, Bool.and_eq_true, bne_iff_ne, decide_eq_true_iff] at hname
  obtain ⟨⟨⟨hempty, hdot⟩, hup⟩, hwidth⟩ := hname
  have hlong : ¬ FileSystem.nameLimit < Location.width name.toList := by omega
  cases node with
  | link target => exact absurd rfl (hreal target)
  | file content => simp [FileSystem.walk, hhere, hempty, hdot, hup, hlong, hentry]
  | directory entries => simp [FileSystem.walk, hhere, hempty, hdot, hup, hlong, hentry]

lemma walk_real (hwell : wellNamed fs.root = true)
    (follow : Path → List String → Except SystemError Path) {here p : Path} {start node : Node}
    (hhere : fs.root.at? here = some start) (hnode : start.at? p = some node) (hreal : IsReal node)
    (more : List String) :
    fs.walk follow here (p ++ more) = fs.walk follow (here ++ p) more := by
  induction p generalizing here start with
  | nil => simp
  | cons name p ih =>
    obtain ⟨entries, child, rfl, hentry, hbelow⟩ := at_cons_eq_some hnode
    have hname := isProperName_of_lookup hwell hhere hentry
    rw [List.cons_append, walk_entry follow hhere hname hentry (isReal_of_at hbelow hreal),
      ih (at_entry hhere hentry) hbelow, List.append_assoc, List.singleton_append]

lemma walkUpTo_real (hwell : wellNamed fs.root = true) (n : Nat) {place : Path} {node : Node}
    (hnode : fs.root.at? place = some node) (hreal : IsReal node) (more : List String) :
    fs.walkUpTo n [] (place ++ more) = fs.walkUpTo n place more := by
  cases n with
  | zero => exact walk_real hwell _ rfl hnode hreal more
  | succ n => exact walk_real hwell _ rfl hnode hreal more

lemma walkUpTo_nil (n : Nat) (here : Path) : fs.walkUpTo n here [] = .ok here := by
  cases n <;> rfl

/-- A path on which no link lies resolves to itself. -/
theorem resolvePath_real (hwell : wellNamed fs.root = true) {place : Path} {node : Node}
    (hnode : fs.root.at? place = some node) (hreal : IsReal node) :
    fs.resolvePath place = .ok place := by
  have h := walkUpTo_real hwell FileSystem.linkLimit hnode hreal []
  rwa [List.append_nil, walkUpTo_nil] at h

/-- An entry that is no link is resolved as its directory is. -/
theorem resolvePath_entry (hwell : wellNamed fs.root = true) {way place : Path}
    {entries : List (String × Node)} {name : String} {node : Node}
    (hway : fs.resolvePath way = .ok place)
    (hplace : fs.root.at? place = some (.directory entries))
    (hentry : entries.lookup name = some node) (hreal : IsReal node) :
    fs.resolvePath (way ++ [name]) = .ok (place ++ [name]) := by
  obtain ⟨m, _, hgo⟩ := walkUpTo_goesOn fs _ _ _ _ hway
  have hname := isProperName_of_lookup hwell hplace hentry
  rw [FileSystem.resolvePath, hgo]
  cases m with
  | zero => exact walk_entry _ hplace hname hentry hreal []
  | succ m => exact walk_entry _ hplace hname hentry hreal []

/-! ### The end of a link -/

/-- The path resolves to `stop` if enough links may be followed. -/
def LeadsTo (fs : FileSystem) (q stop : Path) : Prop :=
  ∃ n, fs.walkUpTo n [] q = .ok stop

lemma leadsTo_unique {q a b : Path} (ha : LeadsTo fs q a) (hb : LeadsTo fs q b) : a = b := by
  obtain ⟨n, hn⟩ := ha
  obtain ⟨m, hm⟩ := hb
  have ha' := walkUpTo_mono (Nat.le_max_left n m) hn
  have hb' := walkUpTo_mono (Nat.le_max_right n m) hm
  rw [ha'] at hb'
  exact Except.ok.inj hb'

/-- Whatever way led to its directory, an entry leads where it leads from there. -/
theorem leadsTo_of_resolvePath (hwell : wellNamed fs.root = true) {way place stop : Path}
    {entries : List (String × Node)} {name : String} (hway : fs.resolvePath way = .ok place)
    (hplace : fs.root.at? place = some (.directory entries))
    (hstop : fs.resolvePath (way ++ [name]) = .ok stop) : LeadsTo fs (place ++ [name]) stop := by
  obtain ⟨m, _, hgo⟩ := walkUpTo_goesOn fs _ _ _ _ hway
  refine ⟨m, ?_⟩
  rw [walkUpTo_real hwell m hplace (isReal_directory entries), ← hgo]
  exact hstop

/-! ### Roots -/

lemma any_isDirectory_iff {place : Path} :
    (fs.root.at? place).any Node.isDirectory = true ↔ DirectoryAt fs place := by
  unfold DirectoryAt
  cases fs.root.at? place with
  | none => simp
  | some node => cases node <;> simp [Node.isDirectory]

/-- The three ways in which the search for a root ends. -/
lemma resolveRoot_cases (fs : FileSystem) (text : String) :
    (∃ error, fs.resolve text = .error error) ∧ resolveRoot fs text = .error (.missing text) ∨
    ∃ place, fs.resolve text = .ok place ∧
      (DirectoryAt fs place ∧ resolveRoot fs text = .ok place ∨
        ¬ DirectoryAt fs place ∧ resolveRoot fs text = .error (.notDirectory place)) := by
  unfold resolveRoot
  cases hresolve : fs.resolve text with
  | error error => exact .inl ⟨⟨error, rfl⟩, rfl⟩
  | ok place =>
    refine .inr ⟨place, rfl, ?_⟩
    dsimp only
    by_cases hplace : DirectoryAt fs place
    · rw [if_pos (any_isDirectory_iff.mpr hplace)]
      exact .inl ⟨hplace, rfl⟩
    · rw [if_neg fun h => hplace (any_isDirectory_iff.mp h)]
      exact .inr ⟨hplace, rfl⟩

lemma resolveRoot_eq_ok_iff {text : String} {place : Path} :
    resolveRoot fs text = .ok place ↔ fs.resolve text = .ok place ∧ DirectoryAt fs place := by
  rcases resolveRoot_cases fs text with
    ⟨⟨error, herror⟩, hroot⟩ | ⟨found, hfound, ⟨hplace, hroot⟩ | ⟨hplace, hroot⟩⟩
  · simp [hroot, herror]
  · simp only [hroot, hfound, Except.ok.injEq]
    constructor
    · rintro rfl
      exact ⟨rfl, hplace⟩
    · exact And.left
  · rw [hroot, hfound]
    refine iff_of_false (by simp) ?_
    rintro ⟨hsame, hdirectory⟩
    exact hplace (Except.ok.inj hsame ▸ hdirectory)

lemma resolveRoot_eq_missing_iff {text : String} :
    resolveRoot fs text = .error (.missing text) ↔ ∃ error, fs.resolve text = .error error := by
  rcases resolveRoot_cases fs text with
    ⟨⟨error, herror⟩, hroot⟩ | ⟨found, hfound, ⟨hplace, hroot⟩ | ⟨hplace, hroot⟩⟩
  · simp [hroot, herror]
  · simp [hroot, hfound]
  · simp [hroot, hfound]

lemma resolveRoot_eq_notDirectory_iff {text : String} {place : Path} :
    resolveRoot fs text = .error (.notDirectory place) ↔
      fs.resolve text = .ok place ∧ ¬ DirectoryAt fs place := by
  rcases resolveRoot_cases fs text with
    ⟨⟨error, herror⟩, hroot⟩ | ⟨found, hfound, ⟨hplace, hroot⟩ | ⟨hplace, hroot⟩⟩
  · simp [hroot, herror]
  · rw [hroot, hfound]
    refine iff_of_false (by simp) ?_
    rintro ⟨hsame, hother⟩
    exact hother (Except.ok.inj hsame ▸ hplace)
  · simp only [hroot, hfound, Except.error.injEq, RootError.notDirectory.injEq, Except.ok.injEq]
    constructor
    · rintro rfl
      exact ⟨rfl, hplace⟩
    · exact And.left

lemma resolveRoot_error {text : String} {error : RootError}
    (h : resolveRoot fs text = .error error) :
    error = .missing text ∨ ∃ place, error = .notDirectory place := by
  rcases resolveRoot_cases fs text with
    ⟨_, hroot⟩ | ⟨found, _, ⟨_, hroot⟩ | ⟨_, hroot⟩⟩
  · exact .inl (Except.error.inj (h.symm.trans hroot))
  · rw [hroot] at h
    cases h
  · exact .inr ⟨found, Except.error.inj (h.symm.trans hroot)⟩

end SyntaxCheck.Proofs
