import Mathlib.Tactic
import SyntaxCheck.Proofs.PathResolution

/-!
# Putting a file into a tree

What lies where after a file has been put at a place, and where paths resolve to then. Resolution
only asks of what lies at a place whether it is a file, a directory or a link to somewhere. So a
file in place of another changes nothing for it, and a file where nothing was before is only one
more place where a path can end.
-/

namespace SyntaxCheck.Proofs

variable {fs : FileSystem}

/-- The file system with these bytes in a file at a place. -/
def putFile (fs : FileSystem) (place : Path) (bytes : List UInt8) : FileSystem :=
  { fs with root := Node.insert (.file bytes) place fs.root }

/-! ### What lies where -/

lemma lookup_setEntry_self (name : String) (child : Node) (entries : List (String × Node)) :
    (Node.setEntry name child entries).lookup name = some child := by
  induction entries with
  | nil => exact List.lookup_cons_self
  | cons e rest ih =>
    rw [Node.setEntry]
    by_cases hname : e.1 = name
    · rw [if_pos hname]
      exact List.lookup_cons_self
    · have hbeq : (name == e.1) = false := beq_false_of_ne (Ne.symm hname)
      rw [if_neg hname, List.lookup_cons, hbeq, ih]

lemma lookup_setEntry_ne {name other : String} (hne : other ≠ name) (child : Node)
    (entries : List (String × Node)) :
    (Node.setEntry name child entries).lookup other = entries.lookup other := by
  have hbeq : (other == name) = false := beq_false_of_ne hne
  induction entries with
  | nil =>
    rw [Node.setEntry, List.lookup_cons, hbeq]
  | cons e rest ih =>
    rw [Node.setEntry]
    by_cases hname : e.1 = name
    · rw [if_pos hname, List.lookup_cons, List.lookup_cons, hname, hbeq]
    · rw [if_neg hname, List.lookup_cons, List.lookup_cons, ih]

lemma at_insert_self (child node : Node) (p : Path) :
    (Node.insert child p node).at? p = some child := by
  induction p generalizing node with
  | nil => rfl
  | cons name p ih =>
    rw [Node.insert, Node.at?, Node.child?, Node.entries, lookup_setEntry_self]
    exact ih _

/-- On the way to the place the directories are those from before, with the way in them. -/
lemma at_insert_above (child : Node) (q r : Path) {node above : Node}
    (h : node.at? q = some above) :
    (Node.insert child (q ++ r) node).at? q = some (Node.insert child r above) := by
  induction q generalizing node with
  | nil =>
    obtain rfl : node = above := by simpa [Node.at?] using h
    rfl
  | cons name q ih =>
    obtain ⟨entries, inner, rfl, hentry, hbelow⟩ := at_cons_eq_some h
    rw [List.cons_append, Node.insert, Node.at?, Node.child?, Node.entries, lookup_setEntry_self]
    dsimp only
    rw [Node.child?, Node.entries, hentry]
    exact ih hbelow

lemma at_empty_cons (name : String) (p : Path) : Node.empty.at? (name :: p) = none := rfl

/-- Away from the place and the way to it everything is as it was. -/
lemma at_insert_apart (child : Node) {p q : Path} (hpq : ¬ p <+: q) (hqp : ¬ q <+: p)
    (node : Node) : (Node.insert child p node).at? q = node.at? q := by
  induction p generalizing q node with
  | nil => exact absurd List.nil_prefix hpq
  | cons name p ih =>
    cases q with
    | nil => exact absurd List.nil_prefix hqp
    | cons other q =>
      rw [Node.insert, Node.at?, Node.at?, Node.child?, Node.entries]
      by_cases hother : other = name
      · subst hother
        rw [List.prefix_cons_inj] at hpq hqp
        rw [lookup_setEntry_self]
        dsimp only
        rw [ih hpq hqp]
        cases node.child? other with
        | some inner => rfl
        | none =>
          cases q with
          | nil => exact absurd List.nil_prefix hqp
          | cons next q => exact at_empty_cons next q
      · rw [lookup_setEntry_ne hother]
        rfl

/-- What a file stands at has nothing below it. -/
lemma at_below_file {root : Node} {place : Path} {content : List UInt8}
    (h : root.at? place = some (.file content)) (name : String) (rest : Path) :
    root.at? (place ++ name :: rest) = none := by
  rw [at_append, h]
  rfl

/-! ### Kinds -/

/-- What resolution asks of a node. -/
inductive NodeKind
  | file
  | link (target : String)
  | directory
deriving DecidableEq

/-- The kind of a node. -/
def kindOf : Node → NodeKind
  | .file _ => .file
  | .link target => .link target
  | .directory _ => .directory

/-- The kind of what lies at a place. -/
def kindAt (fs : FileSystem) (place : Path) : Option NodeKind :=
  (fs.root.at? place).map kindOf

lemma kindAt_directory_iff {place : Path} : kindAt fs place = some .directory ↔
    ∃ entries, fs.root.at? place = some (.directory entries) := by
  unfold kindAt
  cases h : fs.root.at? place with
  | none => simp
  | some node => cases node <;> simp [kindOf]

lemma kindAt_entry {here : Path} {entries : List (String × Node)}
    (hhere : fs.root.at? here = some (.directory entries)) (name : String) :
    kindAt fs (here ++ [name]) = (entries.lookup name).map kindOf := by
  rw [kindAt, at_append, hhere, Option.bind_some, Node.at?, Node.child?, Node.entries]
  cases entries.lookup name <;> rfl

/-- What a part of a path asks for: to stay, to go up, or to go to an entry. -/
lemma walk_not_directory {here : Path} (h : kindAt fs here ≠ some .directory)
    (follow : Path → List String → Except SystemError Path) (part : String) (rest : List String) :
    fs.walk follow here (part :: rest) = .error .notDirectory := by
  unfold kindAt at h
  rw [FileSystem.walk]
  cases hhere : fs.root.at? here with
  | none => rfl
  | some node =>
    cases node with
    | directory entries => simp [hhere, kindOf] at h
    | file content => rfl
    | link target => rfl

/-- The parts that stay or go up. -/
def dotsTo (here : Path) (part : String) : Option Path :=
  if part = "" ∨ part = "." then some here else if part = ".." then some here.dropLast else none

lemma dotsTo_eq_none_iff {here : Path} {part : String} :
    dotsTo here part = none ↔ part ∉ ["", ".", ".."] := by
  have hmem : part ∈ ["", ".", ".."] ↔ (part = "" ∨ part = ".") ∨ part = ".." := by
    simp [or_assoc]
  rw [hmem, dotsTo]
  split_ifs <;> simp [*]

lemma walk_dots {here next : Path} (hhere : kindAt fs here = some .directory) {part : String}
    (hdots : dotsTo here part = some next)
    (follow : Path → List String → Except SystemError Path) (rest : List String) :
    fs.walk follow here (part :: rest) = fs.walk follow next rest := by
  obtain ⟨entries, hentries⟩ := kindAt_directory_iff.mp hhere
  unfold dotsTo at hdots
  by_cases hdot : part = "" ∨ part = "."
  · rw [if_pos hdot] at hdots
    obtain rfl := Option.some.inj hdots
    simp [FileSystem.walk, hentries, hdot]
  · rw [if_neg hdot] at hdots
    by_cases hup : part = ".."
    · rw [if_pos hup] at hdots
      obtain rfl := Option.some.inj hdots
      simp [FileSystem.walk, hentries, hup]
    · simp [hup] at hdots

/-- What becomes of a part that names an entry, by the kind of the entry. -/
lemma walk_named {here : Path} (hhere : kindAt fs here = some .directory) {part : String}
    (hdots : dotsTo here part = none) (follow : Path → List String → Except SystemError Path)
    (rest : List String) :
    fs.walk follow here (part :: rest) =
      if FileSystem.nameLimit < Location.width part.toList then .error .nameTooLong
      else
        match kindAt fs (here ++ [part]) with
        | none => .error .notFound
        | some (.link target) =>
          if target = "" then .error .notFound
          else follow (FileSystem.startOf here target) (Path.components target ++ rest)
        | some _ => fs.walk follow (here ++ [part]) rest := by
  obtain ⟨entries, hentries⟩ := kindAt_directory_iff.mp hhere
  rw [dotsTo_eq_none_iff, List.mem_cons, List.mem_pair, ← or_assoc, not_or] at hdots
  obtain ⟨hdot, hup⟩ := hdots
  rw [kindAt_entry hentries, FileSystem.walk, hentries]
  dsimp only
  rw [if_neg hdot, if_neg hup]
  cases entries.lookup part with
  | none => rfl
  | some node => cases node <;> rfl

/-- How resolution gets past a part, to where it is when nothing is left. -/
inductive GetsPast (fs : FileSystem) (follow : Path → List String → Except SystemError Path)
    (here : Path) (part : String) (rest : List String) (place : Path) : Prop
  | dots {next} (dots : dotsTo here part = some next)
      (goes_on : fs.walk follow next rest = .ok place)
  | entry {kind} (named : dotsTo here part = none)
      (short : Location.width part.toList ≤ FileSystem.nameLimit)
      (there : kindAt fs (here ++ [part]) = some kind) (real : ∀ target, kind ≠ .link target)
      (goes_on : fs.walk follow (here ++ [part]) rest = .ok place)
  | link {target} (named : dotsTo here part = none)
      (short : Location.width part.toList ≤ FileSystem.nameLimit)
      (there : kindAt fs (here ++ [part]) = some (.link target)) (somewhere : target ≠ "")
      (goes_on : follow (FileSystem.startOf here target) (Path.components target ++ rest) =
        .ok place)

lemma walk_named_eq_ok {follow : Path → List String → Except SystemError Path} {here : Path}
    {part : String} {rest : List String} {place : Path} (hhere : kindAt fs here = some .directory)
    (hdots : dotsTo here part = none) :
    fs.walk follow here (part :: rest) = .ok place ↔
      GetsPast fs follow here part rest place := by
  rw [walk_named hhere hdots]
  constructor
  · intro h
    by_cases hlong : FileSystem.nameLimit < Location.width part.toList
    · simp [hlong] at h
    have hshort : Location.width part.toList ≤ FileSystem.nameLimit := by omega
    rw [if_neg hlong] at h
    cases hentry : kindAt fs (here ++ [part]) with
    | none => simp [hentry] at h
    | some kind =>
      rw [hentry] at h
      cases kind with
      | file => exact .entry hdots hshort hentry (by simp) h
      | directory => exact .entry hdots hshort hentry (by simp) h
      | link target =>
        dsimp only at h
        by_cases hempty : target = ""
        · simp [hempty] at h
        · rw [if_neg hempty] at h
          exact .link hdots hshort hentry hempty h
  · rintro (⟨hdots', _⟩ | @⟨kind, _, hshort, hentry, hreal, hgo⟩ | ⟨_, hshort, hentry, hempty, hgo⟩)
    · simp [hdots] at hdots'
    · rw [if_neg (by omega), hentry]
      cases kind with
      | file => exact hgo
      | directory => exact hgo
      | link target => exact absurd rfl (hreal target)
    · rw [if_neg (by omega), hentry]
      dsimp only
      rw [if_neg hempty]
      exact hgo

lemma walk_cons_eq_ok {follow : Path → List String → Except SystemError Path} {here : Path}
    {part : String} {rest : List String} {place : Path} :
    fs.walk follow here (part :: rest) = .ok place ↔
      kindAt fs here = some .directory ∧ GetsPast fs follow here part rest place := by
  by_cases hhere : kindAt fs here = some .directory
  swap
  · rw [walk_not_directory hhere]
    simp [hhere]
  rw [and_iff_right hhere]
  cases hdots : dotsTo here part with
  | none => exact walk_named_eq_ok hhere hdots
  | some next =>
    rw [walk_dots hhere hdots]
    constructor
    · exact .dots hdots
    · rintro (⟨hdots', hgo⟩ | ⟨hnamed⟩ | ⟨hnamed⟩)
      · obtain rfl := Option.some.inj (hdots.symm.trans hdots')
        exact hgo
      · simp [hdots] at hnamed
      · simp [hdots] at hnamed

/-! ### Where paths end -/

lemma kindAt_dropLast {here : Path} (h : kindAt fs here ≠ none) :
    kindAt fs here.dropLast ≠ none := by
  rcases List.eq_nil_or_concat here with rfl | ⟨front, last, rfl⟩
  · exact h
  · rw [List.concat_eq_append] at h ⊢
    rw [List.dropLast_concat]
    obtain ⟨kind, hkind⟩ := Option.ne_none_iff_exists'.mp h
    obtain ⟨node, hnode, _⟩ := Option.map_eq_some_iff.mp hkind
    obtain ⟨above, habove, _⟩ := exists_above hnode
    simp [kindAt, habove]

/-- From where something is, `follow` ends only where something is. -/
def EndsSomewhere (fs : FileSystem) (follow : Path → List String → Except SystemError Path) :
    Prop :=
  ∀ here parts place, kindAt fs here ≠ none → follow here parts = .ok place →
    kindAt fs place ≠ none

lemma walk_endsSomewhere {follow : Path → List String → Except SystemError Path}
    (hfollow : EndsSomewhere fs follow) : EndsSomewhere fs (fs.walk follow) := by
  intro here parts place hhere hwalk
  induction parts generalizing here with
  | nil =>
    obtain rfl : here = place := by simpa [FileSystem.walk] using hwalk
    exact hhere
  | cons part rest ih =>
    obtain ⟨_, hpast⟩ := walk_cons_eq_ok.mp hwalk
    cases hpast with
    | @dots next hdots hgo =>
      refine ih next ?_ hgo
      unfold dotsTo at hdots
      split_ifs at hdots
      · exact Option.some.inj hdots ▸ hhere
      · exact Option.some.inj hdots ▸ kindAt_dropLast hhere
    | entry _ _ hentry _ hgo => exact ih _ (by simp [hentry]) hgo
    | @link target _ _ _ _ hgo =>
      refine hfollow _ _ _ ?_ hgo
      unfold FileSystem.startOf
      split_ifs
      · simp [kindAt, Node.at?]
      · exact hhere

lemma walkUpTo_endsSomewhere (fs : FileSystem) (n : Nat) : EndsSomewhere fs (fs.walkUpTo n) := by
  induction n with
  | zero =>
    apply walk_endsSomewhere
    intro here parts place _ hfollow
    cases hfollow
  | succ n ih => exact walk_endsSomewhere ih

/-- Where a path resolves to something is. -/
theorem exists_of_resolvePath {path place : Path} (h : fs.resolvePath path = .ok place) :
    ∃ node, fs.root.at? place = some node := by
  have htop : kindAt fs [] ≠ none := by simp [kindAt, Node.at?]
  have hkind := walkUpTo_endsSomewhere fs _ _ _ _ htop h
  obtain ⟨kind, hkind⟩ := Option.ne_none_iff_exists'.mp hkind
  obtain ⟨node, hnode, _⟩ := Option.map_eq_some_iff.mp hkind
  exact ⟨node, hnode⟩

/-! ### A file in place of another -/

/-- Resolution is the same wherever the same kinds lie at the same places. -/
theorem walk_eq_of_kindAt {fs' : FileSystem} (hkind : ∀ place, kindAt fs' place = kindAt fs place)
    (follow : Path → List String → Except SystemError Path) : fs'.walk follow = fs.walk follow := by
  funext here parts
  induction parts generalizing here with
  | nil => rfl
  | cons part rest ih =>
    by_cases hhere : kindAt fs here = some .directory
    · have hhere' : kindAt fs' here = some .directory := (hkind here).trans hhere
      cases hdots : dotsTo here part with
      | some next => rw [walk_dots hhere hdots, walk_dots hhere' hdots, ih]
      | none =>
        rw [walk_named hhere hdots, walk_named hhere' hdots, hkind]
        simp only [ih]
    · rw [walk_not_directory hhere, walk_not_directory fun h => hhere ((hkind here).symm.trans h)]

theorem walkUpTo_eq_of_kindAt {fs' : FileSystem}
    (hkind : ∀ place, kindAt fs' place = kindAt fs place) (n : Nat) :
    fs'.walkUpTo n = fs.walkUpTo n := by
  induction n with
  | zero => exact walk_eq_of_kindAt hkind _
  | succ n ih =>
    rw [FileSystem.walkUpTo, FileSystem.walkUpTo, ih]
    exact walk_eq_of_kindAt hkind _

/-! ### A file where nothing was -/

/-- The same kinds lie everywhere but at one place, where a file is new. -/
structure NewFileAt (fs fs' : FileSystem) (new : Path) : Prop where
  nothing_before : kindAt fs new = none
  file_now : kindAt fs' new = some .file
  elsewhere : ∀ place, place ≠ new → kindAt fs' place = kindAt fs place

section NewFile

variable {fs' : FileSystem} {new : Path}
  {follow more : Path → List String → Except SystemError Path}

lemma kindAt_of_some (h : NewFileAt fs fs' new) {place : Path} {kind : NodeKind}
    (hkind : kindAt fs place = some kind) : kindAt fs' place = some kind := by
  rw [h.elsewhere place, hkind]
  rintro rfl
  rw [h.nothing_before] at hkind
  cases hkind

/-- What resolved before resolves to the same place. -/
lemma walk_newFile_extends (h : NewFileAt fs fs' new) (hmore : Extends more follow) :
    Extends (fs'.walk more) (fs.walk follow) := by
  intro here parts place hwalk
  induction parts generalizing here with
  | nil => exact hwalk
  | cons part rest ih =>
    obtain ⟨hhere, hpast⟩ := walk_cons_eq_ok.mp hwalk
    refine walk_cons_eq_ok.mpr ⟨kindAt_of_some h hhere, ?_⟩
    cases hpast with
    | dots hdots hgo => exact .dots hdots (ih _ hgo)
    | entry hnamed hshort hentry hreal hgo =>
      exact .entry hnamed hshort (kindAt_of_some h hentry) hreal (ih _ hgo)
    | link hnamed hshort hentry hempty hgo =>
      exact .link hnamed hshort (kindAt_of_some h hentry) hempty (hmore _ _ _ hgo)

/-- What `more` does with links is what `follow` does, apart from paths that end at the new file. -/
def SameUnlessNew (new : Path) (more follow : Path → List String → Except SystemError Path) :
    Prop :=
  ∀ here parts place, more here parts = .ok place → place = new ∨ follow here parts = .ok place

/-- What resolves now resolved before, unless it ends at the new file: nothing goes on there. -/
lemma walk_newFile_sound (h : NewFileAt fs fs' new) (hmore : SameUnlessNew new more follow) :
    SameUnlessNew new (fs'.walk more) (fs.walk follow) := by
  have hkind : ∀ {place kind}, kindAt fs' place = some kind → kind ≠ .file →
      kindAt fs place = some kind := by
    intro place kind hplace hfile
    rw [← h.elsewhere place, hplace]
    rintro rfl
    rw [h.file_now] at hplace
    exact hfile (Option.some.inj hplace).symm
  intro here parts place hwalk
  induction parts generalizing here with
  | nil => exact Or.inr hwalk
  | cons part rest ih =>
    obtain ⟨hhere, hpast⟩ := walk_cons_eq_ok.mp hwalk
    have hhere := hkind hhere (by simp)
    rw [walk_cons_eq_ok, and_iff_right hhere]
    cases hpast with
    | dots hdots hgo => exact (ih _ hgo).imp_right (.dots hdots)
    | link hnamed hshort hentry hempty hgo =>
      exact (hmore _ _ _ hgo).imp_right (.link hnamed hshort (hkind hentry (by simp)) hempty)
    | entry hnamed hshort hentry hreal hgo =>
      by_cases hnew : here ++ [part] = new
      · -- The new file is entered: what is left of the path is nothing.
        rw [hnew] at hgo
        cases rest with
        | nil => exact Or.inl (Except.ok.inj hgo).symm
        | cons next rest =>
          have hnone := (walk_cons_eq_ok.mp hgo).1
          rw [h.file_now] at hnone
          cases hnone
      · rw [h.elsewhere _ hnew] at hentry
        exact (ih _ hgo).imp_right (.entry hnamed hshort hentry hreal)

lemma walkUpTo_newFile (h : NewFileAt fs fs' new) (n : Nat) :
    Extends (fs'.walkUpTo n) (fs.walkUpTo n) ∧
      SameUnlessNew new (fs'.walkUpTo n) (fs.walkUpTo n) := by
  induction n with
  | zero =>
    refine ⟨walk_newFile_extends h ?_, walk_newFile_sound h ?_⟩
    · intro here parts place hfollow
      cases hfollow
    · intro here parts place hmore
      cases hmore
  | succ n ih => exact ⟨walk_newFile_extends h ih.1, walk_newFile_sound h ih.2⟩

theorem resolvePath_newFile (h : NewFileAt fs fs' new) {path place : Path}
    (hpath : fs.resolvePath path = .ok place) : fs'.resolvePath path = .ok place :=
  (walkUpTo_newFile h _).1 _ _ _ hpath

theorem resolvePath_newFile_sound (h : NewFileAt fs fs' new) {path place : Path}
    (hpath : fs'.resolvePath path = .ok place) : place = new ∨ fs.resolvePath path = .ok place :=
  (walkUpTo_newFile h _).2 _ _ _ hpath

end NewFile

end SyntaxCheck.Proofs
