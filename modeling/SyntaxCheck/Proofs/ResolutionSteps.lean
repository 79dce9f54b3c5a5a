import Mathlib.Tactic
import SyntaxCheck.Proofs.PutFile

/-!
# Resolution step by step

A resolution takes the parts of a path one by one, from one place to the next, and counts the links
that it follows. It comes to an end where no part is left; it fails where a part leads nowhere, or
once it has followed too many links. No step changes how it will end, and no resolution goes on for
ever, so a path resolves exactly if the steps from its start come to an end in time.

Wherever a step has been taken, no link lies on the way to the place that was reached.
-/

namespace SyntaxCheck.Proofs

open Relation

variable {fs : FileSystem}

/-! ### Steps -/

/-- How far a resolution has come: the place, the parts that are left and the links followed. -/
structure Resolution where
  here : Path
  left : List String
  links : Nat

/-- What a resolution makes of the next part. The parts of a link are gone through from the
directory of the link, or from the top. -/
inductive ResolutionStep (fs : FileSystem) : Resolution → Resolution → Prop
  | stay {here : Path} {part : String} {rest : List String} {links : Nat}
      (directory : DirectoryAt fs here) (dot : part = "" ∨ part = ".") :
      ResolutionStep fs ⟨here, part :: rest, links⟩ ⟨here, rest, links⟩
  | up {here : Path} {rest : List String} {links : Nat} (directory : DirectoryAt fs here) :
      ResolutionStep fs ⟨here, ".." :: rest, links⟩ ⟨here.dropLast, rest, links⟩
  | enter {here : Path} {name : String} {rest : List String} {links : Nat} {node : Node}
      (entry : fs.root.at? (here ++ [name]) = some node) (real : IsReal node) :
      ResolutionStep fs ⟨here, name :: rest, links⟩ ⟨here ++ [name], rest, links⟩
  | follow {here : Path} {name : String} {rest : List String} {links : Nat} {target : String}
      (link : fs.root.at? (here ++ [name]) = some (.link target)) (written : target ≠ "") :
      ResolutionStep fs ⟨here, name :: rest, links⟩
        ⟨FileSystem.startOf here target, Path.components target ++ rest, links + 1⟩

/-- The next part leads nowhere: nothing has its name, or what has it is a link with nothing written
in it, or the resolution is not in a directory. -/
inductive Stuck (fs : FileSystem) : Resolution → Prop
  | missing {here : Path} {part : String} {rest : List String} {links : Nat}
      (directory : DirectoryAt fs here) (named : part ∉ ["", ".", ".."])
      (missing : fs.root.at? (here ++ [part]) = none) : Stuck fs ⟨here, part :: rest, links⟩
  | nowhere {here : Path} {part : String} {rest : List String} {links : Nat}
      (link : fs.root.at? (here ++ [part]) = some (.link "")) : Stuck fs ⟨here, part :: rest, links⟩
  | outside {here : Path} {part : String} {rest : List String} {links : Nat}
      (outside : ¬ DirectoryAt fs here) : Stuck fs ⟨here, part :: rest, links⟩

/-- What a resolution comes to if it may follow `limit` links in all. -/
def Resolution.outcome (fs : FileSystem) (limit : Nat) (s : Resolution) : Except SystemError Path :=
  if s.links ≤ limit then fs.walkUpTo (limit - s.links) s.here s.left else .error .tooManyLinks

lemma exists_walk (fs : FileSystem) (n : Nat) : ∃ follow, fs.walkUpTo n = fs.walk follow := by
  cases n with
  | zero => exact ⟨_, rfl⟩
  | succ n => exact ⟨_, rfl⟩

lemma walk_link (hwell : wellNamed fs.root = true) {here : Path} {name target : String}
    (hlink : fs.root.at? (here ++ [name]) = some (.link target))
    (follow : Path → List String → Except SystemError Path) (rest : List String) :
    fs.walk follow here (name :: rest) =
      if target = "" then .error .notFound
      else follow (FileSystem.startOf here target) (Path.components target ++ rest) := by
  obtain ⟨entries, hhere, hentry⟩ := entry_of_at hlink
  have hname := isProperName_of_lookup hwell hhere hentry
  have hnamed : dotsTo here name = none := dotsTo_eq_none_iff.mpr (not_mem_dots_of_proper hname)
  rw [walk_named (kindAt_directory_iff.mpr ⟨entries, hhere⟩) hnamed,
    if_neg (Nat.not_lt.mpr (width_of_proper hname)), kindAt, hlink]
  rfl

/-- No step changes what a resolution comes to. -/
theorem outcome_of_step (hwell : wellNamed fs.root = true) (limit : Nat) {s t : Resolution}
    (h : ResolutionStep fs s t) : s.outcome fs limit = t.outcome fs limit := by
  -- Without a link both are the same walk, gone on from the next place.
  have hsame : ∀ {here next : Path} {part : String} {rest : List String} (links : Nat),
      (∀ follow, fs.walk follow here (part :: rest) = fs.walk follow next rest) →
      Resolution.outcome fs limit ⟨here, part :: rest, links⟩ =
        Resolution.outcome fs limit ⟨next, rest, links⟩ := by
    intro here next part rest links hwalk
    obtain ⟨follow, hfollow⟩ := exists_walk fs (limit - links)
    simp only [Resolution.outcome, hfollow, hwalk]
  cases h with
  | @stay here part rest links directory dot =>
    refine hsame links fun follow => walk_dots (kindAt_directory_iff.mpr directory) ?_ follow rest
    rw [dotsTo, if_pos dot]
  | @up here rest links directory =>
    exact hsame links fun follow =>
      walk_dots (kindAt_directory_iff.mpr directory) (by simp [dotsTo]) follow rest
  | @enter here name rest links node entry real =>
    obtain ⟨entries, hhere, hentry⟩ := entry_of_at entry
    have hname := isProperName_of_lookup hwell hhere hentry
    exact hsame links fun follow => walk_entry follow hhere hname hentry real rest
  | @follow here name rest links target link written =>
    by_cases hlinks : links + 1 ≤ limit
    · obtain ⟨n, hn⟩ : ∃ n, limit - links = n + 1 := ⟨limit - links - 1, by omega⟩
      have hn' : limit - (links + 1) = n := by omega
      simp only [Resolution.outcome, if_pos (Nat.le_of_succ_le hlinks), if_pos hlinks, hn, hn']
      rw [FileSystem.walkUpTo, walk_link hwell link, if_neg written]
    · by_cases hlast : links ≤ limit
      · have hn : limit - links = 0 := by omega
        simp only [Resolution.outcome, if_pos hlast, if_neg hlinks, hn]
        rw [FileSystem.walkUpTo, walk_link hwell link, if_neg written]
      · simp only [Resolution.outcome, if_neg hlast, if_neg hlinks]

theorem outcome_of_steps (hwell : wellNamed fs.root = true) (limit : Nat) {s t : Resolution}
    (h : ReflTransGen (ResolutionStep fs) s t) : s.outcome fs limit = t.outcome fs limit := by
  induction h with
  | refl => rfl
  | tail _ hstep ih => exact ih.trans (outcome_of_step hwell limit hstep)

/-! ### The end -/

lemma stuck_or_step (fs : FileSystem) (s : Resolution) (hleft : s.left ≠ []) :
    Stuck fs s ∨ ∃ t, ResolutionStep fs s t := by
  obtain ⟨here, left, links⟩ := s
  obtain ⟨part, rest, rfl⟩ := List.exists_cons_of_ne_nil hleft
  by_cases hhere : DirectoryAt fs here
  swap
  · exact .inl (.outside hhere)
  by_cases hdot : part = "" ∨ part = "."
  · exact .inr ⟨_, .stay hhere hdot⟩
  by_cases hup : part = ".."
  · subst hup
    exact .inr ⟨_, .up hhere⟩
  cases hentry : fs.root.at? (here ++ [part]) with
  | none => exact .inl (.missing hhere (by simp_all) hentry)
  | some node =>
    cases node with
    | file content => exact .inr ⟨_, .enter hentry (isReal_file content)⟩
    | directory entries => exact .inr ⟨_, .enter hentry (isReal_directory entries)⟩
    | link target =>
      by_cases hempty : target = ""
      · exact .inl (.nowhere (hempty ▸ hentry))
      · exact .inr ⟨_, .follow hentry hempty⟩

/-- A step takes a part away or follows one more link. -/
lemma less_left_of_step {s t : Resolution} (h : ResolutionStep fs s t) :
    t.links = s.links ∧ t.left.length < s.left.length ∨ t.links = s.links + 1 := by
  cases h with
  | stay => exact .inl ⟨rfl, by simp⟩
  | up => exact .inl ⟨rfl, by simp⟩
  | enter => exact .inl ⟨rfl, by simp⟩
  | follow => exact .inr rfl

/-- Nothing more is to be done: no part is left, or the next one leads nowhere, or too many links
have been followed. -/
def Resolution.Over (fs : FileSystem) (limit : Nat) (s : Resolution) : Prop :=
  s.left = [] ∨ Stuck fs s ∨ limit < s.links

/-- Every resolution is over after some steps. -/
theorem exists_over (fs : FileSystem) (limit : Nat) (s : Resolution) :
    ∃ t, ReflTransGen (ResolutionStep fs) s t ∧ t.Over fs limit := by
  by_cases hleft : s.left = []
  · exact ⟨s, .refl, .inl hleft⟩
  by_cases hlinks : limit < s.links
  · exact ⟨s, .refl, .inr (.inr hlinks)⟩
  rcases stuck_or_step fs s hleft with hstuck | ⟨t, hstep⟩
  · exact ⟨s, .refl, .inr (.inl hstuck)⟩
  · have hless := less_left_of_step hstep
    obtain ⟨u, hsteps, hover⟩ := exists_over fs limit t
    exact ⟨u, .head hstep hsteps, hover⟩
termination_by (limit + 1 - s.links, s.left.length)
decreasing_by
  rcases hless with ⟨hsame, hshorter⟩ | hmore
  · rw [hsame]
    exact Prod.Lex.right _ hshorter
  · exact Prod.Lex.left _ _ (by omega)

lemma outcome_of_done {limit : Nat} {here : Path} {links : Nat} (hlinks : links ≤ limit) :
    Resolution.outcome fs limit ⟨here, [], links⟩ = .ok here := by
  rw [Resolution.outcome, if_pos hlinks, walkUpTo_nil]

lemma walk_stuck (hwell : wellNamed fs.root = true) {s : Resolution} (h : Stuck fs s)
    (follow : Path → List String → Except SystemError Path) :
    ∃ error, fs.walk follow s.here s.left = .error error := by
  cases h with
  | @missing here part rest links directory named missing =>
    rw [walk_named (kindAt_directory_iff.mpr directory) (dotsTo_eq_none_iff.mpr named), kindAt,
      missing]
    split
    · exact ⟨_, rfl⟩
    · exact ⟨_, rfl⟩
  | nowhere link => exact ⟨_, walk_link hwell link follow _⟩
  | outside outside =>
    exact ⟨_, walk_not_directory (fun h => outside (kindAt_directory_iff.mp h)) follow _ _⟩

lemma outcome_of_failed (hwell : wellNamed fs.root = true) {limit : Nat} {s : Resolution}
    (h : Stuck fs s ∨ limit < s.links) : ∃ error, s.outcome fs limit = .error error := by
  unfold Resolution.outcome
  by_cases hlinks : s.links ≤ limit
  · rw [if_pos hlinks]
    obtain ⟨follow, hfollow⟩ := exists_walk fs (limit - s.links)
    rw [hfollow]
    exact walk_stuck hwell (h.resolve_right (Nat.not_lt.mpr hlinks)) follow
  · rw [if_neg hlinks]
    exact ⟨_, rfl⟩

/-- A resolution finds a place if its steps come to an end there. -/
theorem outcome_eq_ok_iff (hwell : wellNamed fs.root = true) {limit : Nat} {s : Resolution}
    {place : Path} : s.outcome fs limit = .ok place ↔
      ∃ links ≤ limit, ReflTransGen (ResolutionStep fs) s ⟨place, [], links⟩ := by
  constructor
  · intro h
    obtain ⟨t, hsteps, hover⟩ := exists_over fs limit s
    rw [outcome_of_steps hwell limit hsteps] at h
    have hnotFailed : ¬ (Stuck fs t ∨ limit < t.links) := by
      intro hfailed
      obtain ⟨error, herror⟩ := outcome_of_failed hwell hfailed
      rw [herror] at h
      cases h
    obtain ⟨here, left, links⟩ := t
    obtain rfl : left = [] := hover.resolve_right hnotFailed
    have hlinks : links ≤ limit := Nat.not_lt.mp fun hmore => hnotFailed (.inr hmore)
    rw [outcome_of_done hlinks] at h
    exact ⟨links, hlinks, Except.ok.inj h ▸ hsteps⟩
  · rintro ⟨links, hlinks, hsteps⟩
    rw [outcome_of_steps hwell limit hsteps, outcome_of_done hlinks]

/-- A resolution fails if its steps lead to where it is stuck, or through too many links. -/
theorem outcome_eq_error_iff (hwell : wellNamed fs.root = true) {limit : Nat} {s : Resolution} :
    (∃ error, s.outcome fs limit = .error error) ↔
      ∃ t, ReflTransGen (ResolutionStep fs) s t ∧ (Stuck fs t ∨ limit < t.links) := by
  constructor
  · rintro ⟨error, herror⟩
    obtain ⟨t, hsteps, hover⟩ := exists_over fs limit s
    refine ⟨t, hsteps, ?_⟩
    rcases hover with hdone | hfailed
    · refine .inr (Nat.not_le.mp fun hlinks => ?_)
      obtain ⟨here, left, links⟩ := t
      obtain rfl : left = [] := hdone
      rw [outcome_of_steps hwell limit hsteps, outcome_of_done hlinks] at herror
      cases herror
    · exact hfailed
  · rintro ⟨t, hsteps, hfailed⟩
    rw [outcome_of_steps hwell limit hsteps]
    exact outcome_of_failed hwell hfailed

/-- A resolution that comes back to where it was goes round until it has followed too many links. -/
theorem outcome_of_loop (hwell : wellNamed fs.root = true) {s : Resolution} {links : Nat}
    (hloop : ReflTransGen (ResolutionStep fs) s ⟨s.here, s.left, links⟩) (hlinks : s.links < links)
    (limit : Nat) : ∃ error, s.outcome fs limit = .error error := by
  have hwalk : ∀ n, ∃ error, fs.walkUpTo n s.here s.left = .error error := by
    intro n
    induction n using Nat.strong_induction_on with
    | _ n ih =>
      -- Once round, the same walk has fewer links left.
      have hround := outcome_of_steps hwell (s.links + n) hloop
      rw [Resolution.outcome, if_pos (Nat.le_add_right _ _), Nat.add_sub_cancel_left,
        Resolution.outcome] at hround
      rw [hround]
      dsimp only
      split_ifs with hleft
      · exact ih _ (by omega)
      · exact ⟨_, rfl⟩
  unfold Resolution.outcome
  split_ifs
  · exact hwalk _
  · exact ⟨_, rfl⟩

/-! ### The places on the way -/

/-- Something stands at the place that is no link; on the way to it there are directories only. -/
def RealPlace (fs : FileSystem) (place : Path) : Prop :=
  ∃ node, fs.root.at? place = some node ∧ IsReal node

lemma realPlace_of_directory {place : Path} (h : DirectoryAt fs place) : RealPlace fs place := by
  obtain ⟨entries, hplace⟩ := h
  exact ⟨_, hplace, isReal_directory entries⟩

lemma directoryAt_above {place below : Path} (h : RealPlace fs (place ++ below))
    (hbelow : below ≠ []) : DirectoryAt fs place := by
  obtain ⟨node, hnode, _⟩ := h
  obtain ⟨above, habove, hfound⟩ := exists_above hnode
  obtain ⟨name, rest, rfl⟩ := List.exists_cons_of_ne_nil hbelow
  obtain ⟨entries, child, rfl, _, _⟩ := at_cons_eq_some hfound
  exact ⟨entries, habove⟩

lemma directoryAt_dropLast {place : Path} (h : DirectoryAt fs place) :
    DirectoryAt fs place.dropLast := by
  rcases List.eq_nil_or_concat' place with rfl | ⟨front, last, rfl⟩
  · exact h
  · rw [List.dropLast_concat]
    exact directoryAt_above (realPlace_of_directory h) (List.cons_ne_nil last [])

lemma directoryAt_top {place : Path} (h : DirectoryAt fs place) : DirectoryAt fs [] := by
  cases place with
  | nil => exact h
  | cons name rest =>
    have hbelow : RealPlace fs ([] ++ name :: rest) := realPlace_of_directory h
    exact directoryAt_above hbelow (List.cons_ne_nil name rest)

lemma directoryAt_of_step {s t : Resolution} (h : ResolutionStep fs s t) :
    DirectoryAt fs s.here := by
  cases h with
  | stay directory => exact directory
  | up directory => exact directory
  | enter entry =>
    obtain ⟨entries, hhere, _⟩ := entry_of_at entry
    exact ⟨entries, hhere⟩
  | follow link =>
    obtain ⟨entries, hhere, _⟩ := entry_of_at link
    exact ⟨entries, hhere⟩

lemma directoryAt_startOf {here : Path} (h : DirectoryAt fs here) (target : String) :
    DirectoryAt fs (FileSystem.startOf here target) := by
  unfold FileSystem.startOf
  split_ifs
  · exact directoryAt_top h
  · exact h

/-- Wherever a resolution starts, every step leads to a place on the way to which no link lies. -/
lemma realPlace_of_step {s t : Resolution} (h : ResolutionStep fs s t) : RealPlace fs t.here := by
  have hhere := directoryAt_of_step h
  cases h with
  | stay => exact realPlace_of_directory hhere
  | up => exact realPlace_of_directory (directoryAt_dropLast hhere)
  | enter entry real => exact ⟨_, entry, real⟩
  | follow => exact realPlace_of_directory (directoryAt_startOf hhere _)

/-- A resolution that has taken a part away is at such a place, below a top that is a directory. -/
theorem realPlace_of_steps {s t : Resolution} (h : ReflTransGen (ResolutionStep fs) s t)
    (hne : s.left ≠ t.left) : RealPlace fs t.here ∧ DirectoryAt fs [] := by
  rcases ReflTransGen.cases_tail h with rfl | ⟨u, _, hstep⟩
  · exact absurd rfl hne
  · exact ⟨realPlace_of_step hstep, directoryAt_top (directoryAt_of_step hstep)⟩

end SyntaxCheck.Proofs
