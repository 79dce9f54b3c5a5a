import Mathlib.Tactic
import SyntaxCheck.Proofs.WalkWays

/-!
# One more in a list

A list with one more in it has all the others in the order that they had. That stays so when both
lists are mapped or filtered, when something is put in place of each of their members, and when both
are arranged by names.
-/

namespace SyntaxCheck.Proofs

variable {α β : Type}

/-- The second list is the first one with `x` put in somewhere. -/
def OneMore (x : α) (l l' : List α) : Prop :=
  ∃ before after, l = before ++ after ∧ l' = before ++ x :: after

lemma oneMore_length {x : α} {l l' : List α} (h : OneMore x l l') : l'.length = l.length + 1 := by
  obtain ⟨before, after, rfl, rfl⟩ := h
  simp only [List.length_append, List.length_cons]
  omega

lemma oneMore_map {x : α} {l l' : List α} (h : OneMore x l l') (f : α → β) :
    OneMore (f x) (l.map f) (l'.map f) := by
  obtain ⟨before, after, rfl, rfl⟩ := h
  exact ⟨before.map f, after.map f, by simp, by simp⟩

lemma oneMore_filter {x : α} {l l' : List α} (h : OneMore x l l') {p : α → Bool}
    (hx : p x = true) : OneMore x (l.filter p) (l'.filter p) := by
  obtain ⟨before, after, rfl, rfl⟩ := h
  exact ⟨before.filter p, after.filter p, by simp, by simp [hx]⟩

lemma filter_eq_of_oneMore {x : α} {l l' : List α} (h : OneMore x l l') {p : α → Bool}
    (hx : p x = false) : l'.filter p = l.filter p := by
  obtain ⟨before, after, rfl, rfl⟩ := h
  simp [hx]

lemma oneMore_filterMap {x : α} {l l' : List α} (h : OneMore x l l') {f : α → Option β} {y : β}
    (hx : f x = some y) : OneMore y (l.filterMap f) (l'.filterMap f) := by
  obtain ⟨before, after, rfl, rfl⟩ := h
  exact ⟨before.filterMap f, after.filterMap f, by simp, by simp [hx]⟩

lemma filterMap_eq_of_oneMore {x : α} {l l' : List α} (h : OneMore x l l') {f : α → Option β}
    (hx : f x = none) : l'.filterMap f = l.filterMap f := by
  obtain ⟨before, after, rfl, rfl⟩ := h
  simp [hx]

/-- One more member that stands for one thing, while the others stand for what they stood for. -/
lemma oneMore_flatMap_new {x : α} {y : β} {l l' : List α} (h : OneMore x l l') {f g : α → List β}
    (hx : g x = [y]) (hsame : ∀ e ∈ l, g e = f e) : OneMore y (l.flatMap f) (l'.flatMap g) := by
  obtain ⟨before, after, rfl, rfl⟩ := h
  rw [List.forall_mem_append] at hsame
  refine ⟨before.flatMap f, after.flatMap f, List.flatMap_append, ?_⟩
  rw [List.flatMap_append, List.flatMap_cons, hx, List.flatMap_congr hsame.1,
    List.flatMap_congr hsame.2, List.singleton_append]

/-- One member that stands for one more thing, while the others stand for what they stood for. -/
lemma oneMore_flatMap_at {e : α} {y : β} {l : List α} (he : e ∈ l) {f g : α → List β}
    (hmore : OneMore y (f e) (g e)) (hnodup : l.Nodup)
    (hsame : ∀ other ∈ l, other ≠ e → g other = f other) :
    OneMore y (l.flatMap f) (l.flatMap g) := by
  obtain ⟨before, after, rfl⟩ := List.append_of_mem he
  obtain ⟨first, second, hf, hg⟩ := hmore
  rw [List.nodup_append, List.nodup_cons] at hnodup
  obtain ⟨_, ⟨hafter, _⟩, hbefore⟩ := hnodup
  have hbeforeSame : ∀ other ∈ before, g other = f other := by
    intro other hmem
    exact hsame other (by simp [hmem]) (hbefore other hmem e List.mem_cons_self)
  have hafterSame : ∀ other ∈ after, g other = f other := by
    intro other hmem
    refine hsame other (by simp [hmem]) ?_
    rintro rfl
    exact hafter hmem
  refine ⟨before.flatMap f ++ first, second ++ after.flatMap f, ?_, ?_⟩
  · simp [hf]
  · rw [List.flatMap_append, List.flatMap_cons, hg, List.flatMap_congr hbeforeSame,
      List.flatMap_congr hafterSame]
    simp

/-! ### Arranged by names -/

/-- The second list is the first one with `x` put in where no name that comes before its own is
left. -/
def OneMoreByName (x : String × α) (l l' : List (String × α)) : Prop :=
  ∃ before after, l = before ++ after ∧ l' = before ++ x :: after ∧
    ∀ e ∈ after, bytesBefore e.1 x.1 = false

lemma insertByName_cons_of_not_before {name : String} (value : α) {l : List (String × α)}
    (h : ∀ e ∈ l, bytesBefore e.1 name = false) :
    insertByName name value l = (name, value) :: l := by
  cases l with
  | nil => rfl
  | cons e rest =>
    rw [insertByName, if_neg]
    simp [h e List.mem_cons_self]

lemma oneMoreByName_insertByName {x : String × α} {l l' : List (String × α)}
    (h : OneMoreByName x l l') (name : String) (value : α) :
    OneMoreByName x (insertByName name value l) (insertByName name value l') := by
  obtain ⟨before, after, rfl, rfl, hafter⟩ := h
  induction before with
  | nil =>
    rw [List.nil_append, List.nil_append, insertByName]
    by_cases hbefore : bytesBefore x.1 name
    · rw [if_pos hbefore]
      refine ⟨[], insertByName name value after, rfl, rfl, ?_⟩
      intro e he
      rcases List.mem_cons.mp ((insertByName_perm name value after).mem_iff.mp he) with rfl | he
      · exact bytesBefore_asymm hbefore
      · exact hafter e he
    · -- The name stands before that of `x`, so it stands before all that come after `x`.
      rw [if_neg hbefore]
      have hpass : ∀ e ∈ after, bytesBefore e.1 name = false :=
        fun e he => bytesBefore_false_trans (hafter e he) (by simpa using hbefore)
      rw [insertByName_cons_of_not_before value hpass]
      exact ⟨[(name, value)], after, rfl, rfl, hafter⟩
  | cons e before ih =>
    obtain ⟨first, second, hl, hl', hsecond⟩ := ih
    rw [List.cons_append, List.cons_append, insertByName, insertByName]
    by_cases hbefore : bytesBefore e.1 name
    · rw [if_pos hbefore, if_pos hbefore, hl, hl']
      exact ⟨e :: first, second, rfl, rfl, hsecond⟩
    · rw [if_neg hbefore, if_neg hbefore]
      exact ⟨(name, value) :: e :: before, after, rfl, rfl, hafter⟩

/-- One more value among those arranged leaves the others in their order. -/
theorem oneMore_sortByName (x : String × α) (l : List (String × α)) :
    OneMore x (sortByName l) (sortByName (l ++ [x])) := by
  have hmore : OneMoreByName x (sortByName l) (sortByName (l ++ [x])) := by
    induction l with
    | nil => exact ⟨[], [], rfl, rfl, by simp⟩
    | cons e rest ih => exact oneMoreByName_insertByName ih e.1 e.2
  obtain ⟨before, after, hl, hl', _⟩ := hmore
  exact ⟨before, after, hl, hl'⟩

end SyntaxCheck.Proofs
