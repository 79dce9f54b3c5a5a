import Mathlib.Tactic
import SyntaxCheck.Proofs.EncodedText
import SyntaxCheck.Text.ByteOrder

/-!
# Entries with names

Directories and tables are lists of entries with names. Where the names differ, looking a name up
and being in the list are the same, and arranging the entries by their names changes neither. The
names then stand in strict order, so there is one way to arrange the entries, however they were
listed.
-/

namespace SyntaxCheck.Proofs

variable {α β : Type} {entries : List (String × α)} {name : String} {value : α}

lemma mem_of_lookup (h : entries.lookup name = some value) : (name, value) ∈ entries := by
  obtain ⟨before, after, rfl, _⟩ := List.lookup_eq_some_iff.mp h
  simp

lemma lookup_of_mem (hnames : (entries.map Prod.fst).Nodup) (h : (name, value) ∈ entries) :
    entries.lookup name = some value := by
  obtain ⟨before, after, rfl⟩ := List.append_of_mem h
  refine List.lookup_eq_some_iff.mpr ⟨before, after, rfl, ?_⟩
  intro e he
  rw [List.map_append, List.map_cons, List.nodup_append] at hnames
  exact bne_iff_ne.mpr fun heq =>
    hnames.2.2 e.1 (List.mem_map_of_mem he) name (by simp) heq.symm

lemma lookup_eq_some_iff_mem (hnames : (entries.map Prod.fst).Nodup) :
    entries.lookup name = some value ↔ (name, value) ∈ entries :=
  ⟨mem_of_lookup, lookup_of_mem hnames⟩

lemma lookup_eq_none_iff_not_mem : entries.lookup name = none ↔ name ∉ entries.map Prod.fst := by
  rw [List.lookup_eq_none_iff]
  constructor
  · intro h hmem
    obtain ⟨e, he, heq⟩ := List.mem_map.mp hmem
    exact bne_iff_ne.mp (h e he) heq.symm
  · intro h e he
    apply bne_iff_ne.mpr
    rintro rfl
    exact h (List.mem_map_of_mem he)

lemma lookup_of_perm {entries' : List (String × α)} (h : entries.Perm entries')
    (hnames : (entries.map Prod.fst).Nodup) (name : String) :
    entries'.lookup name = entries.lookup name := by
  have hnames' := (h.map Prod.fst).nodup_iff.mp hnames
  apply Option.ext
  intro value
  rw [lookup_eq_some_iff_mem hnames', lookup_eq_some_iff_mem hnames, h.mem_iff]

/-! ### The order of names -/

lemma bytesBefore_asymm {a b : String} (h : bytesBefore a b = true) : bytesBefore b a = false := by
  simp only [bytesBefore, decide_eq_true_eq, decide_eq_false_iff_not] at *
  exact List.lt_asymm h

lemma bytesBefore_false_trans {a b c : String} (hab : bytesBefore a b = false)
    (hbc : bytesBefore b c = false) : bytesBefore a c = false := by
  simp only [bytesBefore, decide_eq_false_iff_not, List.not_lt] at *
  exact List.le_trans hbc hab

/-- Different names are written in different bytes, so one of them comes first. -/
lemma bytesBefore_of_ne {a b : String} (hba : bytesBefore b a = false) (hne : a ≠ b) :
    bytesBefore a b = true := by
  simp only [bytesBefore, decide_eq_true_eq, decide_eq_false_iff_not, List.not_lt] at *
  rcases List.le_iff_lt_or_eq.mp hba with hlt | heq
  · exact hlt
  · exact absurd (String.toList_injective (encode_injective heq)) hne

/-! ### Arranged entries -/

lemma insertByName_perm (name : String) (value : α) (l : List (String × α)) :
    (insertByName name value l).Perm ((name, value) :: l) := by
  induction l with
  | nil => rfl
  | cons e rest ih =>
    rw [insertByName]
    by_cases hbefore : bytesBefore e.1 name
    · rw [if_pos hbefore]
      exact (ih.cons e).trans (List.Perm.swap _ _ _)
    · rw [if_neg hbefore]

lemma sortByName_perm (l : List (String × α)) : (sortByName l).Perm l := by
  induction l with
  | nil => rfl
  | cons e rest ih =>
    rw [sortByName]
    exact (insertByName_perm e.1 e.2 _).trans (ih.cons e)

lemma mem_sortByName {e : String × α} : e ∈ sortByName entries ↔ e ∈ entries :=
  (sortByName_perm entries).mem_iff

lemma nodup_names_sortByName (hnames : (entries.map Prod.fst).Nodup) :
    ((sortByName entries).map Prod.fst).Nodup :=
  ((sortByName_perm entries).map Prod.fst).nodup_iff.mpr hnames

lemma nodup_sortByName (hnames : (entries.map Prod.fst).Nodup) : (sortByName entries).Nodup :=
  List.Nodup.of_map _ (nodup_names_sortByName hnames)

lemma lookup_sortByName (hnames : (entries.map Prod.fst).Nodup) (name : String) :
    (sortByName entries).lookup name = entries.lookup name :=
  lookup_of_perm (sortByName_perm entries).symm hnames name

lemma insertByName_map {f : String × α → β} (name : String) (value : α) (l : List (String × α)) :
    insertByName name (f (name, value)) (l.map fun e => (e.1, f e)) =
      (insertByName name value l).map fun e => (e.1, f e) := by
  induction l with
  | nil => rfl
  | cons e rest ih =>
    rw [List.map_cons, insertByName, insertByName, ih]
    split <;> rfl

/-- Values are arranged by the names alone. -/
lemma sortByName_map (f : String × α → β) (l : List (String × α)) :
    sortByName (l.map fun e => (e.1, f e)) = (sortByName l).map fun e => (e.1, f e) := by
  induction l with
  | nil => rfl
  | cons e rest ih =>
    rw [List.map_cons, sortByName, sortByName, ih]
    exact insertByName_map e.1 e.2 _

lemma pairwise_insertByName {name : String} {value : α} {l : List (String × α)}
    (h : l.Pairwise fun a b => bytesBefore b.1 a.1 = false) :
    (insertByName name value l).Pairwise fun a b => bytesBefore b.1 a.1 = false := by
  induction l with
  | nil => exact List.pairwise_singleton _ _
  | cons e rest ih =>
    obtain ⟨hfirst, hrest⟩ := List.pairwise_cons.mp h
    rw [insertByName]
    by_cases hbefore : bytesBefore e.1 name
    · rw [if_pos hbefore, List.pairwise_cons]
      refine ⟨?_, ih hrest⟩
      intro other hother
      have hmem := (insertByName_perm name value rest).mem_iff.mp hother
      rcases List.mem_cons.mp hmem with rfl | hmem
      · exact bytesBefore_asymm hbefore
      · exact hfirst other hmem
    · rw [if_neg hbefore, List.pairwise_cons]
      refine ⟨?_, h⟩
      intro other hother
      rcases List.mem_cons.mp hother with rfl | hmem
      · simpa using hbefore
      · exact bytesBefore_false_trans (hfirst other hmem) (by simpa using hbefore)

lemma pairwise_sortByName (l : List (String × α)) :
    (sortByName l).Pairwise fun a b => bytesBefore b.1 a.1 = false := by
  induction l with
  | nil => exact List.Pairwise.nil
  | cons e rest ih => exact pairwise_insertByName ih

/-- Where the names differ, those that are arranged stand in strict order. -/
theorem ordered_sortByName (hnames : (entries.map Prod.fst).Nodup) :
    (sortByName entries).Pairwise fun a b => bytesBefore a.1 b.1 = true := by
  have hdistinct : (sortByName entries).Pairwise fun a b => a.1 ≠ b.1 :=
    List.pairwise_map.mp (nodup_names_sortByName hnames)
  refine (pairwise_sortByName entries).imp₂ ?_ hdistinct
  intro a b hba hne
  exact bytesBefore_of_ne hba hne

/-- There is one way to arrange entries, in whatever order they are listed. -/
theorem sortByName_eq_of_perm {entries' : List (String × α)} (hperm : entries.Perm entries')
    (hnames : (entries.map Prod.fst).Nodup) : sortByName entries = sortByName entries' := by
  have hnames' : (entries'.map Prod.fst).Nodup := (hperm.map Prod.fst).nodup_iff.mp hnames
  have hsame : (sortByName entries).Perm (sortByName entries') :=
    ((sortByName_perm entries).trans hperm).trans (sortByName_perm entries').symm
  refine hsame.eq_of_pairwise ?_ (ordered_sortByName hnames) (ordered_sortByName hnames')
  intro a b _ _ hab hba
  rw [bytesBefore_asymm hab] at hba
  cases hba

end SyntaxCheck.Proofs
