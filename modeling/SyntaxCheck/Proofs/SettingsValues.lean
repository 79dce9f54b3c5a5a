import Mathlib.Data.List.TakeWhile
import Mathlib.Tactic
import SyntaxCheck.Settings.Patch

/-!
# What settings come to

Fragments are added one at a time, and one that is empty or there already is passed over. So what a
list of fragments adds is known in closed form, and a list that was built in this way holds neither
an empty fragment nor one fragment twice. An extension is set without the dots in front of it.
-/

namespace SyntaxCheck.Proofs

open Settings

variable {kept : List String} {fragment : String}

/-- The fragments that are not empty, each once, in the order in which they first occur. -/
def distinctFragments (fragments : List String) : List String :=
  (fragments.filter fun f => f ≠ "").eraseDups

lemma mem_distinctFragments {fragments : List String} :
    fragment ∈ distinctFragments fragments ↔ fragment ∈ fragments ∧ fragment ≠ "" := by
  rw [distinctFragments, List.mem_eraseDups, List.mem_filter, decide_eq_true_eq]

/-! ### Fragments that are added -/

lemma addFragment_of_passed (h : fragment = "" ∨ fragment ∈ kept) :
    addFragment kept fragment = kept := by
  rw [addFragment, if_pos h]

lemma addFragment_of_new (h : ¬ (fragment = "" ∨ fragment ∈ kept)) :
    addFragment kept fragment = kept ++ [fragment] := by
  rw [addFragment, if_neg h]

/-- What was there stays in front, and after it comes what is new, each fragment once. -/
lemma foldl_addFragment (kept fragments : List String) :
    fragments.foldl addFragment kept =
      kept ++ distinctFragments (fragments.filter fun f => f ∉ kept) := by
  induction fragments generalizing kept with
  | nil => simp [distinctFragments]
  | cons f rest ih =>
    rw [List.foldl_cons, ih]
    by_cases hpassed : f = "" ∨ f ∈ kept
    · have hleft : distinctFragments ((f :: rest).filter fun g => g ∉ kept) =
          distinctFragments (rest.filter fun g => g ∉ kept) := by
        unfold distinctFragments
        rcases hpassed with rfl | hmem
        · by_cases hmem : "" ∈ kept <;> simp [hmem]
        · simp [hmem]
      rw [addFragment_of_passed hpassed, hleft]
    · have hnew := not_or.mp hpassed
      have hrest : (rest.filter fun g => g ∉ kept ++ [f]) =
          (rest.filter fun g => g ∉ kept).filter fun g => !g == f := by
        rw [List.filter_filter]
        apply List.filter_congr
        intro g _
        have hbeq : (g == f) = decide (g = f) := rfl
        simp [hbeq, Bool.and_comm]
      rw [addFragment_of_new hpassed, hrest, List.append_assoc]
      congr 1
      unfold distinctFragments
      rw [List.filter_cons_of_pos (by simpa using hnew.2),
        List.filter_cons_of_pos (by simpa using hnew.1), List.eraseDups_cons, List.filter_comm,
        List.singleton_append]

lemma foldl_addFragment_nil (fragments : List String) :
    fragments.foldl addFragment [] = distinctFragments fragments := by
  rw [foldl_addFragment]
  simp

/-- Fragments that are added after others are added as if all had come in one list. -/
lemma foldl_addFragment_distinct (first second : List String) :
    second.foldl addFragment (distinctFragments first) = distinctFragments (first ++ second) := by
  rw [← foldl_addFragment_nil, ← foldl_addFragment_nil, List.foldl_append]

/-! ### Fragments that are never added -/

/-- There is no empty fragment, and none is there twice. -/
structure ProperFragments (fragments : List String) : Prop where
  no_empty : "" ∉ fragments
  nodup : fragments.Nodup

lemma properFragments_nil : ProperFragments [] :=
  ⟨List.not_mem_nil, List.nodup_nil⟩

lemma properFragments_addFragment (h : ProperFragments kept) (fragment : String) :
    ProperFragments (addFragment kept fragment) := by
  by_cases hpassed : fragment = "" ∨ fragment ∈ kept
  · rw [addFragment_of_passed hpassed]
    exact h
  · rw [addFragment_of_new hpassed]
    obtain ⟨hne, hnew⟩ := not_or.mp hpassed
    refine ⟨?_, ?_⟩
    · rw [List.mem_append, List.mem_singleton, not_or]
      exact ⟨h.no_empty, Ne.symm hne⟩
    · exact List.nodup_append.mpr ⟨h.nodup, List.nodup_singleton _, by
        intro a ha b hb
        rw [List.mem_singleton] at hb
        rintro rfl
        exact hnew (hb ▸ ha)⟩

lemma properFragments_foldl (h : ProperFragments kept) (fragments : List String) :
    ProperFragments (fragments.foldl addFragment kept) := by
  induction fragments generalizing kept with
  | nil => exact h
  | cons f rest ih => exact ih (properFragments_addFragment h f)

/-! ### Extensions -/

/-- The extension is the text without all the dots in front of it. -/
def TrimmedFrom (text extension : String) : Prop :=
  ∃ dots, text.toList = List.replicate dots '.' ++ extension.toList ∧
    extension.toList.head? ≠ some '.'

lemma trimmedFrom_setExtension (s : Settings) (text : String) :
    TrimmedFrom text (s.setExtension text).extension := by
  have hdots : text.toList.takeWhile (· == '.') =
      List.replicate (text.toList.takeWhile (· == '.')).length '.' := by
    apply List.eq_replicate_of_mem
    intro c hc
    simpa using List.mem_takeWhile_imp hc
  refine ⟨(text.toList.takeWhile (· == '.')).length, ?_, ?_⟩
  · rw [← hdots, Settings.setExtension, String.toList_ofList, List.takeWhile_append_dropWhile]
  · intro hhead
    rw [Settings.setExtension, String.toList_ofList] at hhead
    have hdot := List.head?_dropWhile_not (· == '.') text.toList
    rw [hhead] at hdot
    cases hdot

/-! ### What a document changes -/

lemma settings_ext {s s' : Settings} (hextension : s.extension = s'.extension)
    (hignore : s.ignore = s'.ignore) : s = s' := by
  obtain ⟨extension, ignore⟩ := s
  obtain ⟨extension', ignore'⟩ := s'
  exact congrArg₂ Settings.mk hextension hignore

lemma extension_apply (s : Settings) (patch : Patch) :
    (s.apply patch).extension =
      (patch.extension.map fun text => (s.setExtension text).extension).getD s.extension := by
  obtain ⟨extension, ignore, extraIgnore⟩ := patch
  cases extension <;> cases ignore <;> rfl

lemma ignore_apply (s : Settings) (patch : Patch) :
    (s.apply patch).ignore = patch.extraIgnore.foldl addFragment
      ((patch.ignore.map fun fragments => fragments.foldl addFragment []).getD s.ignore) := by
  obtain ⟨extension, ignore, extraIgnore⟩ := patch
  cases extension <;> cases ignore <;> rfl

end SyntaxCheck.Proofs
