import Mathlib.Tactic
import SyntaxCheck.Proofs.NamedEntries
import SyntaxCheck.Toml.Document

/-!
# Keys of a document

Whatever assignments and headers a document is made of, no key stands in it twice: a key that has a
value is refused another one, and a table that is opened again takes the place of the one before. So
the value under a key does not depend on the order in which the keys are gone through.
-/

namespace SyntaxCheck.Proofs

open Toml

/-! ### Results -/

section Results

variable {ε ε' β γ : Type}

lemma exists_of_bind {x : Except ε β} {f : β → Except ε γ} {c : γ} (h : (x >>= f) = .ok c) :
    ∃ b, x = .ok b ∧ f b = .ok c := by
  cases x with
  | error e => cases h
  | ok b => exact ⟨b, rfl, h⟩

lemma exists_of_map {x : Except ε β} {f : β → γ} {c : γ} (h : x.map f = .ok c) :
    ∃ b, x = .ok b ∧ f b = c := by
  cases x with
  | error e => cases h
  | ok b => exact ⟨b, rfl, Except.ok.inj h⟩

lemma mapError_eq_ok_iff {x : Except ε β} {f : ε → ε'} {b : β} :
    x.mapError f = .ok b ↔ x = .ok b := by
  cases x <;> simp [Except.mapError]

end Results

/-! ### One change -/

/-- No key stands twice among the entries. -/
def KeysDiffer (entries : Entries) : Prop :=
  (entries.map Prod.fst).Nodup

/-- What is done to the entries of a table leaves their keys different. -/
def KeepsKeysDifferent (change : TableOrigin → Entries → Except Toml.Fault Entries) : Prop :=
  ∀ origin entries entries', change origin entries = .ok entries' → KeysDiffer entries →
    KeysDiffer entries'

variable {name : String} {value : Value} {entries entries' : Entries}

lemma keysDiffer_nil : KeysDiffer [] :=
  List.nodup_nil

lemma keysDiffer_append (h : KeysDiffer entries) (hfree : entries.lookup name = none)
    (value : Value) : KeysDiffer (entries ++ [(name, value)]) := by
  have hnew : name ∉ entries.map Prod.fst := lookup_eq_none_iff_not_mem.mp hfree
  unfold KeysDiffer
  rw [List.map_append]
  refine List.nodup_append.mpr ⟨h, List.nodup_singleton _, ?_⟩
  intro a ha b hb
  obtain rfl := List.mem_singleton.mp hb
  rintro rfl
  exact hnew ha

/-- A value is put in place of the one before, or after all others. -/
lemma map_fst_set (name : String) (value : Value) (entries : Entries) :
    (Entries.set name value entries).map Prod.fst =
      if name ∈ entries.map Prod.fst then entries.map Prod.fst
      else entries.map Prod.fst ++ [name] := by
  induction entries with
  | nil => rfl
  | cons e rest ih =>
    rw [Entries.set]
    by_cases hname : e.1 = name
    · rw [if_pos hname, List.map_cons, List.map_cons, hname, if_pos List.mem_cons_self]
    · rw [if_neg hname, List.map_cons, ih, List.map_cons]
      by_cases hrest : name ∈ rest.map Prod.fst
      · rw [if_pos hrest, if_pos (List.mem_cons_of_mem _ hrest)]
      · have hnone : name ∉ e.1 :: rest.map Prod.fst := by
          rw [List.mem_cons, not_or]
          exact ⟨Ne.symm hname, hrest⟩
        rw [if_neg hrest, if_neg hnone, List.cons_append]

lemma keysDiffer_set (h : KeysDiffer entries) (name : String) (value : Value) :
    KeysDiffer (Entries.set name value entries) := by
  unfold KeysDiffer
  rw [map_fst_set]
  by_cases hname : name ∈ entries.map Prod.fst
  · rw [if_pos hname]
    exact h
  · rw [if_neg hname]
    have hnew := keysDiffer_append h (lookup_eq_none_iff_not_mem.mpr hname) value
    rwa [KeysDiffer, List.map_append] at hnew

lemma keepsKeysDifferent_add (name : String) (value : Value) :
    KeepsKeysDifferent fun _ entries => Entries.add entries name value := by
  intro _ entries entries' hadd hkeys
  change Entries.add entries name value = .ok entries' at hadd
  rw [Entries.add] at hadd
  cases hlookup : entries.lookup name with
  | none =>
    rw [hlookup] at hadd
    obtain rfl := Except.ok.inj hadd
    exact keysDiffer_append hkeys hlookup value
  | some old =>
    rw [hlookup] at hadd
    cases hadd

/-! ### A document -/

/-- At the end of a path only the tables below the first key of the path change, so at the top it is
enough that the change itself is harmless. -/
lemma keepsKeysDifferent_modifyAt {change : TableOrigin → Entries → Except Toml.Fault Entries}
    (hchange : KeepsKeysDifferent change) (dotted : Bool) (path : List String) :
    KeepsKeysDifferent (Entries.modifyAt dotted change path) := by
  intro origin entries entries' hmodify hkeys
  cases path with
  | nil => exact hchange _ _ _ hmodify hkeys
  | cons name path =>
    rw [Entries.modifyAt] at hmodify
    cases hlookup : entries.lookup name with
    | none =>
      rw [hlookup] at hmodify
      obtain ⟨inner, _, rfl⟩ := exists_of_map hmodify
      exact keysDiffer_append hkeys hlookup _
    | some old =>
      rw [hlookup] at hmodify
      obtain ⟨value, _, rfl⟩ := exists_of_map hmodify
      exact keysDiffer_set hkeys name value

lemma keysDiffer_assign {key : List String} (hassign : entries.assign key value = .ok entries')
    (hkeys : KeysDiffer entries) : KeysDiffer entries' := by
  refine keepsKeysDifferent_modifyAt ?_ _ _ _ _ _ hassign hkeys
  intro origin inner inner' hchange hinner
  dsimp only at hchange
  split_ifs at hchange
  exact keepsKeysDifferent_add _ _ origin _ _ hchange hinner

lemma keysDiffer_assignAll {assignments : List Assignment}
    (hassign : Document.assignAll entries assignments = .ok entries') (hkeys : KeysDiffer entries) :
    KeysDiffer entries' := by
  induction assignments generalizing entries with
  | nil =>
    obtain rfl := Except.ok.inj hassign
    exact hkeys
  | cons a rest ih =>
    rw [Document.assignAll] at hassign
    obtain ⟨key, _, hassign⟩ := exists_of_bind hassign
    obtain ⟨value, _, hassign⟩ := exists_of_bind hassign
    obtain ⟨next, hnext, hassign⟩ := exists_of_bind hassign
    exact ih hassign (keysDiffer_assign hnext hkeys)

lemma keepsKeysDifferent_closeTable (name : String) (ofArray : Bool) (table : Entries) :
    KeepsKeysDifferent fun _ entries => Document.closeTable name ofArray table entries := by
  intro _ entries entries' hclose hkeys
  unfold Document.closeTable at hclose
  dsimp only at hclose
  split at hclose
  · split at hclose
    · next hlookup =>
      obtain rfl := Except.ok.inj hclose
      exact keysDiffer_append hkeys hlookup _
    · obtain rfl := Except.ok.inj hclose
      exact keysDiffer_set hkeys _ _
    · cases hclose
  · obtain rfl := Except.ok.inj hclose
    exact keysDiffer_set hkeys _ _

lemma keysDiffer_addSection {s : Section} (hadd : Document.addSection entries s = .ok entries')
    (hkeys : KeysDiffer entries) : KeysDiffer entries' := by
  unfold Document.addSection at hadd
  obtain ⟨key, _, hadd⟩ := exists_of_bind hadd
  have hclose : ∃ table, Entries.modifyAt false
      (fun _ inner => Document.closeTable (key.getLastD "") s.ofArray table inner) key.dropLast
      .header entries = .ok entries' := by
    dsimp only at hadd
    split at hadd
    all_goals
      obtain ⟨start, _, hadd⟩ := exists_of_bind hadd
      obtain ⟨table, _, hadd⟩ := exists_of_bind hadd
      exact ⟨table, hadd⟩
  obtain ⟨table, htable⟩ := hclose
  have hkeeps := keepsKeysDifferent_closeTable (key.getLastD "") s.ofArray table
  exact keepsKeysDifferent_modifyAt hkeeps _ _ _ _ _ htable hkeys

lemma keysDiffer_addSections {sections : List Section}
    (hadd : sections.foldlM Document.addSection entries = .ok entries')
    (hkeys : KeysDiffer entries) : KeysDiffer entries' := by
  induction sections generalizing entries with
  | nil =>
    obtain rfl := Except.ok.inj hadd
    exact hkeys
  | cons s rest ih =>
    rw [List.foldlM_cons] at hadd
    obtain ⟨next, hnext, hadd⟩ := exists_of_bind hadd
    exact ih hadd (keysDiffer_addSection hnext hkeys)

/-- No key stands twice in a document. -/
theorem keysDiffer_parse {text : List Char} (h : parse text = .ok entries) :
    KeysDiffer entries := by
  unfold parse at h
  obtain ⟨outline, _, h⟩ := exists_of_bind h
  unfold Document.ofOutline at h
  obtain ⟨top, htop, h⟩ := exists_of_bind h
  exact keysDiffer_addSections h (keysDiffer_assignAll htop keysDiffer_nil)

end SyntaxCheck.Proofs
