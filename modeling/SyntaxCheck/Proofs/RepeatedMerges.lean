import Mathlib.Tactic
import SyntaxCheck.Proofs.SettingsSteps

/-!
# Merges one after another

What a document says takes the place of what was said before or comes after it. Fragments that are
there already are not added again, so a document that is merged twice changes nothing the second
time, and one that sets both the fragments and the extension leaves nothing of what was merged
before it.
-/

namespace SyntaxCheck.Proofs

open Settings

variable {entries : Toml.Entries} {kept fragments : List String}

/-! ### Fragments that are there -/

lemma mem_foldl_addFragment {f : String} :
    f ∈ fragments.foldl addFragment kept ↔ f ∈ kept ∨ f ∈ fragments ∧ f ≠ "" := by
  rw [foldl_addFragment, List.mem_append, mem_distinctFragments, List.mem_filter,
    decide_eq_true_eq]
  tauto

lemma foldl_addFragment_of_known (h : ∀ f ∈ fragments, f = "" ∨ f ∈ kept) :
    fragments.foldl addFragment kept = kept := by
  induction fragments with
  | nil => rfl
  | cons f rest ih =>
    rw [List.foldl_cons, addFragment_of_passed (h f List.mem_cons_self)]
    exact ih fun g hg => h g (List.mem_cons_of_mem _ hg)

/-- Fragments are added once, however often they come. -/
lemma foldl_addFragment_again (kept fragments : List String) :
    fragments.foldl addFragment (fragments.foldl addFragment kept) =
      fragments.foldl addFragment kept := by
  apply foldl_addFragment_of_known
  intro f hf
  rw [mem_foldl_addFragment]
  by_cases hempty : f = ""
  · exact .inl hempty
  · exact .inr (.inr ⟨hf, hempty⟩)

/-! ### Documents that are carried out -/

/-- The fragments that a document puts in the place of those before are the same in the end,
whatever there was. -/
lemma ignore_apply_of_replaced {patch : Patch} (h : patch.ignore ≠ none) (s s' : Settings) :
    (s.apply patch).ignore = (s'.apply patch).ignore := by
  obtain ⟨fragments, hfragments⟩ := Option.ne_none_iff_exists'.mp h
  rw [ignore_apply, ignore_apply, hfragments]
  rfl

lemma extension_apply_of_set {patch : Patch} (h : patch.extension ≠ none) (s s' : Settings) :
    (s.apply patch).extension = (s'.apply patch).extension := by
  obtain ⟨text, htext⟩ := Option.ne_none_iff_exists'.mp h
  rw [extension_apply, extension_apply, htext]
  rfl

lemma apply_again (s : Settings) (patch : Patch) :
    (s.apply patch).apply patch = s.apply patch := by
  apply settings_ext
  · cases hextension : patch.extension with
    | none => rw [extension_apply, hextension]; rfl
    | some text => exact extension_apply_of_set (by simp [hextension]) _ _
  · cases hignore : patch.ignore with
    | none =>
      have hadded : ∀ s : Settings, (s.apply patch).ignore =
          patch.extraIgnore.foldl addFragment s.ignore := by
        intro s
        rw [ignore_apply, hignore]
        rfl
      rw [hadded, hadded]
      exact foldl_addFragment_again s.ignore patch.extraIgnore
    | some fragments => exact ignore_apply_of_replaced (by simp [hignore]) _ _

/-! ### Keys of a document -/

/-- The document has a key. -/
def HasKey (entries : Toml.Entries) (name : String) : Prop :=
  name ∈ entries.map Prod.fst

lemma settingsEntry_of_key (hdocument : SettingsDocument entries) {name : String}
    (hkey : HasKey entries name) :
    ∃ value, entries.lookup name = some value ∧ SettingsEntry (name, value) := by
  cases hlookup : entries.lookup name with
  | none => exact absurd hkey (lookup_eq_none_iff_not_mem.mp hlookup)
  | some value => exact ⟨value, rfl, hdocument _ (mem_of_lookup hlookup)⟩

lemma texts_of_ignore {value : Toml.Value} (h : SettingsEntry ("ignore", value)) :
    ∃ texts, asTexts value = some texts := by
  generalize heq : ("ignore", value) = e at h
  cases h with
  | extension _ => simp at heq
  | extraIgnore _ => simp at heq
  | ignore htexts =>
    obtain ⟨_, rfl⟩ := Prod.mk.inj heq
    exact ⟨_, htexts⟩

lemma text_of_extension {value : Toml.Value} (h : SettingsEntry ("extension", value)) :
    ∃ text, asText value = some text := by
  generalize heq : ("extension", value) = e at h
  cases h with
  | ignore _ => simp at heq
  | extraIgnore _ => simp at heq
  | extension htext =>
    obtain ⟨_, rfl⟩ := Prod.mk.inj heq
    exact ⟨_, htext⟩

lemma ignore_of_key (hdocument : SettingsDocument entries) (hkey : HasKey entries "ignore") :
    (patchOf entries).ignore ≠ none := by
  obtain ⟨value, hlookup, hentry⟩ := settingsEntry_of_key hdocument hkey
  obtain ⟨texts, htexts⟩ := texts_of_ignore hentry
  simp [patchOf, hlookup, htexts]

lemma extension_of_key (hdocument : SettingsDocument entries) (hkey : HasKey entries "extension") :
    (patchOf entries).extension ≠ none := by
  obtain ⟨value, hlookup, hentry⟩ := settingsEntry_of_key hdocument hkey
  obtain ⟨text, htext⟩ := text_of_extension hentry
  simp [patchOf, hlookup, htext]

lemma ignore_of_no_key (hkey : ¬ HasKey entries "ignore") : (patchOf entries).ignore = none := by
  rw [patchOf, lookup_eq_none_iff_not_mem.mpr hkey]
  rfl

/-! ### Merges -/

/-- What merges of a text come to, whatever the settings are: none of them fails, a second one
changes nothing, fragments or settings that the text replaces are gone, and those that it does not
replace stay in front of what it adds. -/
structure MergesLast (text : List Char) (entries : Toml.Entries) : Prop where
  accepted : ∀ s, succeeded ((Step.merge text).result s)
  again : ∀ s, Step.after s [.merge text, .merge text] = Step.after s [.merge text]
  fragments_replaced : HasKey entries "ignore" → ∀ s s',
    (Step.after s [.merge text]).ignore = (Step.after s' [.merge text]).ignore
  all_replaced : HasKey entries "ignore" → HasKey entries "extension" → ∀ s earlier,
    Step.after s [.merge earlier, .merge text] = Step.after s [.merge text]
  appended : ¬ HasKey entries "ignore" → ∀ s, (Step.after s [.merge text]).ignore =
    s.ignore ++ distinctFragments ((patchOf entries).extraIgnore.filter fun f => f ∉ s.ignore)

/-- A merge carries out what the document says, and then come the other steps. -/
lemma after_merge {text : List Char} (hparse : Toml.parse text = .ok entries)
    (hdocument : SettingsDocument entries) (s : Settings) (steps : List Step) :
    Step.after s (.merge text :: steps) = Step.after (s.apply (patchOf entries)) steps := by
  have hmade : madeBy s (.merge text) = .ok (s.apply (patchOf entries)) := by
    rw [madeBy, merge_of_document hparse hdocument]
    rfl
  rw [Step.after, List.foldl_cons, result_of_made hmade]
  rfl

/-- Whatever settings a document is merged into, and whatever was merged before it, the document has
the last word on all that it sets, and has it once. -/
theorem last_merge_wins (text : List Char) (entries : Toml.Entries)
    (hparse : Toml.parse text = .ok entries) (hdocument : SettingsDocument entries) :
    MergesLast text entries := by
  have hmerge := after_merge hparse hdocument
  refine ⟨fun s => (succeeded_merge_iff s text).mpr ⟨entries, hparse, hdocument⟩, ?_, ?_, ?_, ?_⟩
  · intro s
    rw [hmerge, hmerge, hmerge]
    exact apply_again s (patchOf entries)
  · intro hkey s s'
    rw [hmerge, hmerge]
    exact ignore_apply_of_replaced (ignore_of_key hdocument hkey) s s'
  · intro hignore hextension s earlier
    have hrest : Step.after s [.merge earlier, .merge text] =
        Step.after ((Step.merge earlier).result s).settings [.merge text] := rfl
    rw [hrest, hmerge, hmerge]
    exact settings_ext
      (extension_apply_of_set (extension_of_key hdocument hextension) _ s)
      (ignore_apply_of_replaced (ignore_of_key hdocument hignore) _ s)
  · intro hkey s
    rw [hmerge, Step.after, List.foldl_nil, ignore_apply, ignore_of_no_key hkey]
    exact foldl_addFragment s.ignore (patchOf entries).extraIgnore

/-- A document that replaces all, with a fragment that comes twice and an empty one. -/
def replacingText : String :=
  "extra_ignore = [\"c\", \"b\"]\nignore = [\"b\", \"\", \"b\"]\nextension = \".pyi\"\n"

/-- A document that only adds, with fragments that are there already. -/
def addingText : String :=
  "extra_ignore = [\"venv\", \"c\", \"\", \"c\"]\n"

theorem last_merge_wins_replacing_adding :
    (∃ entries, Toml.parse replacingText.toList = .ok entries ∧ SettingsDocument entries ∧
      MergesLast replacingText.toList entries ∧
      patchOf entries = ⟨some ".pyi", some ["b", "", "b"], ["c", "b"]⟩) ∧
    ∃ entries, Toml.parse addingText.toList = .ok entries ∧ SettingsDocument entries ∧
      MergesLast addingText.toList entries ∧
      patchOf entries = ⟨none, none, ["venv", "c", "", "c"]⟩ := by
  have hreplacing : Patch.ofText replacingText.toList =
      .ok ⟨some ".pyi", some ["b", "", "b"], ["c", "b"]⟩ := by decide +kernel
  have hadding : Patch.ofText addingText.toList =
      .ok ⟨none, none, ["venv", "c", "", "c"]⟩ := by decide +kernel
  obtain ⟨entries, hparse, hdocument, heq⟩ := (ofText_eq_ok_iff _ _).mp hreplacing
  obtain ⟨entries', hparse', hdocument', heq'⟩ := (ofText_eq_ok_iff _ _).mp hadding
  exact ⟨⟨entries, hparse, hdocument, last_merge_wins _ _ hparse hdocument, heq.symm⟩,
    entries', hparse', hdocument', last_merge_wins _ _ hparse' hdocument', heq'.symm⟩

end SyntaxCheck.Proofs
