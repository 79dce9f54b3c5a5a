import Mathlib.Tactic
import SyntaxCheck.Proofs.DocumentKeys
import SyntaxCheck.Settings.File

/-!
# Documents that settings are read from

A document says something about settings if every key in it is one of the three that settings know,
with a value of the type that the key needs. What it says is then what stands under the three keys,
in whatever order they came. Of any other document nothing is taken in, and a merge of it fails.
-/

namespace SyntaxCheck.Proofs

open Toml

/-- The text that a value is. -/
def asText : Value → Option String
  | .text value => some (String.ofList value)
  | _ => none

/-- The texts that a value is a list of. -/
def asTexts : Value → Option (List String)
  | .array _ elements => elements.mapM asText
  | _ => none

/-- A key that settings know, with a value of the type that it needs. -/
inductive SettingsEntry : String × Value → Prop
  | extension {value : Value} {text : String} (h : asText value = some text) :
    SettingsEntry ("extension", value)
  | ignore {value : Value} {texts : List String} (h : asTexts value = some texts) :
    SettingsEntry ("ignore", value)
  | extraIgnore {value : Value} {texts : List String} (h : asTexts value = some texts) :
    SettingsEntry ("extra_ignore", value)

/-- All keys of the document are keys that settings know, with values of the types they need. -/
def SettingsDocument (entries : Entries) : Prop :=
  ∀ e ∈ entries, SettingsEntry e

/-- What stands under the keys that settings know. -/
def patchOf (entries : Entries) : Patch where
  extension := (entries.lookup "extension").bind asText
  ignore := (entries.lookup "ignore").bind asTexts
  extraIgnore := ((entries.lookup "extra_ignore").bind asTexts).getD []

variable {entries : Entries} {patch patch' : Patch}

/-! ### Values -/

lemma refuse_ne_ok {α : Type} (value : Value) (expected : ValueKind) (a : α) :
    Patch.refuse value expected ≠ .ok a := by
  intro h
  obtain ⟨found, _, hthrow⟩ := exists_of_bind h
  cases hthrow

lemma text_eq_ok_iff (value : Value) (text : String) :
    Patch.text value = .ok text ↔ asText value = some text := by
  cases value with
  | text value => simp [Patch.text, asText]
  | _ => simp [Patch.text, asText, refuse_ne_ok]

lemma texts_eq_ok_iff (values : List Value) (texts : List String) :
    Patch.texts values = .ok texts ↔ values.mapM asText = some texts := by
  induction values generalizing texts with
  | nil => simp [Patch.texts]
  | cons value rest ih =>
    rw [List.mapM_cons, Patch.texts]
    constructor
    · intro h
      obtain ⟨first, hfirst, h⟩ := exists_of_bind h
      obtain ⟨others, hothers, h⟩ := exists_of_bind h
      obtain rfl := Except.ok.inj h
      rw [(text_eq_ok_iff value first).mp hfirst, (ih others).mp hothers]
      rfl
    · intro h
      obtain ⟨first, hfirst, h⟩ := Option.bind_eq_some_iff.mp h
      obtain ⟨others, hothers, h⟩ := Option.bind_eq_some_iff.mp h
      obtain rfl := Option.some.inj h
      rw [(text_eq_ok_iff value first).mpr hfirst, (ih others).mpr hothers]
      rfl

lemma sequence_eq_ok_iff (value : Value) (texts : List String) :
    Patch.sequence value = .ok texts ↔ asTexts value = some texts := by
  cases value with
  | array ofTables elements => exact texts_eq_ok_iff elements texts
  | _ => simp [Patch.sequence, asTexts, refuse_ne_ok]

/-! ### Keys -/

lemma settingsEntry_of_addKey {name : String} {value : Value}
    (h : patch.addKey name value = .ok patch') : SettingsEntry (name, value) := by
  unfold Patch.addKey at h
  split_ifs at h with hextension hignore hextra
  · obtain ⟨text, htext, _⟩ := exists_of_bind h
    exact hextension ▸ .extension ((text_eq_ok_iff value text).mp htext)
  · obtain ⟨texts, htexts, _⟩ := exists_of_bind h
    exact hignore ▸ .ignore ((sequence_eq_ok_iff value texts).mp htexts)
  · obtain ⟨texts, htexts, _⟩ := exists_of_bind h
    exact hextra ▸ .extraIgnore ((sequence_eq_ok_iff value texts).mp htexts)

lemma settingsDocument_of_addKeys (h : patch.addKeys entries = .ok patch') :
    SettingsDocument entries := by
  induction entries generalizing patch with
  | nil => exact List.forall_mem_nil _
  | cons e rest ih =>
    obtain ⟨name, value⟩ := e
    rw [Patch.addKeys] at h
    obtain ⟨next, hnext, hrest⟩ := exists_of_bind h
    exact List.forall_mem_cons.mpr ⟨settingsEntry_of_addKey hnext, ih hrest⟩

/-- What stands under the keys, over what was said before. -/
def overlaid (patch : Patch) (entries : Entries) : Patch where
  extension := (patchOf entries).extension.or patch.extension
  ignore := (patchOf entries).ignore.or patch.ignore
  extraIgnore := ((entries.lookup "extra_ignore").bind asTexts).getD patch.extraIgnore

lemma addKey_of_settingsEntry {name : String} {value : Value} (h : SettingsEntry (name, value)) :
    patch.addKey name value = .ok (overlaid patch [(name, value)]) := by
  cases h with
  | extension htext =>
    have hok := (text_eq_ok_iff value _).mpr htext
    simp [Patch.addKey, hok, bind, Except.bind, pure, Except.pure, overlaid, patchOf,
      List.lookup_cons, htext]
  | ignore htexts =>
    have hok := (sequence_eq_ok_iff value _).mpr htexts
    simp [Patch.addKey, hok, bind, Except.bind, pure, Except.pure, overlaid, patchOf,
      List.lookup_cons, htexts]
  | extraIgnore htexts =>
    have hok := (sequence_eq_ok_iff value _).mpr htexts
    simp [Patch.addKey, hok, bind, Except.bind, pure, Except.pure, overlaid, patchOf,
      List.lookup_cons, htexts]

/-- A key that comes once may be taken in before all others. -/
lemma overlaid_overlaid {e : String × Value} (hentry : SettingsEntry e)
    (hfree : entries.lookup e.1 = none) (patch : Patch) :
    overlaid (overlaid patch [e]) entries = overlaid patch (e :: entries) := by
  cases hentry with
  | extension htext => simp [overlaid, patchOf, List.lookup_cons, hfree, htext]
  | ignore htexts => simp [overlaid, patchOf, List.lookup_cons, hfree, htexts]
  | extraIgnore htexts => simp [overlaid, patchOf, List.lookup_cons, hfree, htexts]

lemma addKeys_of_settingsDocument (hkeys : KeysDiffer entries) (h : SettingsDocument entries) :
    patch.addKeys entries = .ok (overlaid patch entries) := by
  induction entries generalizing patch with
  | nil => rfl
  | cons e rest ih =>
    obtain ⟨hentry, hrest⟩ := List.forall_mem_cons.mp h
    obtain ⟨hnew, hdiffer⟩ := List.nodup_cons.mp hkeys
    have hfree : rest.lookup e.1 = none := lookup_eq_none_iff_not_mem.mpr hnew
    rw [Patch.addKeys, addKey_of_settingsEntry hentry]
    refine (ih hdiffer hrest).trans ?_
    rw [overlaid_overlaid hentry hfree]

/-! ### Documents -/

lemma settingsDocument_sortByName :
    SettingsDocument (sortByName entries) ↔ SettingsDocument entries := by
  unfold SettingsDocument
  simp only [mem_sortByName]

lemma patchOf_sortByName (hkeys : KeysDiffer entries) :
    patchOf (sortByName entries) = patchOf entries := by
  unfold patchOf
  simp only [lookup_sortByName hkeys]

lemma overlaid_nothing (entries : Entries) :
    overlaid ⟨none, none, []⟩ entries = patchOf entries := by
  simp [overlaid, patchOf]

/-- A document is taken in as a whole if it is one for settings, and else not at all. -/
theorem ofEntries_eq_ok_iff (hkeys : KeysDiffer entries) (patch : Patch) :
    Patch.ofEntries entries = .ok patch ↔ SettingsDocument entries ∧ patch = patchOf entries := by
  unfold Patch.ofEntries
  have hsorted : KeysDiffer (sortByName entries) := nodup_names_sortByName hkeys
  constructor
  · intro h
    have hdocument := settingsDocument_of_addKeys h
    rw [addKeys_of_settingsDocument hsorted hdocument, overlaid_nothing,
      patchOf_sortByName hkeys] at h
    exact ⟨settingsDocument_sortByName.mp hdocument, (Except.ok.inj h).symm⟩
  · rintro ⟨hdocument, rfl⟩
    rw [addKeys_of_settingsDocument hsorted (settingsDocument_sortByName.mpr hdocument),
      overlaid_nothing, patchOf_sortByName hkeys]

/-- A text says something about settings exactly if it is a document for settings. -/
theorem ofText_eq_ok_iff (text : List Char) (patch : Patch) :
    Patch.ofText text = .ok patch ↔ ∃ entries, Toml.parse text = .ok entries ∧
      SettingsDocument entries ∧ patch = patchOf entries := by
  unfold Patch.ofText
  cases hparse : Toml.parse text with
  | error fault => simp
  | ok entries =>
    dsimp only
    rw [ofEntries_eq_ok_iff (keysDiffer_parse hparse)]
    simp

/-! ### Merges -/

/-- A text that is a document for settings. -/
def SettingsText (text : List Char) : Prop :=
  ∃ entries, Toml.parse text = .ok entries ∧ SettingsDocument entries

lemma merge_of_document {text : List Char} (hparse : Toml.parse text = .ok entries)
    (hdocument : SettingsDocument entries) (s : Settings) :
    s.merge text = .ok (s.apply (patchOf entries)) := by
  have hpatch : Patch.ofText text = .ok (patchOf entries) :=
    (ofText_eq_ok_iff text _).mpr ⟨entries, hparse, hdocument, rfl⟩
  rw [Settings.merge, hpatch]
  rfl

lemma exists_merge_iff (s : Settings) (text : List Char) :
    (∃ s', s.merge text = .ok s') ↔ SettingsText text := by
  constructor
  · rintro ⟨s', h⟩
    obtain ⟨patch, hpatch, _⟩ := exists_of_map h
    obtain ⟨entries, hparse, hdocument, _⟩ := (ofText_eq_ok_iff text patch).mp hpatch
    exact ⟨entries, hparse, hdocument⟩
  · rintro ⟨entries, hparse, hdocument⟩
    exact ⟨_, merge_of_document hparse hdocument s⟩

lemma mergeFile_of_unreadable {fs : FileSystem} {file : String} {e : ReadError}
    (hread : fs.readText file = .error e) (s : Settings) :
    s.mergeFile fs file = .error ⟨file, .unreadable e⟩ := by
  unfold Settings.mergeFile
  rw [hread]

lemma mergeFile_of_text {fs : FileSystem} {file : String} {text : List Char}
    (hread : fs.readText file = .ok text) (s : Settings) :
    s.mergeFile fs file = (s.merge text).mapError fun fault => ⟨file, .faulty fault⟩ := by
  unfold Settings.mergeFile
  rw [hread]
  dsimp only
  cases s.merge text <;> rfl

end SyntaxCheck.Proofs
