import Mathlib.Tactic
import SyntaxCheck.Proofs.IllFormedBytes
import SyntaxCheck.Proofs.OpenedFiles

/-!
# Byte order marks

A byte order mark in front of a text is left out before the text is looked at, so places are counted
without it, and the check of a file comes to what the check of the text comes to. Only bytes that no
string has make a file unreadable.
-/

namespace SyntaxCheck.Proofs

open Utf8

variable {fs : FileSystem} {path : String}

def markBytes : List UInt8 := [0xEF, 0xBB, 0xBF]

lemma encode_mark (text : List Char) : encode ('\ufeff' :: text) = markBytes ++ encode text := by
  have hmark : encodeChar '\ufeff' = markBytes := by decide
  rw [encode_cons, hmark]

lemma dropByteOrderMark_mark (text : List Char) : dropByteOrderMark ('\ufeff' :: text) = text := by
  rw [dropByteOrderMark, if_pos rfl]

lemma dropByteOrderMark_of_head {text : List Char} (h : text.head? ≠ some '\ufeff') :
    dropByteOrderMark text = text := by
  cases text with
  | nil => rfl
  | cons c rest => exact if_neg fun hc => h (congrArg some hc)

/-! ### Files with the bytes of a text, and others -/

section

variable [CharacterNames]

lemma checkFile_of_encode {text : List Char} (h : NamesFile fs path (encode text)) :
    checkFile fs path = (checkSource (dropByteOrderMark text)).mapError .rejected := by
  rw [checkFile, FileSystem.readText, readBytes_eq_ok_iff.mpr h]
  dsimp only
  rw [decode_encode]
  dsimp only
  cases checkSource (dropByteOrderMark text) with
  | ok u => rfl
  | error r => rfl

lemma checkFile_of_illFormed {bytes : List UInt8} (h : NamesFile fs path bytes)
    (hill : IllFormed bytes) : checkFile fs path = .error (.unreadable .notText) := by
  rw [checkFile, FileSystem.readText, readBytes_eq_ok_iff.mpr h]
  dsimp only
  rw [(decode_eq_none_iff bytes).mpr hill]

/-- With or without a byte order mark in front of its text, a file gets the verdict on the text. -/
structure MarkLeftOut (text : List Char) : Prop where
  plain : ∀ fs path, NamesFile fs path (encode text) →
    checkFile fs path = (checkSource text).mapError .rejected
  marked : ∀ fs path, NamesFile fs path (markBytes ++ encode text) →
    checkFile fs path = (checkSource text).mapError .rejected

/-- A file is unreadable exactly if its bytes are not valid, and otherwise a fault in it has a
line. -/
structure ReadAsText (fs : FileSystem) (path : String) (bytes : List UInt8) : Prop where
  unreadable_iff : ∀ error, checkFile fs path = .error (.unreadable error) ↔
    ¬ bytes.toByteArray.IsValidUTF8 ∧ error = .notText
  no_line_iff : ∀ fault, checkFile fs path = .error fault →
    (fault.line? = none ↔ ¬ bytes.toByteArray.IsValidUTF8)
  line_told : ∀ r, checkFile fs path = .error (.rejected r) →
    ∃ line, (FileFault.rejected r).line? = some line ∧ 1 ≤ line

lemma markLeftOut {text : List Char} (h : text.head? ≠ some '\ufeff') : MarkLeftOut text where
  plain fs path hfile := by
    rw [checkFile_of_encode hfile, dropByteOrderMark_of_head h]
  marked fs path hfile := by
    rw [← encode_mark] at hfile
    rw [checkFile_of_encode hfile, dropByteOrderMark_mark]

lemma rejected_of_encode {text : List Char} (h : NamesFile fs path (encode text))
    {fault : FileFault} (hfault : checkFile fs path = .error fault) :
    ∃ r, fault = .rejected r ∧ Positioned r := by
  rw [checkFile_of_encode h] at hfault
  cases hcheck : checkSource (dropByteOrderMark text) with
  | ok u =>
    rw [hcheck] at hfault
    cases hfault
  | error r =>
    rw [hcheck] at hfault
    exact ⟨r, (Except.error.inj hfault).symm, positioned_of_checkSource hcheck⟩

lemma readAsText_of_encode {text : List Char} (h : NamesFile fs path (encode text)) :
    ReadAsText fs path (encode text) := by
  have hvalid : (encode text).toByteArray.IsValidUTF8 := (isValidUTF8_iff _).mpr ⟨text, rfl⟩
  refine ⟨fun error => ⟨fun hfault => ?_, fun hnot => absurd hvalid hnot.1⟩, ?_, ?_⟩
  · obtain ⟨r, hr, -⟩ := rejected_of_encode h hfault
    cases hr
  · intro fault hfault
    obtain ⟨r, rfl, -⟩ := rejected_of_encode h hfault
    exact ⟨fun hline => (Option.some_ne_none _ hline).elim, fun hnot => absurd hvalid hnot⟩
  · intro r hfault
    obtain ⟨r', hr, hline, -⟩ := rejected_of_encode h hfault
    cases hr
    exact ⟨r.line, rfl, hline⟩

lemma readAsText_of_illFormed {bytes : List UInt8} (h : NamesFile fs path bytes)
    (hill : IllFormed bytes) : ReadAsText fs path bytes := by
  have hcheck := checkFile_of_illFormed h hill
  have hinvalid := (illFormed_iff bytes).mp hill
  refine ⟨fun error => ?_, ?_, ?_⟩
  · rw [hcheck]
    constructor
    · intro hfault
      cases hfault
      exact ⟨hinvalid, rfl⟩
    · rintro ⟨-, rfl⟩
      rfl
  · intro fault hfault
    rw [hcheck] at hfault
    cases hfault
    exact ⟨fun _ => hinvalid, fun _ => rfl⟩
  · intro r hfault
    rw [hcheck] at hfault
    cases hfault

theorem byteOrderMark_changes_nothing :
    (∀ text : List Char, text.head? ≠ some '\ufeff' → MarkLeftOut text) ∧
    (∀ bytes : List UInt8, ¬ bytes.toByteArray.IsValidUTF8 ↔ IllFormed bytes) ∧
    ∀ fs path bytes, NamesFile fs path bytes → ReadAsText fs path bytes := by
  refine ⟨fun text => markLeftOut, fun bytes => (illFormed_iff bytes).symm, ?_⟩
  intro fs path bytes h
  rcases encoded_or_illFormed bytes with ⟨text, rfl⟩ | hill
  · exact readAsText_of_encode h
  · exact readAsText_of_illFormed h hill

end

/-- A line that assigns to a number, plain and with a byte order mark in front, and a slash written
in two bytes. -/
def markedFiles : FileSystem where
  root := .directory
    [("plain.py", .file (encode ['1', '=', 'x'])),
      ("marked.py", .file (markBytes ++ encode ['1', '=', 'x'])), ("slash.py", .file [0xC0, 0xAF])]
  current := []

theorem byteOrderMark_changes_nothing_markedFiles :
    ['1', '=', 'x'].head? ≠ some '\ufeff' ∧
    NamesFile markedFiles "plain.py" (encode ['1', '=', 'x']) ∧
    NamesFile markedFiles "marked.py" (markBytes ++ encode ['1', '=', 'x']) ∧
    NamesFile markedFiles "slash.py" [0xC0, 0xAF] ∧
    checkFile markedFiles "plain.py" =
      .error (.rejected ⟨.target (.impossible .store "literal"), 0, ⟨1, 1⟩⟩) ∧
    checkFile markedFiles "marked.py" = checkFile markedFiles "plain.py" ∧
    checkFile markedFiles "slash.py" = .error (.unreadable .notText) := by
  have hhead : ['1', '=', 'x'].head? ≠ some '\ufeff' := by decide
  have hplain : NamesFile markedFiles "plain.py" (encode ['1', '=', 'x']) :=
    ⟨by decide, by decide, ["plain.py"], by rfl, by rfl⟩
  have hmarked : NamesFile markedFiles "marked.py" (markBytes ++ encode ['1', '=', 'x']) :=
    ⟨by decide, by decide, ["marked.py"], by rfl, by rfl⟩
  have hslash : NamesFile markedFiles "slash.py" [0xC0, 0xAF] :=
    ⟨by decide, by decide, ["slash.py"], by rfl, by rfl⟩
  have hcheck : checkSource ['1', '=', 'x'] =
      .error ⟨.target (.impossible .store "literal"), 0, ⟨1, 1⟩⟩ := by
    decide +kernel
  have hwrites : Writes .two [0xC0, 0xAF] 0x2F :=
    .intro ⟨by decide, by decide⟩ rfl (List.forall_mem_singleton.mpr ⟨by decide, by decide⟩) rfl
  have hill : IllFormed [0xC0, 0xAF] := ⟨[], _, rfl, .overlong [] hwrites (by decide)⟩
  obtain ⟨hleft, hinvalid, hread⟩ := byteOrderMark_changes_nothing
  have hfirst := (hleft _ hhead).plain _ _ hplain
  have hsecond := (hleft _ hhead).marked _ _ hmarked
  refine ⟨hhead, hplain, hmarked, hslash, ?_, ?_, ?_⟩
  · rw [hfirst, hcheck]
    rfl
  · rw [hfirst, hsecond]
  · exact ((hread _ _ _ hslash).unreadable_iff _).mpr ⟨(hinvalid _).mpr hill, rfl⟩

end SyntaxCheck.Proofs
