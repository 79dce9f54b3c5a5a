import Mathlib.Tactic
import SyntaxCheck.Proofs.LineEnds
import SyntaxCheck.Proofs.MovedLexemes

/-!
# Texts with other line ends

A text can be written with line feeds, with carriage returns or with both at the end of every line.
The lexer reads letters of the same characters from all three. Carriage returns in place of the line
feeds leave the letters where they are, but no location counts the lines that they end. Carriage
returns before the line feeds move the letters, and leave all locations as they are.
-/

namespace SyntaxCheck.Proofs

open Location Utf8

variable {text : List Char}

/-- The ways to end a line. -/
inductive LineEnd
  | lineFeed
  | carriageReturn
  | both

/-- What a line ends with. -/
def LineEnd.chars : LineEnd → List Char
  | .lineFeed => ['\n']
  | .carriageReturn => ['\r']
  | .both => ['\r', '\n']

/-- A text with every line feed turned into the line end of another style. -/
def written (style : LineEnd) (text : List Char) : List Char :=
  text.flatMap fun c => if c = '\n' then style.chars else [c]

section Written

variable {style : LineEnd}

lemma written_lineFeed (rest : List Char) :
    written style ('\n' :: rest) = style.chars ++ written style rest := rfl

lemma written_cons {c : Char} (hc : c ≠ '\n') (rest : List Char) :
    written style (c :: rest) = c :: written style rest := by
  rw [written, List.flatMap_cons, if_neg hc]
  rfl

lemma written_append (before after : List Char) :
    written style (before ++ after) = written style before ++ written style after :=
  List.flatMap_append

end Written

/-! ### Carriage returns -/

lemma lineFeed_not_mem_written (text : List Char) : '\n' ∉ written .carriageReturn text := by
  induction text with
  | nil => simp [written]
  | cons c text ih =>
    by_cases hc : c = '\n'
    · rw [hc, written_lineFeed]
      simpa [LineEnd.chars] using ih
    · rw [written_cons hc, List.mem_cons, not_or]
      exact ⟨Ne.symm hc, ih⟩

lemma ofText_written_carriageReturn (h : '\r' ∉ text) (o : Nat) :
    Letter.ofText o (written .carriageReturn text) = Letter.ofText o text := by
  induction text generalizing o with
  | nil => rfl
  | cons c text ih =>
    rw [List.mem_cons, not_or] at h
    rw [ofText_cons (Ne.symm h.1)]
    by_cases hc : c = '\n'
    · have hfeed : (written .carriageReturn text).head? ≠ some '\n' := fun hhead =>
        lineFeed_not_mem_written text (List.mem_of_head? hhead)
      rw [hc, written_lineFeed, LineEnd.chars, List.singleton_append, ofText_return hfeed, ih h.2]
      rfl
    · rw [written_cons hc, ofText_cons (Ne.symm h.1), ih h.2]

lemma width_written_carriageReturn (text : List Char) :
    width (written .carriageReturn text) = width text := by
  induction text with
  | nil => rfl
  | cons c text ih =>
    by_cases hc : c = '\n'
    · rw [hc, written_lineFeed, width_append, ih, width]
      rfl
    · rw [written_cons hc, width, ih, width]

lemma parseModule_written_carriageReturn [CharacterNames] (h : '\r' ∉ text) :
    parseModule (written .carriageReturn text) = parseModule text := by
  have hlex : lex 0 (written .carriageReturn text) = lex 0 text := by
    rw [lex, ofText_written_carriageReturn h, width_written_carriageReturn, lex]
  rw [parseModule, hlex, ofText_written_carriageReturn h, parseModule]

/-! ### Places -/

lemma line_locate_of_no_lineFeed (h : '\n' ∉ text) (o : Nat) : (locate text o).line = 1 := by
  have hnone : (0x0A : UInt8) ∉ encode text := by
    rw [← List.count_eq_zero, count_encode, List.count_eq_zero]
    exact h
  have hcount : (bytesTo text o).count 0x0A = 0 :=
    List.count_eq_zero_of_not_mem fun hmem => hnone (List.mem_of_mem_take hmem)
  rw [(countedInBytes text o).line_eq, hcount]

lemma count_written_both (text : List Char) :
    (written .both text).count '\n' = text.count '\n' := by
  induction text with
  | nil => rfl
  | cons c text ih =>
    by_cases hc : c = '\n'
    · rw [hc, written_lineFeed, List.count_append, ih, List.count_cons_self, Nat.add_comm]
      rfl
    · rw [written_cons hc, List.count_cons_of_ne hc, ih, List.count_cons_of_ne hc]

lemma currentLine_written_both (text : List Char) :
    currentLine (written .both text) = currentLine text := by
  induction text using List.reverseRecOn with
  | nil => rfl
  | append_singleton text c ih =>
    rw [written_append]
    by_cases hc : c = '\n'
    · have hend : written .both [c] = ['\r'] ++ ['\n'] := by
        rw [hc]
        rfl
      rw [hend, ← List.append_assoc, currentLine_lineFeed, hc, currentLine_lineFeed]
    · have hsame : written .both [c] = [c] := written_cons hc []
      rw [hsame, currentLine_concat hc, currentLine_concat hc, ih]

lemma locate_written_both (before after : List Char) :
    locate (written .both (before ++ after)) (width (written .both before)) =
      locate (before ++ after) (width before) := by
  rw [written_append, locate_boundary, locate_boundary, count_written_both,
    currentLine_written_both]

/-! ### Carriage returns before line feeds -/

/-- Where an offset of a text is once every line feed has a carriage return before it. -/
def widened (text : List Char) (o : Nat) : Nat :=
  o + (bytesTo text o).count 0x0A

lemma widened_zero (text : List Char) : widened text 0 = 0 := by
  rw [widened, bytesTo, List.take_zero]
  rfl

lemma widened_strictMono (text : List Char) : StrictMono (widened text) := by
  intro a b hlt
  have hprefix : bytesTo text a <+: bytesTo text b := List.take_prefix_take_left hlt.le
  have hcount := hprefix.sublist.count_le 0x0A
  rw [widened, widened]
  omega

lemma width_written_both (text : List Char) :
    width (written .both text) = width text + text.count '\n' := by
  induction text with
  | nil => rfl
  | cons c text ih =>
    by_cases hc : c = '\n'
    · have hend : width (LineEnd.chars .both) = 2 := rfl
      have hfeed : width ('\n' :: text) = 1 + width text := rfl
      rw [hc, written_lineFeed, width_append, ih, hend, hfeed, List.count_cons_self]
      omega
    · rw [written_cons hc, width, ih, width, List.count_cons_of_ne hc, Nat.add_assoc]

lemma widened_boundary (before after : List Char) :
    widened (before ++ after) (width before) = width (written .both before) := by
  rw [widened, bytesTo_boundary, count_encode, width_written_both]

/-- Inside a character that is no line feed no line ends. -/
lemma widened_inside (before after : List Char) {c : Char} (hc : c ≠ '\n') {i : Nat}
    (hi : i ≤ c.utf8Size) :
    widened (before ++ c :: after) (width before + i) = width (written .both before) + i := by
  rcases Nat.lt_or_eq_of_le hi with hlt | rfl
  · have hpart : (0x0A : UInt8) ∉ (encodeChar c).take i := fun hmem =>
      lineFeed_not_mem_encodeChar hc (List.mem_of_mem_take hmem)
    rw [widened, bytesTo_inside before after hlt, List.count_append, count_encode,
      List.count_eq_zero_of_not_mem hpart, width_written_both]
    omega
  · have hone : written .both [c] = [c] := written_cons hc []
    have hend : width before + c.utf8Size = width (before ++ [c]) := (width_append before [c]).symm
    rw [hend, ← List.singleton_append, ← List.append_assoc, widened_boundary, written_append, hone,
      width_append]
    rfl

lemma steadyOn_widened (before after : List Char) {c : Char} (hc : c ≠ '\n') :
    SteadyOn (widened (before ++ c :: after)) (width before) (width before + c.utf8Size) := by
  intro o k ho hk
  obtain ⟨i, rfl⟩ := Nat.exists_eq_add_of_le ho
  rw [Nat.add_assoc, widened_inside before after hc (by omega),
    widened_inside before after hc (by omega), Nat.add_assoc]

/-- Places are the same wherever they are in a text. -/
lemma locate_widened (text : List Char) (o : Nat) :
    locate (written .both text) (widened text o) = locate text o := by
  rcases Nat.le_total o (width text) with hle | hge
  · cases falls_of_le hle with
    | boundary before after h =>
      rw [h, widened_boundary, locate_written_both]
    | inside before after c i h hpos hi =>
      have hc := ne_lineFeed_of_inside hpos hi
      rw [h, widened_inside before after hc hi.le, written_append, written_cons hc,
        locate_inside _ _ hpos hi, locate_inside _ _ hpos hi, count_written_both,
        currentLine_written_both]
  · have hend := locate_written_both text []
    have hpast : width (written .both text) ≤ widened text o := by
      have hmono := (widened_strictMono text).monotone hge
      have hboundary := widened_boundary text []
      rw [List.append_nil] at hboundary
      rwa [hboundary] at hmono
    rw [List.append_nil] at hend
    rw [locate_past hge, locate_past hpast, hend]

/-- The letters of a text with both characters at its line ends, from a place on. -/
lemma ofText_written_both (before after : List Char) (h : '\r' ∉ after) :
    Letter.ofText (width (written .both before)) (written .both after) =
      (Letter.ofText (width before) after).map (movedLetter (widened (before ++ after))) := by
  induction after generalizing before with
  | nil => rfl
  | cons c after ih =>
    rw [List.mem_cons, not_or] at h
    have hreturn := Ne.symm h.1
    have hrest := ih (before ++ [c]) h.2
    have hstart := widened_boundary before (c :: after)
    have hstop := widened_boundary (before ++ [c]) after
    have hwidth : width (before ++ [c]) = width before + c.utf8Size := width_append before [c]
    have hmoved : width (written .both (before ++ [c])) =
        width (written .both before) + width (written .both [c]) := by
      rw [written_append, width_append]
    rw [List.append_assoc, List.singleton_append] at hrest hstop
    rw [ofText_cons hreturn, List.map_cons, ← hwidth, ← hrest, movedLetter, hstart, hstop, hmoved]
    by_cases hc : c = '\n'
    · rw [hc, written_lineFeed]
      exact ofText_return_lineFeed _ _
    · have hone : written .both [c] = [c] := written_cons hc []
      rw [written_cons hc, hone]
      exact ofText_cons hreturn _ _

lemma joined_ofText (before after : List Char) (h : '\r' ∉ after) :
    Joined (widened (before ++ after)) False (width (before ++ after))
      (Letter.ofText (width before) after) := by
  induction after generalizing before with
  | nil => exact .nil
  | cons c after ih =>
    rw [List.mem_cons, not_or] at h
    have hrest := ih (before ++ [c]) h.2
    have hwidth : width (before ++ [c]) = width before + c.utf8Size := width_append before [c]
    rw [List.append_assoc, List.singleton_append, hwidth] at hrest
    rw [ofText_cons (Ne.symm h.1)]
    refine .cons le_rfl (fun _ => rfl) (fun hends => ?_) (offset_ofText ?_) hrest
    · exact steadyOn_widened before after (hends.resolve_right id)
    · rw [width_append, width, Nat.add_assoc]

/-- The lexer reads the same tokens from both texts. -/
lemma lexedAlike_written_both (h : '\r' ∉ text) :
    LexedAlike (widened text) False (lex 0 text) (lex 0 (written .both text)) := by
  have hletters := ofText_written_both [] text h
  have hjoined := joined_ofText [] text h
  have hfinish := widened_boundary text []
  rw [List.append_nil] at hfinish
  refine lexedAlike_lex hletters ?_ ?_
  · rw [Nat.zero_add, Nat.zero_add, hfinish]
  · rw [Nat.zero_add]
    exact hjoined

end SyntaxCheck.Proofs
