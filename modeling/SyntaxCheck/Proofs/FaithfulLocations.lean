import Mathlib.Data.List.DropRight
import Mathlib.Tactic
import SyntaxCheck.Proofs.EncodedText
import SyntaxCheck.Proofs.LexedPieces

/-!
# Lines, columns and bytes

A location is reached by walking over what stands before it: every line feed there begins a line,
and the characters after the last one make the column. So places in a text are told apart by their
locations, in their order, and can be found again. An offset inside a character has a location as
well, which is counted in the bytes of its line.
-/

namespace SyntaxCheck.Proofs

open Location Utf8

variable {text : List Char}

/-! ### The walk over a text -/

/-- The characters after the last line feed of a text. -/
def currentLine (text : List Char) : List Char :=
  text.rtakeWhile (· != '\n')

lemma currentLine_lineFeed (text : List Char) : currentLine (text ++ ['\n']) = [] :=
  List.rtakeWhile_concat_neg _ _ _ (by decide)

lemma currentLine_concat {c : Char} (hc : c ≠ '\n') (text : List Char) :
    currentLine (text ++ [c]) = currentLine text ++ [c] :=
  List.rtakeWhile_concat_pos _ _ _ (by simpa using hc)

lemma lineFeed_not_mem_currentLine (text : List Char) : '\n' ∉ currentLine text := by
  intro h
  simpa using List.mem_rtakeWhile_imp h

/-- Line feeds that the walk comes over are counted, and what comes after the last of them. -/
lemma advance_over (before after : List Char) (more : Nat) :
    advance 1 1 0 (before ++ after) (width before + more) =
      advance (1 + before.count '\n') (1 + (currentLine before).length)
        (width (currentLine before)) after more := by
  induction before using List.reverseRecOn generalizing after more with
  | nil => simp [width, currentLine]
  | append_singleton before c ih =>
    have hwidth : width (before ++ [c]) + more = width before + (c.utf8Size + more) := by
      rw [width_append, width, width, Nat.add_zero, Nat.add_assoc]
    have hpos := c.utf8Size_pos
    rw [hwidth, List.append_assoc, List.singleton_append, ih, advance, if_neg (by omega),
      if_neg (by omega), Nat.add_sub_cancel_left, List.count_append]
    by_cases hc : c = '\n'
    · subst hc
      rw [if_pos rfl, currentLine_lineFeed]
      rfl
    · have hcount : [c].count '\n' = 0 :=
        List.count_eq_zero_of_not_mem (by simpa using Ne.symm hc)
      rw [if_neg hc, currentLine_concat hc, width_append, hcount, List.length_append]
      rfl

lemma locate_boundary (before after : List Char) :
    locate (before ++ after) (width before) =
      ⟨1 + before.count '\n', 1 + (currentLine before).length⟩ := by
  have hwalk := advance_over before after 0
  rw [Nat.add_zero] at hwalk
  rw [locate, hwalk]
  cases after <;> rfl

lemma locate_inside (before after : List Char) {c : Char} {i : Nat} (hpos : 0 < i)
    (hi : i < c.utf8Size) :
    locate (before ++ c :: after) (width before + i) =
      ⟨1 + before.count '\n', width (currentLine before) + i + 1⟩ := by
  rw [locate, advance_over, advance, if_neg (by omega), if_pos hi]

lemma locate_past {o : Nat} (h : width text ≤ o) : locate text o = locate text (width text) := by
  obtain ⟨more, rfl⟩ := Nat.exists_eq_add_of_le h
  have hpast := advance_over text [] more
  have hend := advance_over text [] 0
  rw [List.append_nil] at hpast hend
  rw [locate, locate, hpast, ← Nat.add_zero (width text), hend]
  rfl

/-! ### Where offsets fall -/

/-- The offset lies between two characters of the text or at one of its ends. -/
def AtBoundary (text : List Char) (o : Nat) : Prop :=
  ∃ before after, text = before ++ after ∧ o = width before

/-- An offset falls on a boundary or inside a character. -/
inductive Falls (text : List Char) : Nat → Prop
  | boundary (before after : List Char) (h : text = before ++ after) : Falls text (width before)
  | inside (before after : List Char) (c : Char) (i : Nat) (h : text = before ++ c :: after)
    (hpos : 0 < i) (hi : i < c.utf8Size) : Falls text (width before + i)

lemma falls_cons {o : Nat} (h : Falls text o) (c : Char) :
    Falls (c :: text) (c.utf8Size + o) := by
  cases h with
  | boundary before after h => exact .boundary (c :: before) after (by rw [h]; rfl)
  | inside before after d i h hpos hi =>
    have hfalls : Falls (c :: text) (width (c :: before) + i) :=
      .inside (c :: before) after d i (by rw [h]; rfl) hpos hi
    rwa [width, Nat.add_assoc] at hfalls

lemma falls_of_le {o : Nat} (h : o ≤ width text) : Falls text o := by
  induction text generalizing o with
  | nil =>
    obtain rfl : o = 0 := Nat.le_zero.mp h
    exact .boundary [] [] rfl
  | cons c text ih =>
    by_cases hzero : o = 0
    · exact hzero ▸ .boundary [] (c :: text) rfl
    by_cases hlt : o < c.utf8Size
    · have hfalls : Falls (c :: text) (width [] + o) :=
        .inside [] text c o rfl (Nat.pos_of_ne_zero hzero) hlt
      rwa [width, Nat.zero_add] at hfalls
    · rw [width] at h
      have hrest : o - c.utf8Size ≤ width text := by omega
      have hfalls := falls_cons (ih hrest) c
      rwa [Nat.add_sub_cancel' (Nat.le_of_not_lt hlt)] at hfalls

/-- Of two boundaries the later one has more of the text before it. -/
lemma exists_between {before₁ after₁ before₂ after₂ : List Char}
    (h : before₁ ++ after₁ = before₂ ++ after₂) (hlt : width before₁ < width before₂) :
    ∃ between, between ≠ [] ∧ before₂ = before₁ ++ between := by
  have hprefix : before₁ <+: before₂ ∨ before₂ <+: before₁ :=
    List.prefix_or_prefix_of_prefix (List.prefix_append before₁ after₁)
      (h ▸ List.prefix_append before₂ after₂)
  rcases hprefix with ⟨between, rfl⟩ | ⟨between, rfl⟩
  · refine ⟨between, ?_, rfl⟩
    rintro rfl
    rw [List.append_nil] at hlt
    exact Nat.lt_irrefl _ hlt
  · rw [width_append] at hlt
    omega

/-! ### Locations in order -/

/-- Lines come before columns. -/
def ComesBefore (a b : Location) : Prop :=
  a.line < b.line ∨ a.line = b.line ∧ a.column < b.column

lemma currentLine_append_of_no_lineFeed {between : List Char} (h : '\n' ∉ between)
    (before : List Char) : currentLine (before ++ between) = currentLine before ++ between := by
  induction between using List.reverseRecOn with
  | nil => rw [List.append_nil, List.append_nil]
  | append_singleton between c ih =>
    rw [List.mem_append, not_or, List.mem_singleton] at h
    rw [← List.append_assoc, currentLine_concat (Ne.symm h.2), ih h.1, List.append_assoc]

lemma comesBefore_locate {o₁ o₂ : Nat} (h₁ : AtBoundary text o₁) (h₂ : AtBoundary text o₂)
    (hlt : o₁ < o₂) : ComesBefore (locate text o₁) (locate text o₂) := by
  obtain ⟨before₁, after₁, rfl, rfl⟩ := h₁
  obtain ⟨before₂, after₂, htext, rfl⟩ := h₂
  obtain ⟨between, hne, rfl⟩ := exists_between htext hlt
  rw [locate_boundary, htext, locate_boundary, ComesBefore, List.count_append]
  by_cases hfeed : '\n' ∈ between
  · have hcount := List.count_pos_iff.mpr hfeed
    exact .inl (by dsimp only; omega)
  · have hlength := List.length_pos_iff.mpr hne
    rw [currentLine_append_of_no_lineFeed hfeed, List.length_append,
      List.count_eq_zero_of_not_mem hfeed]
    exact .inr ⟨rfl, by dsimp only; omega⟩

/-! ### Locations found again -/

/-- What is left of a text after its first line and the line feed that ends it. -/
def afterLine (text : List Char) : List Char :=
  (text.dropWhile (· != '\n')).drop 1

/-- The first line of a text, with the line feed that ends it. -/
def firstLine (text : List Char) : List Char :=
  text.takeWhile (· != '\n') ++ (text.dropWhile (· != '\n')).take 1

/-- The line with a number, with the line feed that ends it. -/
def lineAt (text : List Char) (line : Nat) : List Char :=
  firstLine (afterLine^[line - 1] text)

/-- Where a location is: behind the lines before its line and the characters before its column. -/
def offsetAt (text : List Char) (l : Location) : Nat :=
  width text - width ((afterLine^[l.line - 1] text).drop (l.column - 1))

lemma all_ne_lineFeed (text : List Char) : ∀ c ∈ currentLine text, (c != '\n') = true := by
  intro c hc
  rw [bne_iff_ne]
  rintro rfl
  exact lineFeed_not_mem_currentLine text hc

/-- Behind as many lines as were counted there is what the column counts. -/
lemma afterLines_count (before after : List Char) :
    afterLine^[before.count '\n'] (before ++ after) = currentLine before ++ after := by
  induction before using List.reverseRecOn generalizing after with
  | nil => rfl
  | append_singleton before c ih =>
    rw [List.append_assoc, List.singleton_append, List.count_append]
    by_cases hc : c = '\n'
    · subst hc
      have hdrop : (currentLine before ++ '\n' :: after).dropWhile (· != '\n') = '\n' :: after := by
        rw [List.dropWhile_append_of_pos (all_ne_lineFeed before)]
        rfl
      rw [List.count_singleton_self, Function.iterate_succ_apply', ih, currentLine_lineFeed,
        afterLine, hdrop]
      rfl
    · have hcount : [c].count '\n' = 0 :=
        List.count_eq_zero_of_not_mem (by simpa using Ne.symm hc)
      rw [hcount, Nat.add_zero, ih, currentLine_concat hc, List.append_assoc,
        List.singleton_append]

lemma offsetAt_locate {o : Nat} (h : AtBoundary text o) : offsetAt text (locate text o) = o := by
  obtain ⟨before, after, rfl, rfl⟩ := h
  rw [locate_boundary, offsetAt]
  dsimp only
  rw [Nat.add_sub_cancel_left, Nat.add_sub_cancel_left, afterLines_count, List.drop_left,
    width_append, Nat.add_sub_cancel]

lemma column_le_lineAt {o : Nat} (h : AtBoundary text o) :
    (locate text o).column ≤ (lineAt text (locate text o).line).length + 1 := by
  obtain ⟨before, after, rfl, rfl⟩ := h
  rw [locate_boundary, lineAt]
  dsimp only
  rw [Nat.add_sub_cancel_left, afterLines_count, firstLine,
    List.takeWhile_append_of_pos (all_ne_lineFeed before), List.length_append, List.length_append]
  omega

/-! ### Bytes -/

lemma length_encode (text : List Char) : (encode text).length = width text := by
  induction text with
  | nil => rfl
  | cons c text ih =>
    rw [encode_cons, List.length_append, length_encodeChar, ih, width]

/-- Only a line feed is written with the byte of a line feed. -/
lemma lineFeed_not_mem_encodeChar {c : Char} (hc : c ≠ '\n') : (0x0A : UInt8) ∉ encodeChar c := by
  intro hmem
  by_cases hascii : c.toNat < 0x80
  · rw [encodeChar_ascii hascii, List.mem_singleton] at hmem
    have hten := congrArg UInt8.toNat hmem
    rw [toNat_byte (by omega)] at hten
    exact hc (Char.toNat_inj.mp hten.symm)
  · obtain ⟨f, hwrites, -⟩ := exists_writes_encodeChar (Nat.le_of_not_lt hascii)
    exact absurd (high_of_writes hwrites _ hmem) (by decide)

/-- The bytes up to an offset; offsets past the end stand for the end. -/
def bytesTo (text : List Char) (o : Nat) : List UInt8 :=
  (encode text).take o

/-- The number of bytes up to and with the last line feed: where the current line starts. -/
def lineStart (bytes : List UInt8) : Nat :=
  (bytes.rdropWhile (· != 0x0A)).length

lemma bytesTo_boundary (before after : List Char) :
    bytesTo (before ++ after) (width before) = encode before := by
  rw [bytesTo, encode_append, ← length_encode, List.take_left]

lemma bytesTo_inside (before after : List Char) {c : Char} {i : Nat} (hi : i < c.utf8Size) :
    bytesTo (before ++ c :: after) (width before + i) =
      encode before ++ (encodeChar c).take i := by
  have hlength := length_encodeChar c
  rw [bytesTo, encode_append, ← length_encode, List.take_length_add_append, encode_cons,
    List.take_append_of_le_length (by omega)]

lemma count_encode (text : List Char) : (encode text).count 0x0A = text.count '\n' := by
  induction text with
  | nil => rfl
  | cons c text ih =>
    rw [encode_cons, List.count_append, ih, List.count_cons]
    by_cases hc : c = '\n'
    · subst hc
      rw [Nat.add_comm]
      rfl
    · have hbeq : (c == '\n') = false := beq_false_of_ne hc
      rw [List.count_eq_zero_of_not_mem (lineFeed_not_mem_encodeChar hc), hbeq, Nat.zero_add]
      rfl

lemma lineStart_append {more : List UInt8} (h : 0x0A ∉ more) (bytes : List UInt8) :
    lineStart (bytes ++ more) = lineStart bytes := by
  induction more using List.reverseRecOn with
  | nil => rw [List.append_nil]
  | append_singleton more b ih =>
    rw [List.mem_append, not_or, List.mem_singleton] at h
    have hb : (b != 0x0A) = true := bne_iff_ne.mpr (Ne.symm h.2)
    rw [← ih h.1, ← List.append_assoc]
    exact congrArg List.length (List.rdropWhile_concat_pos (· != 0x0A) _ b hb)

/-- The current line begins as many bytes before the end as its characters take. -/
lemma lineStart_encode (text : List Char) :
    lineStart (encode text) + width (currentLine text) = width text := by
  induction text using List.reverseRecOn with
  | nil => rfl
  | append_singleton text c ih =>
    rw [encode_append, encode_singleton, width_append]
    by_cases hc : c = '\n'
    · subst hc
      have hstart : lineStart (encode text ++ encodeChar '\n') =
          (encode text ++ encodeChar '\n').length :=
        congrArg List.length (List.rdropWhile_concat_neg _ _ _ (by decide))
      rw [hstart, currentLine_lineFeed, List.length_append, length_encode, length_encodeChar]
      rfl
    · rw [lineStart_append (lineFeed_not_mem_encodeChar hc), currentLine_concat hc, width_append,
        ← Nat.add_assoc, ih]

lemma length_le_width (text : List Char) : text.length ≤ width text := by
  induction text with
  | nil => exact Nat.le_refl 0
  | cons c text ih =>
    have hpos := c.utf8Size_pos
    rw [List.length_cons, width]
    omega

lemma ne_lineFeed_of_inside {c : Char} {i : Nat} (hpos : 0 < i) (hi : i < c.utf8Size) :
    c ≠ '\n' := by
  rintro rfl
  have hsize : '\n'.utf8Size = 1 := rfl
  omega

/-- A location in bytes: the line feeds before it, and how far it is from the start of its line,
which is never behind it. Inside a character the column counts the bytes. -/
structure CountedInBytes (text : List Char) (o : Nat) : Prop where
  line_eq : (locate text o).line = 1 + (bytesTo text o).count 0x0A
  lineStart_le : lineStart (bytesTo text o) ≤ min o (width text)
  one_le_column : 1 ≤ (locate text o).column
  column_le : (locate text o).column ≤ 1 + (min o (width text) - lineStart (bytesTo text o))
  column_inside : o < width text → ¬ AtBoundary text o →
    (locate text o).column = 1 + (o - lineStart (bytesTo text o))

lemma countedInBytes_boundary (before after : List Char) :
    CountedInBytes (before ++ after) (width before) := by
  have hstart := lineStart_encode before
  have hlength := length_le_width (currentLine before)
  have hmin : min (width before) (width (before ++ after)) = width before := by
    rw [width_append]
    omega
  have hlocate := locate_boundary before after
  have hbytes := bytesTo_boundary before after
  refine ⟨?_, ?_, ?_, ?_, ?_⟩
  · rw [hlocate, hbytes, count_encode]
  · rw [hbytes, hmin]
    omega
  · rw [hlocate]
    exact Nat.le_add_right 1 _
  · rw [hlocate, hbytes, hmin]
    dsimp only
    omega
  · intro _ hinside
    exact absurd ⟨before, after, rfl, rfl⟩ hinside

lemma countedInBytes_inside (before after : List Char) {c : Char} {i : Nat} (hpos : 0 < i)
    (hi : i < c.utf8Size) : CountedInBytes (before ++ c :: after) (width before + i) := by
  have hstart := lineStart_encode before
  have hmin : min (width before + i) (width (before ++ c :: after)) = width before + i := by
    rw [width_append, width]
    omega
  have hpart : (0x0A : UInt8) ∉ (encodeChar c).take i := fun hmem =>
    lineFeed_not_mem_encodeChar (ne_lineFeed_of_inside hpos hi) (List.mem_of_mem_take hmem)
  have hlocate := locate_inside before after hpos hi
  have hbytes := bytesTo_inside before after hi
  have hcolumn : (locate (before ++ c :: after) (width before + i)).column =
      1 + (width before + i - lineStart (bytesTo (before ++ c :: after) (width before + i))) := by
    rw [hlocate, hbytes, lineStart_append hpart]
    dsimp only
    omega
  refine ⟨?_, ?_, ?_, ?_, fun _ _ => hcolumn⟩
  · rw [hlocate, hbytes, List.count_append, List.count_eq_zero_of_not_mem hpart, count_encode]
    rfl
  · rw [hbytes, hmin, lineStart_append hpart]
    omega
  · rw [hcolumn]
    exact Nat.le_add_right 1 _
  · rw [hcolumn, hmin]

lemma countedInBytes_of_falls {o : Nat} (h : Falls text o) : CountedInBytes text o := by
  cases h with
  | boundary before after h => exact h ▸ countedInBytes_boundary before after
  | inside before after c i h hpos hi => exact h ▸ countedInBytes_inside before after hpos hi

/-- Offsets past the end are counted as the end is. -/
lemma countedInBytes (text : List Char) (o : Nat) : CountedInBytes text o := by
  rcases Nat.le_total o (width text) with hle | hge
  · exact countedInBytes_of_falls (falls_of_le hle)
  · have hend := countedInBytes_of_falls (falls_of_le (Nat.le_refl (width text)))
    have hbytes : bytesTo text o = bytesTo text (width text) := by
      rw [bytesTo, bytesTo, List.take_of_length_le (by rw [length_encode]; exact hge),
        ← length_encode, List.take_length]
    have hmin : min o (width text) = min (width text) (width text) := by omega
    refine ⟨?_, ?_, ?_, ?_, ?_⟩
    · rw [locate_past hge, hbytes]
      exact hend.line_eq
    · rw [hbytes, hmin]
      exact hend.lineStart_le
    · rw [locate_past hge]
      exact hend.one_le_column
    · rw [locate_past hge, hbytes, hmin]
      exact hend.column_le
    · intro hlt
      exact absurd hge (Nat.not_le_of_lt hlt)

/-! ### All locations of a text -/

/-- Between characters locations keep the order of offsets and lose nothing, and at any offset they
count the bytes before it as lines and columns. -/
structure FaithfulLocations (text : List Char) : Prop where
  in_order : ∀ o₁ o₂, AtBoundary text o₁ → AtBoundary text o₂ → o₁ < o₂ →
    ComesBefore (locate text o₁) (locate text o₂)
  found_again : ∀ o, AtBoundary text o → offsetAt text (locate text o) = o
  column_in_line : ∀ o, AtBoundary text o →
    (locate text o).column ≤ (lineAt text (locate text o).line).length + 1
  in_bytes : ∀ o, CountedInBytes text o

/-- The locations of any text are faithful to its offsets. -/
theorem locating_is_faithful (text : List Char) : FaithfulLocations text where
  in_order _ _ := comesBefore_locate
  found_again _ := offsetAt_locate
  column_in_line _ := column_le_lineAt
  in_bytes := countedInBytes text

end SyntaxCheck.Proofs
