import Mathlib.Tactic
import SyntaxCheck.Proofs.FaithfulLocations
import SyntaxCheck.Source

/-!
# Lines as the lexer counts them

For the lexer a line ends at a line feed and at a carriage return that no line feed follows, so the
two together end one line as well. Locations count line feeds alone. The two ways to count agree on
the places that no such lone carriage return stands before, and on no other place.
-/

namespace SyntaxCheck.Proofs

open Location

variable {before after : List Char}

/-- Whether a line ends after a character, given the text that follows it. -/
def endsLine (c : Char) (rest : List Char) : Bool :=
  c == '\n' || (c == '\r' && rest.head? != some '\n')

/-- The number of lines that end in a text before what follows it. -/
def lineEnds (before after : List Char) : Nat :=
  match before with
  | [] => 0
  | c :: before => (endsLine c (before ++ after)).toNat + lineEnds before after

/-- The characters of a text behind the last line that ends in it. -/
def sinceLineEnd (before after : List Char) : List Char :=
  match before with
  | [] => []
  | c :: before =>
    if lineEnds (c :: before) after = 0 then c :: before else sinceLineEnd before after

/-- The place between two parts of a text, with lines and columns as the lexer counts them. -/
def readerLocation (before after : List Char) : Location :=
  ⟨1 + lineEnds before after, 1 + (sinceLineEnd before after).length⟩

/-- A carriage return without a line feed after it stands in a text before what follows it. -/
def HasLoneReturn (before after : List Char) : Prop :=
  ∃ front back, before = front ++ '\r' :: back ∧ (back ++ after).head? ≠ some '\n'

/-! ### One character -/

lemma endsLine_of_ne_return {c : Char} (hc : c ≠ '\r') (rest : List Char) :
    endsLine c rest = (c == '\n') := by
  rw [endsLine, beq_eq_false_iff_ne.mpr hc, Bool.false_and, Bool.or_false]

lemma endsLine_return {rest : List Char} (h : rest.head? ≠ some '\n') :
    endsLine '\r' rest = true := by
  rw [endsLine, bne_iff_ne.mpr h]
  rfl

lemma hasLoneReturn_cons (c : Char) (before after : List Char) :
    HasLoneReturn (c :: before) after ↔
      (c = '\r' ∧ (before ++ after).head? ≠ some '\n') ∨ HasLoneReturn before after := by
  constructor
  · rintro ⟨front, back, hbefore, hback⟩
    cases front with
    | nil =>
      obtain ⟨rfl, rfl⟩ := List.cons.inj hbefore
      exact .inl ⟨rfl, hback⟩
    | cons d front => exact .inr ⟨front, back, (List.cons.inj hbefore).2, hback⟩
  · rintro (⟨rfl, hback⟩ | ⟨front, back, rfl, hback⟩)
    · exact ⟨[], before, rfl, hback⟩
    · exact ⟨c :: front, back, rfl, hback⟩

/-! ### Line ends among the letters -/

lemma ofText_return_lineFeed (o : Nat) (rest : List Char) :
    Letter.ofText o ('\r' :: '\n' :: rest) = ⟨'\n', o, o + 2⟩ :: Letter.ofText (o + 2) rest := by
  rw [Letter.ofText]

lemma ofText_return {rest : List Char} (h : rest.head? ≠ some '\n') (o : Nat) :
    Letter.ofText o ('\r' :: rest) = ⟨'\n', o, o + 1⟩ :: Letter.ofText (o + 1) rest := by
  rw [Letter.ofText]
  rintro more rfl
  exact h rfl

/-- The first letter of a text with its width, and the text after it. -/
structure FirstLetter (text : List Char) (c : Char) (n : Nat) (rest : List Char) : Prop where
  letters : ∀ o, Letter.ofText o text = ⟨c, o, o + n⟩ :: Letter.ofText (o + n) rest
  width_eq : width text = n + width rest
  size_le : c.utf8Size ≤ n
  size_eq : c ≠ '\n' → n = c.utf8Size

/-- Texts are read letter by letter, whichever way their lines end. -/
@[elab_as_elim]
lemma letter_induction {motive : List Char → Prop} (nil : motive [])
    (letter : ∀ text c n rest, FirstLetter text c n rest → motive rest → motive text)
    (text : List Char) : motive text := by
  induction (0 : Nat), text using Letter.ofText.induct with
  | case1 => exact nil
  | case2 o rest ih =>
    refine letter _ '\n' 2 rest ⟨fun o => ofText_return_lineFeed o rest, ?_, by decide, ?_⟩ ih
    · rw [width, width, ← Nat.add_assoc]
      rfl
    · exact fun hne => absurd rfl hne
  | case3 o rest hrest ih =>
    have hhead : rest.head? ≠ some '\n' := by
      intro hhead
      obtain ⟨more, rfl⟩ := List.head?_eq_some_iff.mp hhead
      exact hrest more rfl
    exact letter _ '\n' 1 rest ⟨fun o => ofText_return hhead o, rfl, by decide,
      fun hne => absurd rfl hne⟩ ih
  | case4 o c rest hpair hc ih =>
    exact letter _ c c.utf8Size rest ⟨fun o => ofText_cons hc o rest, rfl, le_rfl, fun _ => rfl⟩ ih

/-- The letters that end a line and lie before an offset. -/
def linesOver (letters : List Letter) (o : Nat) : Nat :=
  letters.countP fun l => l.char = '\n' ∧ l.stop ≤ o

lemma lt_stop_of_mem_ofText {text : List Char} {o : Nat} {l : Letter}
    (h : l ∈ Letter.ofText o text) : o < l.stop := by
  induction text using letter_induction generalizing o with
  | nil => cases h
  | letter text c n rest hfirst ih =>
    have hpos := c.utf8Size_pos
    have hsize := hfirst.size_le
    rw [hfirst.letters, List.mem_cons] at h
    rcases h with rfl | h
    · dsimp only
      omega
    · have hlt := ih h
      omega

lemma linesOver_cons (l : Letter) (letters : List Letter) (o : Nat) :
    linesOver (l :: letters) o =
      (if l.char = '\n' ∧ l.stop ≤ o then 1 else 0) + linesOver letters o := by
  rw [linesOver, linesOver, List.countP_cons, Nat.add_comm]
  simp only [decide_eq_true_eq]

lemma linesOver_before {o p : Nat} (h : p ≤ o) (text : List Char) :
    linesOver (Letter.ofText o text) p = 0 := by
  rw [linesOver, List.countP_eq_zero]
  intro l hl
  have hlt := lt_stop_of_mem_ofText hl
  simp only [decide_eq_true_eq, not_and]
  omega

/-- Line ends are the letters that the lexer reads as such. -/
lemma linesOver_ofText (before after : List Char) (o : Nat) :
    linesOver (Letter.ofText o (before ++ after)) (o + width before) = lineEnds before after := by
  induction o, before using Letter.ofText.induct with
  | case1 o => exact linesOver_before le_rfl after
  | case2 o rest ih =>
    have hwidth : o + width ('\r' :: '\n' :: rest) = o + 2 + width rest := by
      rw [width, width]
      change o + (1 + (1 + width rest)) = o + 2 + width rest
      omega
    have hends : lineEnds ('\r' :: '\n' :: rest) after = 1 + lineEnds rest after := by
      simp [lineEnds, endsLine]
    rw [hwidth, hends, List.cons_append, List.cons_append, ofText_return_lineFeed, linesOver_cons,
      ih, if_pos ⟨rfl, by simp⟩]
  | case3 o rest hrest ih =>
    have hwidth : o + width ('\r' :: rest) = o + 1 + width rest := by
      rw [width, ← Nat.add_assoc]
      rfl
    rw [List.cons_append, hwidth]
    by_cases hfeed : (rest ++ after).head? = some '\n'
    -- The line feed comes after the place, and so does the end of the line.
    · obtain rfl : rest = [] := by
        cases rest with
        | nil => rfl
        | cons c rest => exact absurd (by simpa using hfeed) (hrest rest)
      obtain ⟨more, rfl⟩ := List.head?_eq_some_iff.mp hfeed
      rw [List.nil_append, ofText_return_lineFeed, linesOver_cons, if_neg (by simp [width]),
        linesOver_before (by simp [width])]
      rfl
    · have hends : lineEnds ('\r' :: rest) after = 1 + lineEnds rest after := by
        rw [lineEnds, endsLine_return hfeed]
        rfl
      rw [ofText_return hfeed, linesOver_cons, if_pos ⟨rfl, by simp⟩, ih, hends]
  | case4 o c rest hpair hc ih =>
    have hends : lineEnds (c :: rest) after = (c == '\n').toNat + lineEnds rest after := by
      rw [lineEnds, endsLine_of_ne_return hc]
    rw [List.cons_append, ofText_cons hc, linesOver_cons, width, ← Nat.add_assoc, ih, hends]
    by_cases hfeed : c = '\n'
    · rw [if_pos ⟨hfeed, by simp⟩, hfeed]
      rfl
    · rw [if_neg (fun h => hfeed h.1), beq_eq_false_iff_ne.mpr hfeed]
      rfl

/-! ### Two ways to count -/

lemma lineEnds_eq_count (h : ¬ HasLoneReturn before after) :
    lineEnds before after = before.count '\n' := by
  induction before with
  | nil => rfl
  | cons c before ih =>
    rw [hasLoneReturn_cons, not_or] at h
    rw [lineEnds, ih h.2, List.count_cons]
    by_cases hc : c = '\r'
    · have hfeed : (before ++ after).head? = some '\n' := not_not.mp fun hne => h.1 ⟨hc, hne⟩
      rw [hc, endsLine, hfeed]
      simp
    · rw [endsLine_of_ne_return hc]
      cases hfeed : c == '\n'
      · simp
      · simp [Nat.add_comm]

lemma count_le_lineEnds (before after : List Char) : before.count '\n' ≤ lineEnds before after := by
  induction before with
  | nil => exact le_rfl
  | cons c before ih =>
    rw [lineEnds, List.count_cons, endsLine]
    cases hfeed : c == '\n'
    · simpa using Nat.le_add_left_of_le ih
    · simpa [Nat.add_comm] using Nat.lt_succ_of_le ih

lemma count_lt_lineEnds (h : HasLoneReturn before after) :
    before.count '\n' < lineEnds before after := by
  induction before with
  | nil =>
    obtain ⟨front, back, hbefore, -⟩ := h
    simp at hbefore
  | cons c before ih =>
    rcases (hasLoneReturn_cons c before after).mp h with ⟨rfl, hback⟩ | hlone
    · have hle := count_le_lineEnds before after
      rw [lineEnds, endsLine_return hback, List.count_cons_of_ne (by decide), Bool.toNat_true]
      omega
    · have hlt := ih hlone
      rw [lineEnds, List.count_cons, endsLine]
      cases hfeed : c == '\n'
      · simpa using Nat.lt_add_left _ hlt
      · simpa [Nat.add_comm 1] using hlt

lemma currentLine_of_not_mem (h : '\n' ∉ before) : currentLine before = before := by
  simpa [currentLine] using currentLine_append_of_no_lineFeed h []

lemma currentLine_cons_of_mem (c : Char) (h : '\n' ∈ before) :
    currentLine (c :: before) = currentLine before := by
  induction before using List.reverseRecOn with
  | nil => simp at h
  | append_singleton before d ih =>
    rw [← List.cons_append]
    by_cases hd : d = '\n'
    · rw [hd, currentLine_lineFeed, currentLine_lineFeed]
    · have hmem : '\n' ∈ before := by simpa [Ne.symm hd] using h
      rw [currentLine_concat hd, currentLine_concat hd, ih hmem]

lemma sinceLineEnd_eq_currentLine (h : ¬ HasLoneReturn before after) :
    sinceLineEnd before after = currentLine before := by
  induction before with
  | nil => rfl
  | cons c before ih =>
    have hrest : ¬ HasLoneReturn before after := fun hlone =>
      h ((hasLoneReturn_cons c before after).mpr (.inr hlone))
    rw [sinceLineEnd, lineEnds_eq_count h, ih hrest]
    by_cases hmem : '\n' ∈ before
    · rw [currentLine_cons_of_mem c hmem,
        if_neg (List.count_pos_iff.mpr (List.mem_cons_of_mem c hmem)).ne']
    · by_cases hc : c = '\n'
      · subst hc
        rw [if_neg (by simp), currentLine_of_not_mem hmem, ← List.singleton_append,
          currentLine_append_of_no_lineFeed hmem]
        rfl
      · have hall : '\n' ∉ c :: before := by simp [Ne.symm hc, hmem]
        rw [if_pos (List.count_eq_zero.mpr hall), currentLine_of_not_mem hall]

end SyntaxCheck.Proofs
