import Mathlib.Tactic
import SyntaxCheck.Proofs.FaithfulLocations
import SyntaxCheck.Source

/-!
# Lines further down

Whole lines in front of a text move its places down by their number and leave the columns as they
are, also for offsets inside characters and past the end. What follows a place does not matter to
it. So a fault is told in the same words and at the same column wherever its line stands.
-/

namespace SyntaxCheck.Proofs

open Location

variable {before text : List Char}

/-- The text is empty or ends with a line feed. -/
def WholeLines (text : List Char) : Prop :=
  text = [] ∨ text.getLast? = some '\n'

/-- The location so many lines further down. -/
def lowered (k : Nat) (l : Location) : Location :=
  ⟨l.line + k, l.column⟩

lemma advance_lowered (k line column bytes : Nat) (text : List Char) (o : Nat) :
    advance (line + k) column bytes text o = lowered k (advance line column bytes text o) := by
  induction text generalizing line column bytes o with
  | nil => rfl
  | cons c text ih =>
    have hnext : line + k + 1 = line + 1 + k := Nat.add_right_comm line k 1
    rw [advance, advance, hnext, ih, ih]
    split_ifs <;> rfl

lemma currentLine_of_wholeLines (h : WholeLines before) : currentLine before = [] := by
  rcases h with rfl | hlast
  · rfl
  · obtain ⟨front, rfl⟩ := List.getLast?_eq_some_iff.mp hlast
    exact currentLine_lineFeed front

lemma locate_lowered (h : WholeLines before) (text : List Char) (o : Nat) :
    locate (before ++ text) (width before + o) =
      lowered (before.count '\n') (locate text o) := by
  rw [locate, advance_over, currentLine_of_wholeLines h]
  exact advance_lowered (before.count '\n') 1 1 0 text o

lemma locate_append {o : Nat} (h : AtBoundary text o) (after : List Char) :
    locate (text ++ after) o = locate text o := by
  obtain ⟨front, back, rfl, rfl⟩ := h
  rw [List.append_assoc, locate_boundary, locate_boundary]

/-- A rejection tells the same at the same column, so many lines further down. -/
structure FurtherDown (k : Nat) (r r' : Rejection) : Prop where
  message_eq : r'.message = r.message
  line_eq : r'.line = r.line + k
  column_eq : r'.column = r.column

lemma furtherDown_reject (h : WholeLines before) {o : Nat} (ho : AtBoundary text o)
    (after : List Char) (fault : SourceFault) :
    FurtherDown (before.count '\n') (reject text fault o)
      (reject (before ++ (text ++ after)) fault (width before + o)) := by
  have hlocate := locate_lowered h (text ++ after) o
  rw [locate_append ho] at hlocate
  refine ⟨rfl, ?_, ?_⟩
  · rw [reject, Rejection.line, hlocate]
    rfl
  · rw [reject, Rejection.column, hlocate]
    rfl

/-- Lines in front of a text count for the lines of its places and for nothing else, and what
follows a place counts for nothing. -/
theorem places_move_with_lines (before text after : List Char) (o : Nat) :
    (WholeLines before → locate (before ++ text) (width before + o) =
      ⟨(locate text o).line + before.count '\n', (locate text o).column⟩) ∧
    (AtBoundary text o → locate (text ++ after) o = locate text o) ∧
    (WholeLines before → AtBoundary text o → ∀ fault, FurtherDown (before.count '\n')
      (reject text fault o) (reject (before ++ (text ++ after)) fault (width before + o))) :=
  ⟨fun h => locate_lowered h text o, fun ho => locate_append ho after,
    fun h ho => furtherDown_reject h ho after⟩

/-- Two lines in front of an offset inside a character and of one between characters. -/
theorem places_move_with_lines_inside :
    WholeLines ['é', '\n', '\n'] ∧ AtBoundary ['x', '\n', 'é'] 2 ∧
    locate ['é', '\n', '\n', 'x', '\n', 'é'] (4 + 3) = ⟨4, 2⟩ ∧
    locate ['x', '\n', 'é', '\n'] 2 = ⟨2, 1⟩ ∧
    FurtherDown 2 (reject ['x', '\n', 'é'] (.grammar .unexpectedEnd) 2)
      (reject ['é', '\n', '\n', 'x', '\n', 'é', '\n'] (.grammar .unexpectedEnd) (4 + 2)) := by
  have hlines : WholeLines ['é', '\n', '\n'] := .inr rfl
  have hboundary : AtBoundary ['x', '\n', 'é'] 2 := ⟨['x', '\n'], ['é'], rfl, rfl⟩
  obtain ⟨hinside, -, -⟩ := places_move_with_lines ['é', '\n', '\n'] ['x', '\n', 'é'] [] 3
  obtain ⟨-, hbetween, hreject⟩ :=
    places_move_with_lines ['é', '\n', '\n'] ['x', '\n', 'é'] ['\n'] 2
  exact ⟨hlines, hboundary, hinside hlines, hbetween hboundary, hreject hlines hboundary _⟩

end SyntaxCheck.Proofs
