import Mathlib.Tactic
import SyntaxCheck.Source
import SyntaxCheck.Proofs.EarliestTarget
import SyntaxCheck.Proofs.FaithfulLocations
import SyntaxCheck.Proofs.ParsedLines

/-!
# The first error of a text

A text of assignment lines is rejected at the first line that breaks off: the grammar comes first,
and the targets are not looked at before all of the text is a module. If no line breaks off, the
text is rejected at the first line that assigns to a number. Otherwise it is accepted.
-/

namespace SyntaxCheck.Proofs

open SyntaxCheck.Grammar Location

/-! ### Where lines are -/

lemma textOf_append (before after : List AssignmentLine) :
    textOf (before ++ after) = textOf before ++ textOf after := by
  induction before with
  | nil => rfl
  | cons l before ih =>
    rw [List.cons_append, textOf, ih, textOf, List.append_assoc, List.cons_append]

lemma count_textOf (lines : List AssignmentLine) : (textOf lines).count '\n' = lines.length := by
  induction lines with
  | nil => rfl
  | cons l lines ih =>
    have htext := List.count_eq_zero_of_not_mem (newline_not_mem_text l)
    rw [textOf, List.count_append, htext, List.count_cons_self, ih, List.length_cons, Nat.zero_add]

lemma currentLine_textOf (lines : List AssignmentLine) : currentLine (textOf lines) = [] := by
  induction lines using List.reverseRecOn with
  | nil => rfl
  | append_singleton lines l _ =>
    have hlast : textOf (lines ++ [l]) = textOf lines ++ l.text ++ ['\n'] := by
      rw [textOf_append, textOf, textOf, List.append_assoc]
    rw [hlast, currentLine_lineFeed]

lemma locate_start (before after : List AssignmentLine) :
    locate (textOf (before ++ after)) (width (textOf before)) = ⟨before.length + 1, 1⟩ := by
  rw [textOf_append, locate_boundary, count_textOf, currentLine_textOf, Nat.add_comm]
  rfl

lemma locate_end (before : List AssignmentLine) (l : AssignmentLine)
    (after : List AssignmentLine) :
    locate (textOf (before ++ l :: after)) (width (textOf before) + width l.text) =
      ⟨before.length + 1, l.text.length + 1⟩ := by
  have hcount : (textOf before ++ l.text).count '\n' = before.length := by
    rw [List.count_append, count_textOf, List.count_eq_zero_of_not_mem (newline_not_mem_text l),
      Nat.add_zero]
  have hcurrent : currentLine (textOf before ++ l.text) = l.text := by
    rw [currentLine_append_of_no_lineFeed (newline_not_mem_text l), currentLine_textOf,
      List.nil_append]
  rw [textOf_append, textOf, ← List.append_assoc, ← width_append, locate_boundary, hcount,
    hcurrent, Nat.add_comm, Nat.add_comm 1]

/-! ### Lines that break off -/

lemma stmtOf_ok {l : AssignmentLine} (h : l.kind ≠ .dangling) (o : Nat) :
    ∃ s, stmtOf l o = .ok s := by
  unfold stmtOf
  cases hkind : l.kind with
  | good => exact ⟨_, rfl⟩
  | badTarget => exact ⟨_, rfl⟩
  | dangling => exact absurd hkind h

lemma stmtsOf_dangling {before : List AssignmentLine} (hbefore : ∀ k ∈ before, k.kind ≠ .dangling)
    {l : AssignmentLine} (hl : l.kind = .dangling) (after : List AssignmentLine) (o : Nat) :
    stmtsOf o (before ++ l :: after) =
      .error ⟨.unexpectedToken .newline, o + width (textOf before) + width l.text⟩ := by
  induction before generalizing o with
  | nil =>
    have hstmt : stmtOf l o = .error ⟨.unexpectedToken .newline, o + width l.text⟩ := by
      rw [stmtOf, hl]
    rw [List.nil_append, stmtsOf, hstmt]
    rfl
  | cons k before ih =>
    obtain ⟨s, hs⟩ := stmtOf_ok (hbefore k List.mem_cons_self) o
    have hrest := ih (fun m hm => hbefore m (List.mem_cons_of_mem _ hm)) (o + width k.text + 1)
    rw [List.cons_append, stmtsOf, hs, hrest, add_width_textOf_cons]
    rfl

/-! ### Lines that assign to a number -/

/-- The first number that lines assign to. -/
def firstMisfit? : Nat → List AssignmentLine → Option TargetDiagnosis
  | _, [] => none
  | o, l :: rest =>
    if l.kind = .badTarget then some ⟨.impossible .store "literal", o⟩
    else firstMisfit? (o + width l.text + 1) rest

lemma le_of_firstMisfit {lines : List AssignmentLine} {o : Nat} {d : TargetDiagnosis}
    (h : firstMisfit? o lines = some d) : o ≤ d.offset := by
  induction lines generalizing o with
  | nil => cases h
  | cons l rest ih =>
    rw [firstMisfit?] at h
    split at h
    · obtain rfl := Option.some.inj h
      exact Nat.le_refl o
    · have hrest := ih h
      omega

lemma firstMisfit_none {lines : List AssignmentLine} (h : ∀ l ∈ lines, l.kind ≠ .badTarget)
    (o : Nat) : firstMisfit? o lines = none := by
  induction lines generalizing o with
  | nil => rfl
  | cons l rest ih =>
    rw [firstMisfit?, if_neg (h l List.mem_cons_self)]
    exact ih (fun k hk => h k (List.mem_cons_of_mem _ hk)) _

lemma firstMisfit_badTarget {before : List AssignmentLine}
    (hbefore : ∀ k ∈ before, k.kind ≠ .badTarget) {l : AssignmentLine} (hl : l.kind = .badTarget)
    (after : List AssignmentLine) (o : Nat) :
    firstMisfit? o (before ++ l :: after) =
      some ⟨.impossible .store "literal", o + width (textOf before)⟩ := by
  induction before generalizing o with
  | nil => rw [List.nil_append, firstMisfit?, if_pos hl]; rfl
  | cons k before ih =>
    rw [List.cons_append, firstMisfit?, if_neg (hbefore k List.mem_cons_self),
      ih (fun m hm => hbefore m (List.mem_cons_of_mem _ hm)), add_width_textOf_cons]

lemma id_ne_debug (x : PlainName) : x.id ≠ "__debug__" := by
  intro h
  have hchars : x.chars = "__debug__".toList := by rw [← h, PlainName.id, String.toList_ofList]
  have hfirst : x.first = '_' := (List.cons.inj hchars).1
  exact absurd (hfirst ▸ x.first_letter) (by decide)

lemma firstInvalid_cons (s : Stmt) (body : List Stmt) :
    firstInvalid? (s :: body) =
      earlier (earliest (s.targets.filterMap Target.fault?)) (firstInvalid? body) := by
  rw [firstInvalid_eq_recordAll, targetsOfBlock, recordAll_append, recordAll_eq_earliest s.targets,
    firstInvalid_eq_recordAll]

lemma earlier_of_le {d : TargetDiagnosis} {found : Option TargetDiagnosis}
    (h : ∀ w, found = some w → d.offset ≤ w.offset) : earlier (some d) found = some d := by
  cases found with
  | none => rfl
  | some w => rw [earlier, if_neg (Nat.not_lt.mpr (h w rfl))]

/-- If no line breaks off, the lines are a module, and its first unfit target is the first number
that they assign to. -/
lemma stmtsOf_ok {lines : List AssignmentLine} (h : ∀ l ∈ lines, l.kind ≠ .dangling) (o : Nat) :
    ∃ body, stmtsOf o lines = .ok body ∧ firstInvalid? body = firstMisfit? o lines := by
  induction lines generalizing o with
  | nil => exact ⟨[], rfl, rfl⟩
  | cons l rest ih =>
    obtain ⟨body, hbody, hfirst⟩ :=
      ih (fun k hk => h k (List.mem_cons_of_mem _ hk)) (o + width l.text + 1)
    rw [stmtsOf, firstMisfit?, stmtOf]
    cases hkind : l.kind with
    | good =>
      refine ⟨_, by rw [hbody]; rfl, ?_⟩
      have hfit : (Stmt.assign [.name o l.name.id]
          (.literal (o + width l.name.chars + 3) .number)).targets.filterMap Target.fault? =
          [] := by
        simp [Stmt.targets, targetsOfAll, Expr.targets, Target.fault?, Expr.targetFault?,
          Expr.nameFault?, id_ne_debug]
      rw [firstInvalid_cons, hfit, hfirst]
      rfl
    | badTarget =>
      refine ⟨_, by rw [hbody]; rfl, ?_⟩
      have hunfit : (Stmt.assign [.literal o .number]
          (.name (o + width l.number.chars + 3) l.name.id)).targets.filterMap Target.fault? =
          [⟨.impossible .store "literal", o⟩] := by rfl
      rw [firstInvalid_cons, hunfit, hfirst, if_pos rfl]
      refine earlier_of_le fun w hw => ?_
      have hle := le_of_firstMisfit hw
      dsimp only
      omega
    | dangling => exact absurd hkind (h l List.mem_cons_self)

/-! ### The verdict on the text -/

/-- The first member that satisfies a condition stands behind others that do not. -/
lemma split_of_findIdx {α : Type} {p : α → Bool} {xs : List α} {i : Nat}
    (h : xs.findIdx? p = some i) :
    ∃ before a after, xs = before ++ a :: after ∧ before.length = i ∧ p a = true ∧
      ∀ b ∈ before, p b = false := by
  obtain ⟨hi, hp, hbefore⟩ := List.findIdx?_eq_some_iff_getElem.mp h
  refine ⟨xs.take i, xs[i], xs.drop (i + 1), ?_, List.length_take_of_le hi.le, hp, ?_⟩
  · rw [← List.drop_eq_getElem_cons hi, List.take_append_drop]
  · intro b hb
    obtain ⟨j, hj, rfl⟩ := List.mem_take_iff_getElem.mp hb
    exact Bool.eq_false_iff.mpr (hbefore j (by omega))

variable [CharacterNames]

lemma checkSource_dangling {before : List AssignmentLine}
    (hbefore : ∀ k ∈ before, k.kind ≠ .dangling) {l : AssignmentLine} (hl : l.kind = .dangling)
    (after : List AssignmentLine) :
    checkSource (textOf (before ++ l :: after)) =
      .error ⟨.grammar (.unexpectedToken .newline), width (textOf before) + width l.text,
        ⟨before.length + 1, l.text.length + 1⟩⟩ := by
  have hparse := parseModule_textOf (before ++ l :: after)
  rw [stmtsOf_dangling hbefore hl, Nat.zero_add] at hparse
  rw [checkSource, hparse]
  dsimp only
  rw [reject, locate_end]

lemma checkSource_badTarget {before after : List AssignmentLine}
    {l : AssignmentLine}
    (hlines : ∀ k ∈ before ++ l :: after, k.kind ≠ .dangling)
    (hbefore : ∀ k ∈ before, k.kind ≠ .badTarget) (hl : l.kind = .badTarget) :
    checkSource (textOf (before ++ l :: after)) =
      .error ⟨.target (.impossible .store "literal"), width (textOf before),
        ⟨before.length + 1, 1⟩⟩ := by
  obtain ⟨body, hbody, hfirst⟩ := stmtsOf_ok hlines 0
  rw [firstMisfit_badTarget hbefore hl, Nat.zero_add] at hfirst
  rw [checkSource, parseModule_textOf, hbody]
  dsimp only
  rw [hfirst]
  dsimp only
  rw [reject, locate_start]

lemma checkSource_good {lines : List AssignmentLine}
    (hdangling : ∀ l ∈ lines, l.kind ≠ .dangling)
    (hbad : ∀ l ∈ lines, l.kind ≠ .badTarget) : checkSource (textOf lines) = .ok () := by
  obtain ⟨body, hbody, hfirst⟩ := stmtsOf_ok hdangling 0
  rw [firstMisfit_none hbad] at hfirst
  rw [checkSource, parseModule_textOf, hbody]
  dsimp only
  rw [hfirst]

/-- The first line that breaks off is where the text is rejected, at the end of that line, wherever
the lines that assign to a number are. Without such a line it is the first of those, at its start;
a text with neither is accepted. -/
theorem checkSource_firstError (lines : List AssignmentLine) :
    match lines.findIdx? (·.kind = .dangling), lines.findIdx? (·.kind = .badTarget) with
    | some i, _ => ∃ r, checkSource (textOf lines) = .error r ∧
        r.fault = .grammar (.unexpectedToken .newline) ∧ r.line = i + 1 ∧
        lines[i]?.map (·.text.length + 1) = some r.column
    | none, some i => ∃ r, checkSource (textOf lines) = .error r ∧
        r.message = "cannot assign to literal" ∧ r.line = i + 1 ∧ r.column = 1
    | none, none => checkSource (textOf lines) = .ok () := by
  have hkinds : ∀ {kind : LineKind} {ls : List AssignmentLine},
      (∀ l ∈ ls, decide (l.kind = kind) = false) → ∀ l ∈ ls, l.kind ≠ kind :=
    fun h l hl => of_decide_eq_false (h l hl)
  cases hdangling : lines.findIdx? (·.kind = .dangling) with
  | some i =>
    obtain ⟨before, l, after, rfl, rfl, hl, hbefore⟩ := split_of_findIdx hdangling
    refine ⟨_, checkSource_dangling (hkinds hbefore) (of_decide_eq_true hl) after, rfl, rfl, ?_⟩
    rw [List.getElem?_append_right (Nat.le_refl _), Nat.sub_self]
    rfl
  | none =>
    have hnone := hkinds (List.findIdx?_eq_none_iff.mp hdangling)
    cases hbad : lines.findIdx? (·.kind = .badTarget) with
    | some i =>
      obtain ⟨before, l, after, rfl, rfl, hl, hbefore⟩ := split_of_findIdx hbad
      exact ⟨_, checkSource_badTarget hnone (hkinds hbefore) (of_decide_eq_true hl), rfl, rfl, rfl⟩
    | none => exact checkSource_good hnone (hkinds (List.findIdx?_eq_none_iff.mp hbad))

end SyntaxCheck.Proofs
