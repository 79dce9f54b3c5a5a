import Mathlib.Tactic
import SyntaxCheck.Run.CheckedFile

/-!
# What messages quote

The wording of a message is fixed but for what it quotes from the source: a character, a token, a
name or a bracket. So a message spreads over several lines exactly if what it quotes does.
-/

namespace SyntaxCheck.Proofs

/-- The text has a line end in it. -/
def Breaks (text : String) : Prop :=
  '\n' ∈ text.toList

lemma not_breaks_literal {chars : List Char} (h : chars.contains '\n' = false) :
    ¬ Breaks (String.ofList chars) := by
  rw [Breaks, String.toList_ofList, ← List.contains_iff_mem, h]
  exact Bool.false_ne_true

lemma breaks_append (a b : String) : Breaks (a ++ b) ↔ Breaks a ∨ Breaks b := by
  rw [Breaks, String.toList_append, List.mem_append, Breaks, Breaks]

lemma breaks_after {a : String} (ha : ¬ Breaks a) (b : String) : Breaks (a ++ b) ↔ Breaks b := by
  rw [breaks_append, or_iff_right ha]

lemma breaks_before (a : String) {b : String} (hb : ¬ Breaks b) : Breaks (a ++ b) ↔ Breaks a := by
  rw [breaks_append, or_iff_left hb]

lemma breaks_char (c : Char) : Breaks c.toString ↔ '\n' ∈ [c] := by
  rw [Breaks, Char.toString_eq_singleton, String.toList_singleton]

lemma not_breaks_number (n : Nat) : ¬ Breaks (toString n) := by
  intro h
  rw [Breaks, Nat.toString_eq_repr, Nat.toList_repr] at h
  have hdigit := Nat.isDigit_of_mem_toDigits (by omega) (by omega) h
  simp at hdigit

/-! ### Faults of the grammar -/

/-- What the message about a replacement field quotes. -/
def quotedByField : FieldFault → List Char
  | .mismatched closer opener => [closer, opener]
  | .unmatched closer => [closer]
  | _ => []

/-- What the message about a text that is no module quotes. -/
def quotedByFault : Fault → List Char
  | .unexpectedCharacter c => [c]
  | .unexpectedToken t => t.text.toList
  | .duplicateParameter x => x.toList
  | .repeatedKeyword x => x.toList
  | .field fault => quotedByField fault
  | .inField fault => quotedByFault fault
  | _ => []

lemma breaks_field_message_iff (fault : FieldFault) :
    Breaks fault.message ↔ '\n' ∈ quotedByField fault := by
  unfold FieldFault.message quotedByField
  cases fault with
  | mismatched closer opener =>
    rw [breaks_before, breaks_append, breaks_before, breaks_after, breaks_char, breaks_char,
      ← List.mem_append]
    · rfl
    all_goals exact not_breaks_literal rfl
  | unmatched closer =>
    rw [breaks_before, breaks_after, breaks_char]
    all_goals exact not_breaks_literal rfl
  | _ => exact iff_of_false (not_breaks_literal rfl) List.not_mem_nil

lemma breaks_message_iff (fault : Fault) : Breaks fault.message ↔ '\n' ∈ quotedByFault fault := by
  induction fault with
  | field fault =>
    unfold Fault.message quotedByFault
    rw [breaks_after, breaks_field_message_iff]
    exact not_breaks_literal rfl
  | inField fault ih =>
    unfold Fault.message quotedByFault
    rw [breaks_after, ih]
    exact not_breaks_literal rfl
  | unexpectedCharacter c =>
    unfold Fault.message quotedByFault
    rw [breaks_after, breaks_char]
    exact not_breaks_literal rfl
  | unexpectedToken token =>
    unfold Fault.message quotedByFault
    rw [breaks_after, Breaks]
    exact not_breaks_literal rfl
  | duplicateParameter name =>
    unfold Fault.message quotedByFault
    rw [breaks_before, breaks_after, Breaks]
    all_goals exact not_breaks_literal rfl
  | repeatedKeyword name =>
    unfold Fault.message quotedByFault
    rw [breaks_after, Breaks]
    exact not_breaks_literal rfl
  | _ =>
    unfold Fault.message quotedByFault
    exact iff_of_false (not_breaks_literal rfl) List.not_mem_nil

/-! ### Faults of targets -/

lemma not_breaks_description (e : Expr) : ¬ Breaks e.description := by
  unfold Expr.description
  split <;> exact not_breaks_literal rfl

lemma not_breaks_verb (use : TargetUse) : ¬ Breaks use.verb := by
  cases use <;> exact not_breaks_literal rfl

lemma not_breaks_impossible (use : TargetUse) (e : Expr) :
    ¬ Breaks (TargetFault.impossible use e.description).message := by
  change ¬ Breaks ("cannot " ++ use.verb ++ " " ++ e.description)
  rw [breaks_before _ (not_breaks_description e), breaks_before, breaks_after]
  · exact not_breaks_verb use
  all_goals exact not_breaks_literal rfl

lemma not_breaks_debugName (use : TargetUse) : ¬ Breaks (TargetFault.debugName use).message := by
  change ¬ Breaks ("cannot " ++ use.verb ++ " __debug__")
  rw [breaks_before, breaks_after]
  · exact not_breaks_verb use
  all_goals exact not_breaks_literal rfl

lemma not_breaks_annotatedSequence {description : String} (h : ¬ Breaks description) :
    ¬ Breaks (TargetFault.annotatedSequence description).message := by
  change ¬ Breaks ("only single target (not " ++ description ++ ") can be annotated")
  rw [breaks_before, breaks_before _ h]
  all_goals exact not_breaks_literal rfl

lemma not_breaks_of_some {fault : TargetFault} {start : Nat} {d : TargetDiagnosis}
    (h : some ⟨fault, start⟩ = some d) (hfault : ¬ Breaks fault.message) :
    ¬ Breaks d.value.message := by
  obtain rfl := Option.some.inj h
  exact hfault

lemma not_breaks_nameFault {use : TargetUse} {start : Nat} {id : String} {d : TargetDiagnosis}
    (h : Expr.nameFault? use start id = some d) : ¬ Breaks d.value.message := by
  unfold Expr.nameFault? at h
  by_cases hid : id = "__debug__"
  · rw [if_pos hid] at h
    exact not_breaks_of_some h (not_breaks_debugName use)
  · rw [if_neg hid] at h
    cases h

mutual

lemma not_breaks_targetFault {use : TargetUse} {e : Expr} {d : TargetDiagnosis}
    (h : e.targetFault? use = some d) : ¬ Breaks d.value.message := by
  unfold Expr.targetFault? at h
  split at h
  · cases h
  · cases h
  · exact not_breaks_nameFault h
  · exact not_breaks_sequenceFault h
  · exact not_breaks_sequenceFault h
  · cases use with
    | store => exact not_breaks_of_some h (not_breaks_literal rfl)
    | delete => exact not_breaks_of_some h (not_breaks_literal rfl)
  · exact not_breaks_of_some h (not_breaks_impossible use e)

lemma not_breaks_sequenceFault {use : TargetUse} {seen : Bool} {elements : List Expr}
    {d : TargetDiagnosis} (h : Expr.sequenceFault? use seen elements = some d) :
    ¬ Breaks d.value.message := by
  unfold Expr.sequenceFault? at h
  split at h
  · cases h
  · cases use with
    | delete => exact not_breaks_of_some h (not_breaks_literal rfl)
    | store =>
      dsimp only at h
      split at h
      · exact not_breaks_of_some h (not_breaks_literal rfl)
      · rw [Option.orElse_eq_orElse, Option.orElse_eq_or, Option.or_eq_some_iff] at h
        rcases h with h | ⟨_, h⟩
        · exact not_breaks_targetFault h
        · exact not_breaks_sequenceFault h
  · rw [Option.orElse_eq_orElse, Option.orElse_eq_or, Option.or_eq_some_iff] at h
    rcases h with h | ⟨_, h⟩
    · exact not_breaks_targetFault h
    · exact not_breaks_sequenceFault h

end

lemma not_breaks_augmentedFault {e : Expr} {d : TargetDiagnosis} (h : e.augmentedFault? = some d) :
    ¬ Breaks d.value.message := by
  unfold Expr.augmentedFault? at h
  split at h
  · cases h
  · cases h
  · exact not_breaks_nameFault h
  · refine not_breaks_of_some h ?_
    change ¬ Breaks ("'" ++ e.description ++
      "' is an illegal expression for augmented assignment")
    rw [breaks_before, breaks_before _ (not_breaks_description e)]
    all_goals exact not_breaks_literal rfl

lemma not_breaks_annotatedFault {e : Expr} {d : TargetDiagnosis} (h : e.annotatedFault? = some d) :
    ¬ Breaks d.value.message := by
  unfold Expr.annotatedFault? at h
  split at h
  · cases h
  · cases h
  · exact not_breaks_nameFault h
  · exact not_breaks_of_some h
      (not_breaks_annotatedSequence (not_breaks_literal rfl))
  · exact not_breaks_of_some h
      (not_breaks_annotatedSequence (not_breaks_literal rfl))
  · exact not_breaks_of_some h (not_breaks_literal rfl)

lemma not_breaks_target {t : Target} {d : TargetDiagnosis} (h : t.fault? = some d) :
    ¬ Breaks d.value.message := by
  cases t with
  | stored value => exact not_breaks_targetFault h
  | deleted value => exact not_breaks_targetFault h
  | augmented value => exact not_breaks_augmentedFault h
  | annotated value => exact not_breaks_annotatedFault h

lemma mem_of_earliest {α : Type} {l : List (Located α)} {d : Located α} (h : earliest l = some d) :
    d ∈ l := by
  induction l generalizing d with
  | nil => cases h
  | cons a rest ih =>
    rw [earliest] at h
    cases hrest : earliest rest with
    | none =>
      rw [hrest, earlier] at h
      obtain rfl := Option.some.inj h
      exact List.mem_cons_self
    | some b =>
      rw [hrest, earlier] at h
      by_cases hlt : b.offset < a.offset
      · rw [if_pos hlt] at h
        obtain rfl := Option.some.inj h
        exact List.mem_cons_of_mem _ (ih hrest)
      · rw [if_neg hlt] at h
        obtain rfl := Option.some.inj h
        exact List.mem_cons_self

lemma not_breaks_firstInvalid {module : List Stmt} {d : TargetDiagnosis}
    (h : firstInvalid? module = some d) : ¬ Breaks d.value.message := by
  obtain ⟨t, _, ht⟩ := List.mem_filterMap.mp (mem_of_earliest h)
  exact not_breaks_target ht

/-! ### Faults of files -/

/-- What the message about a file quotes. -/
def quotedByFile : FileFault → List Char
  | .rejected ⟨.grammar fault, _, _⟩ => quotedByFault fault
  | _ => []

lemma breaks_rejection_iff (r : Rejection) : Breaks r.text ↔ Breaks r.message := by
  unfold Rejection.text
  rw [breaks_before, breaks_before _ (not_breaks_number _), breaks_before,
    breaks_before _ (not_breaks_number _), breaks_before]
  all_goals exact not_breaks_literal rfl

lemma not_breaks_unreadable (error : ReadError) : ¬ Breaks (FileFault.unreadable error).text := by
  unfold FileFault.text
  rw [breaks_after (not_breaks_literal rfl)]
  cases error with
  | refused error => cases error <;> exact not_breaks_literal rfl
  | nulInPath => exact not_breaks_literal rfl
  | notText => exact not_breaks_literal rfl

lemma append_ne_empty {a b : String} (h : a ≠ "" ∨ b ≠ "") : a ++ b ≠ "" := by
  rw [ne_eq, String.append_eq_empty_iff, not_and_or]
  exact h

/-- Every message has words of its own, so none is told as an unknown error. -/
lemma text_ne_empty (fault : FileFault) : fault.text ≠ "" := by
  cases fault with
  | unreadable error => exact append_ne_empty (.inl (by decide))
  | rejected r => exact append_ne_empty (.inr (by decide))

lemma reported_eq_text (fault : FileFault) : fault.reported = fault.text :=
  if_neg (text_ne_empty fault)

lemma breaks_checkSource_iff [CharacterNames] {text : List Char} {r : Rejection}
    (h : checkSource text = .error r) :
    Breaks r.text ↔ '\n' ∈ quotedByFile (.rejected r) := by
  rw [breaks_rejection_iff]
  unfold checkSource at h
  cases hparse : parseModule text with
  | error d =>
    rw [hparse] at h
    obtain rfl := Except.error.inj h
    exact breaks_message_iff d.value
  | ok module =>
    rw [hparse] at h
    dsimp only at h
    cases htarget : firstInvalid? module with
    | none => simp [htarget] at h
    | some d =>
      rw [htarget] at h
      obtain rfl := Except.error.inj h
      exact iff_of_false (not_breaks_firstInvalid htarget) List.not_mem_nil

/-- The message about a file that does not pass spreads over several lines exactly if what it quotes
from the file does. -/
theorem breaks_reported_iff [CharacterNames] {fs : FileSystem} {path : String} {fault : FileFault}
    (h : checkFile fs path = .error fault) :
    Breaks fault.reported ↔ '\n' ∈ quotedByFile fault := by
  rw [reported_eq_text]
  unfold checkFile at h
  cases hread : fs.readText path with
  | error error =>
    rw [hread] at h
    obtain rfl := Except.error.inj h
    exact iff_of_false (not_breaks_unreadable error) List.not_mem_nil
  | ok text =>
    rw [hread] at h
    dsimp only at h
    cases hcheck : checkSource (dropByteOrderMark text) with
    | ok u => simp [hcheck] at h
    | error r =>
      rw [hcheck] at h
      obtain rfl := Except.error.inj h
      exact breaks_checkSource_iff hcheck

end SyntaxCheck.Proofs
