import Mathlib.Tactic
import SyntaxCheck.Proofs.QuotedText
import SyntaxCheck.Proofs.TargetExposure

/-!
# The earliest unfit target

A pass over the targets of a module keeps the unfit one with the smallest offset so far, and of two
with the same offset the one it came upon first. What it is left with is what `firstInvalid?` picks
out of the whole listing. The offset of that one depends only on which targets the pass comes upon,
not on the order in which it does.
-/

namespace SyntaxCheck.Proofs

/-! ### Keeping the earliest -/

/-- Keep the fault of a target if there is none yet or if it stands before the one kept. -/
def record (first : Option TargetDiagnosis) (t : Target) : Option TargetDiagnosis :=
  match t.fault? with
  | none => first
  | some d => if first.all (d.offset < ·.offset) then some d else first

/-- What is kept of the targets, taken in this order. -/
def recordAll (order : List Target) : Option TargetDiagnosis :=
  order.foldl record none

/-- Of the targets seen, this is the fault with the smallest offset, and the first one of those that
share it. -/
inductive KeptFrom (seen : List Target) : Option TargetDiagnosis → Prop
  | nothing (fit : ∀ t ∈ seen, t.fault? = none) : KeptFrom seen none
  | fault {before after t d} (split : seen = before ++ t :: after) (unfit : t.fault? = some d)
      (smallest : ∀ u ∈ before, ∀ w, u.fault? = some w → d.offset < w.offset)
      (least : ∀ u ∈ after, ∀ w, u.fault? = some w → d.offset ≤ w.offset) :
      KeptFrom seen (some d)

/-! ### What is kept -/

lemma keptFrom_none_iff {seen : List Target} {first : Option TargetDiagnosis}
    (h : KeptFrom seen first) : first = none ↔ ∀ t ∈ seen, t.fault? = none := by
  cases h with
  | nothing fit => exact iff_of_true rfl fit
  | @fault before after t d split unfit _ _ =>
    refine iff_of_false (by simp) fun hfit => ?_
    rw [hfit t (by simp [split])] at unfit
    cases unfit

lemma keptFrom_mem {seen : List Target} {d : TargetDiagnosis} (h : KeptFrom seen (some d)) :
    ∃ t ∈ seen, t.fault? = some d := by
  cases h with
  | @fault before after t _ split unfit _ _ => exact ⟨t, by simp [split], unfit⟩

lemma keptFrom_le {seen : List Target} {d : TargetDiagnosis} (h : KeptFrom seen (some d))
    {u : Target} (hu : u ∈ seen) {w : TargetDiagnosis} (hw : u.fault? = some w) :
    d.offset ≤ w.offset := by
  cases h with
  | @fault before after t _ split unfit smallest least =>
    rw [split, List.mem_append, List.mem_cons] at hu
    rcases hu with hu | rfl | hu
    · exact (smallest u hu w hw).le
    · rw [unfit] at hw
      obtain rfl := Option.some.inj hw
      exact le_rfl
    · exact least u hu w hw

/-! ### Target by target -/

/-- A target whose fault stands no earlier than the one kept changes nothing. -/
lemma keptFrom_append_later {seen : List Target} {d : TargetDiagnosis} (h : KeptFrom seen (some d))
    {t : Target} (hlater : ∀ w, t.fault? = some w → d.offset ≤ w.offset) :
    KeptFrom (seen ++ [t]) (some d) := by
  cases h with
  | @fault before after kept _ split unfit smallest least =>
    have hsplit : seen ++ [t] = before ++ kept :: (after ++ [t]) := by simp [split]
    refine .fault hsplit unfit smallest fun u hu w hw => ?_
    rcases List.mem_append.mp hu with hu | hu
    · exact least u hu w hw
    · rw [List.mem_singleton.mp hu] at hw
      exact hlater w hw

lemma keptFrom_append_fit {seen : List Target} {first : Option TargetDiagnosis}
    (h : KeptFrom seen first) {t : Target} (hfit : t.fault? = none) :
    KeptFrom (seen ++ [t]) first := by
  cases first with
  | some d =>
    refine keptFrom_append_later h fun w hw => ?_
    rw [hfit] at hw
    cases hw
  | none =>
    cases h with
    | nothing fit =>
      refine .nothing fun u hu => ?_
      rcases List.mem_append.mp hu with hu | hu
      · exact fit u hu
      · rw [List.mem_singleton.mp hu, hfit]

/-- A fault that stands before all those seen is the one to keep. -/
lemma keptFrom_append_earlier {seen : List Target} {t : Target} {d : TargetDiagnosis}
    (hfault : t.fault? = some d)
    (hearlier : ∀ u ∈ seen, ∀ w, u.fault? = some w → d.offset < w.offset) :
    KeptFrom (seen ++ [t]) (some d) :=
  .fault rfl hfault hearlier (by simp)

lemma keptFrom_record {seen : List Target} {first : Option TargetDiagnosis}
    (h : KeptFrom seen first) (t : Target) : KeptFrom (seen ++ [t]) (record first t) := by
  unfold record
  cases hfault : t.fault? with
  | none => exact keptFrom_append_fit h hfault
  | some d =>
    dsimp only
    cases first with
    | none =>
      have hfit := (keptFrom_none_iff h).mp rfl
      refine keptFrom_append_earlier hfault fun u hu w hw => ?_
      rw [hfit u hu] at hw
      cases hw
    | some d' =>
      by_cases hlt : d.offset < d'.offset
      · -- The new one stands before the one kept, which stands before none of the others.
        rw [if_pos (by simpa using hlt)]
        exact keptFrom_append_earlier hfault fun u hu w hw => hlt.trans_le (keptFrom_le h hu hw)
      · rw [if_neg (by simpa using hlt)]
        refine keptFrom_append_later h fun w hw => ?_
        rw [hfault] at hw
        obtain rfl := Option.some.inj hw
        omega

lemma keptFrom_foldl {seen : List Target} {first : Option TargetDiagnosis}
    (h : KeptFrom seen first) (rest : List Target) :
    KeptFrom (seen ++ rest) (rest.foldl record first) := by
  induction rest generalizing seen first with
  | nil => simpa using h
  | cons t rest ih =>
    have hnext := ih (keptFrom_record h t)
    rwa [List.append_assoc, List.singleton_append] at hnext

theorem keptFrom_recordAll (order : List Target) : KeptFrom order (recordAll order) := by
  have hnothing : KeptFrom [] none := .nothing (by simp)
  exact keptFrom_foldl hnothing order

/-! ### Any order -/

/-- The same targets in whatever order, some of them perhaps more than once, leave an offset that is
the same. -/
lemma keptFrom_offset_eq {seen other : List Target} {a b : Option TargetDiagnosis}
    (ha : KeptFrom seen a) (hb : KeptFrom other b) (hmem : ∀ t, t ∈ seen ↔ t ∈ other) :
    a.map (·.offset) = b.map (·.offset) := by
  have hnone : a = none ↔ b = none := by
    rw [keptFrom_none_iff ha, keptFrom_none_iff hb]
    simp only [hmem]
  cases a with
  | none => rw [hnone.mp rfl]
  | some d =>
    cases b with
    | none => cases hnone.mpr rfl
    | some e =>
      obtain ⟨t, ht, hd⟩ := keptFrom_mem ha
      obtain ⟨u, hu, he⟩ := keptFrom_mem hb
      have hle := keptFrom_le ha ((hmem u).mpr hu) he
      have hge := keptFrom_le hb ((hmem t).mp ht) hd
      exact congrArg some (le_antisymm hle hge)

/-! ### The earliest of the whole listing -/

lemma earlier_none_right {α : Type} (a : Option (Located α)) : earlier a none = a := by
  cases a <;> rfl

lemma earlier_assoc {α : Type} (a b c : Option (Located α)) :
    earlier (earlier a b) c = earlier a (earlier b c) := by
  cases c with
  | none => rw [earlier_none_right, earlier_none_right]
  | some c =>
    cases b with
    | none => rw [earlier_none_right, earlier]
    | some b =>
      cases a with
      | none => rfl
      | some a =>
        by_cases hba : b.offset < a.offset
        · by_cases hcb : c.offset < b.offset
          · have hca : c.offset < a.offset := hcb.trans hba
            simp only [earlier, hba, hcb, hca, if_true]
          · simp only [earlier, hba, hcb, if_true, if_false]
        · by_cases hcb : c.offset < b.offset
          · simp only [earlier, hba, hcb, if_true, if_false]
          · have hca : ¬ c.offset < a.offset := by omega
            simp only [earlier, hba, hcb, hca, if_false]

lemma record_eq_earlier (first : Option TargetDiagnosis) (t : Target) :
    record first t = earlier first t.fault? := by
  unfold record
  cases t.fault? with
  | none => rw [earlier_none_right]
  | some d =>
    cases first with
    | none => rfl
    | some a => simp [earlier]

lemma foldl_record_eq (order : List Target) (first : Option TargetDiagnosis) :
    order.foldl record first = earlier first (earliest (order.filterMap Target.fault?)) := by
  induction order generalizing first with
  | nil => exact (earlier_none_right first).symm
  | cons t rest ih =>
    rw [List.foldl_cons, ih, record_eq_earlier, earlier_assoc]
    cases hfault : t.fault? with
    | none => rw [List.filterMap_cons_none hfault]; rfl
    | some d => rw [List.filterMap_cons_some hfault, earliest]

lemma recordAll_eq_earliest (order : List Target) :
    recordAll order = earliest (order.filterMap Target.fault?) :=
  foldl_record_eq order none

/-- Targets that are come upon later count if they stand earlier. -/
lemma recordAll_append (before after : List Target) :
    recordAll (before ++ after) = earlier (recordAll before) (recordAll after) := by
  rw [recordAll, List.foldl_append, foldl_record_eq, recordAll_eq_earliest after, recordAll]

lemma firstInvalid_eq_recordAll (module : List Stmt) :
    firstInvalid? module = recordAll (targetsOfBlock module) :=
  (recordAll_eq_earliest _).symm

lemma firstInvalid_eq_none_iff {module : List Stmt} :
    firstInvalid? module = none ↔ ∀ t, ExposedIn module t → t.fault? = none := by
  rw [firstInvalid_eq_recordAll, keptFrom_none_iff (keptFrom_recordAll _)]
  simp only [mem_targetsOfBlock_iff_exposedIn]

/-! ### The report of a module -/

/-- What is reported of the targets of a module that the pass comes upon. -/
structure EarliestReport (module : List Stmt) (first : Option TargetDiagnosis) : Prop where
  none_iff : first = none ↔ ∀ t, ExposedIn module t → t.fault? = none
  is_verdict : ∀ d, first = some d → ∃ t, OccursIn module t ∧ ExposedIn module t ∧
    t.fault? = some d
  least : ∀ d, first = some d → ∀ t, ExposedIn module t → ∀ w, t.fault? = some w →
    d.offset ≤ w.offset
  any_order : ∀ order : List Target, (∀ t, t ∈ order ↔ ExposedIn module t) →
    (recordAll order).map (·.offset) = first.map (·.offset)
  first_of_equal : ∀ d, first = some d → ∃ before t after,
    targetsOfBlock module = before ++ t :: after ∧ t.fault? = some d ∧
      ∀ u ∈ before, ∀ w, u.fault? = some w → d.offset < w.offset

/-- A module is reported for the unfit target with the smallest offset, in whatever order its
targets are come upon, and for the first one of those that share it. -/
theorem firstInvalid_is_earliest (module : List Stmt) :
    firstInvalid? module = recordAll (targetsOfBlock module) ∧
      EarliestReport module (firstInvalid? module) := by
  have hkept : KeptFrom (targetsOfBlock module) (firstInvalid? module) := by
    rw [firstInvalid_eq_recordAll]
    exact keptFrom_recordAll _
  have hexposed : ∀ t, t ∈ targetsOfBlock module ↔ ExposedIn module t :=
    fun t => mem_targetsOfBlock_iff_exposedIn
  refine ⟨firstInvalid_eq_recordAll module, firstInvalid_eq_none_iff, ?_, ?_, ?_, ?_⟩
  · intro d hd
    obtain ⟨t, ht, hfault⟩ := keptFrom_mem (hd ▸ hkept)
    have ht := (hexposed t).mp ht
    exact ⟨t, occursIn_of_exposedIn ht, ht, hfault⟩
  · intro d hd t ht w hw
    exact keptFrom_le (hd ▸ hkept) ((hexposed t).mpr ht) hw
  · intro order horder
    refine keptFrom_offset_eq (keptFrom_recordAll order) hkept fun t => ?_
    rw [horder, hexposed]
  · intro d hd
    cases hd ▸ hkept with
    | @fault before after t _ split unfit smallest _ =>
      exact ⟨before, t, after, split, unfit, smallest⟩

end SyntaxCheck.Proofs
