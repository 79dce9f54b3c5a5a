import Mathlib.Tactic
import SyntaxCheck.Target.Basic

/-!
# The grammar of targets

What can be stored to or deleted is given by a grammar: names, attributes, subscripts, and sequences
of these, in which one element may be starred if something is stored. `Expr.targetFault?` accepts
exactly what the grammar derives. What it refuses it blames on the first sub-expression that breaks
the grammar, in the order in which the sub-expressions are written: everything to the left of that
one, in every sequence around it, is as the grammar wants it.
-/

namespace SyntaxCheck.Proofs

/-! ### The grammar -/

/-- The forms of an expression that has elements. -/
inductive IsSequence : Expr → List Expr → Prop
  | tuple (start : Nat) (elements : List Expr) : IsSequence (.tuple start elements) elements
  | list (start : Nat) (elements : List Expr) : IsSequence (.list start elements) elements

mutual

/-- What can be stored to or deleted. -/
inductive IsTarget (use : TargetUse) : Expr → Prop
  | name {start id} (proper : id ≠ "__debug__") : IsTarget use (.name start id)
  | attribute (start : Nat) (value : Expr) (attr : String) :
      IsTarget use (.attribute start value attr)
  | subscript (start : Nat) (value index : Expr) : IsTarget use (.subscript start value index)
  | sequence {e elements} (form : IsSequence e elements) (each : ∀ x ∈ elements, IsElement use x)
      (stars : elements.countP Expr.isStarred ≤ 1) : IsTarget use e

/-- What can be an element of a sequence that is stored to or deleted. -/
inductive IsElement (use : TargetUse) : Expr → Prop
  | plain {e} (target : IsTarget use e) : IsElement use e
  | starred {start value} (store : use = .store) (target : IsTarget use value) :
      IsElement use (.starred start value)

end

/-- The expression breaks the grammar first at this sub-expression. -/
inductive BreaksFirstAt (use : TargetUse) : Expr → Expr → Prop
  | itself {e} (form : ∀ elements, ¬ IsSequence e elements) (unfit : ¬ IsTarget use e) :
      BreaksFirstAt use e e
  | element {e before x after b} (form : IsSequence e (before ++ x :: after))
      (left : ∀ y ∈ before, IsElement use y) (stars : before.countP Expr.isStarred ≤ 1)
      (plain : x.isStarred = false) (inside : BreaksFirstAt use x b) : BreaksFirstAt use e b
  | star {e before start value after}
      (form : IsSequence e (before ++ .starred start value :: after))
      (left : ∀ y ∈ before, IsElement use y) (stars : before.countP Expr.isStarred ≤ 1)
      (refused : use = .delete ∨ ∃ y ∈ before, y.isStarred = true) :
      BreaksFirstAt use e (.starred start value)
  | starred {e before start value after b}
      (form : IsSequence e (before ++ .starred start value :: after))
      (left : ∀ y ∈ before, IsElement use y) (store : use = .store)
      (first : ∀ y ∈ before, y.isStarred = false) (inside : BreaksFirstAt use value b) :
      BreaksFirstAt use e b

/-! ### Sub-expressions in order -/

/-- Where an expression stands in a target: for itself, or in a sequence after other elements. What
is starred stands for itself. -/
inductive TargetPlace
  | alone
  | after (before : List Expr)

/-- A sub-expression of a target with the place where it stands. -/
structure TargetPart where
  place : TargetPlace
  value : Expr

mutual

/-- The sub-expressions inside a target, each before those inside it, from left to right. -/
def partsInside : Expr → List TargetPart
  | .tuple _ elements | .list _ elements => partsOfAll [] elements
  | .starred _ value => ⟨.alone, value⟩ :: partsInside value
  | _ => []

/-- The sub-expressions of elements that stand in a sequence after others. -/
def partsOfAll (before : List Expr) : List Expr → List TargetPart
  | [] => []
  | e :: rest => ⟨.after before, e⟩ :: (partsInside e ++ partsOfAll (before ++ [e]) rest)

end

/-- The sub-expressions of a target in the order in which they are written, itself first. -/
def partsOf (e : Expr) : List TargetPart :=
  ⟨.alone, e⟩ :: partsInside e

/-- Why a star cannot stand in its place: it stands for itself, nothing is stored, or an element
before it has a star. -/
def starFault? (use : TargetUse) (start : Nat) : TargetPlace → Option TargetDiagnosis
  | .alone =>
    match use with
    | .store => some ⟨.starredAlone, start⟩
    | .delete => some ⟨.starredDeleted, start⟩
  | .after before =>
    match use with
    | .store => if before.any Expr.isStarred then some ⟨.severalStarred, start⟩ else none
    | .delete => some ⟨.starredDeleted, start⟩

/-- Why a sub-expression cannot stand in its place, whatever is inside it. -/
def TargetPart.fault? (use : TargetUse) (p : TargetPart) : Option TargetDiagnosis :=
  match p.value with
  | .attribute .. | .subscript .. | .tuple .. | .list .. => none
  | .name start id => Expr.nameFault? use start id
  | .starred start _ => starFault? use start p.place
  | e => some ⟨.impossible use e.description, e.start⟩

/-! ### The first part at fault -/

section Parts

variable {use : TargetUse}

lemma exists_of_isStarred {e : Expr} (h : e.isStarred = true) :
    ∃ start value, e = .starred start value := by
  cases e with
  | starred start value => exact ⟨start, value, rfl⟩
  | _ => cases h

/-- Only a star minds where it stands. -/
lemma fault_of_plain {e : Expr} (h : e.isStarred = false) (place : TargetPlace) :
    TargetPart.fault? use ⟨place, e⟩ = TargetPart.fault? use ⟨.alone, e⟩ := by
  cases e with
  | starred => cases h
  | _ => rfl

lemma sequenceFault_cons_plain {e : Expr} (h : e.isStarred = false) (seen : Bool)
    (rest : List Expr) :
    Expr.sequenceFault? use seen (e :: rest) =
      (e.targetFault? use).or (Expr.sequenceFault? use seen rest) := by
  rw [Expr.sequenceFault?, Option.orElse_eq_orElse, Option.orElse_eq_or]
  rintro start value rfl
  cases h

lemma findSome_cons_or (p : TargetPart) (parts : List TargetPart) :
    (p :: parts).findSome? (TargetPart.fault? use) =
      (p.fault? use).or (parts.findSome? (TargetPart.fault? use)) := by
  rw [List.findSome?_cons]
  cases p.fault? use <;> rfl

mutual

/-- What a check says of a target is what is wrong with the first of its parts with which something
is wrong. -/
lemma targetFault_eq_findSome (e : Expr) :
    e.targetFault? use = (partsOf e).findSome? (TargetPart.fault? use) := by
  rw [partsOf, findSome_cons_or]
  cases e with
  | tuple start elements => exact sequenceFault_eq_findSome [] elements
  | list start elements => exact sequenceFault_eq_findSome [] elements
  | starred start value => cases use <;> rfl
  | name start id => exact (Option.or_none).symm
  | _ => rfl
termination_by sizeOf e

lemma sequenceFault_eq_findSome (before elements : List Expr) :
    Expr.sequenceFault? use (before.any Expr.isStarred) elements =
      (partsOfAll before elements).findSome? (TargetPart.fault? use) := by
  cases elements with
  | nil => rfl
  | cons e rest =>
    have hrest := sequenceFault_eq_findSome (before ++ [e]) rest
    rw [List.any_append, List.any_cons, List.any_nil, Bool.or_false] at hrest
    rw [partsOfAll, findSome_cons_or, List.findSome?_append, ← hrest]
    cases hstar : e.isStarred with
    | true =>
      obtain ⟨start, value, rfl⟩ := exists_of_isStarred hstar
      have hvalue := targetFault_eq_findSome value
      rw [partsInside, ← partsOf, ← hvalue]
      cases use with
      | delete => rfl
      | store =>
        cases hseen : before.any Expr.isStarred with
        | true => simp [Expr.sequenceFault?, TargetPart.fault?, starFault?, hseen]
        | false => simp [Expr.sequenceFault?, TargetPart.fault?, starFault?, hseen]
    | false =>
      have hfirst := targetFault_eq_findSome e
      rw [partsOf, findSome_cons_or] at hfirst
      rw [fault_of_plain hstar, ← Option.or_assoc, ← hfirst, Bool.or_false,
        sequenceFault_cons_plain hstar]
termination_by sizeOf elements

end

lemma partsOfAll_append (before a b : List Expr) :
    partsOfAll before (a ++ b) = partsOfAll before a ++ partsOfAll (before ++ a) b := by
  induction a generalizing before with
  | nil => simp [partsOfAll]
  | cons e a ih =>
    simp [partsOfAll, ih]

end Parts

/-! ### What is accepted -/

section Accepted

variable {use : TargetUse}

lemma isTarget_sequence_iff {e : Expr} {elements : List Expr} (form : IsSequence e elements) :
    IsTarget use e ↔
      (∀ x ∈ elements, IsElement use x) ∧ elements.countP Expr.isStarred ≤ 1 := by
  constructor
  · intro h
    cases form <;> cases h with
    | sequence form each stars =>
      cases form
      exact ⟨each, stars⟩
  · rintro ⟨each, stars⟩
    exact .sequence form each stars

lemma not_isTarget_starred (start : Nat) (value : Expr) :
    ¬ IsTarget use (.starred start value) := by
  intro h
  cases h with
  | sequence form => cases form

lemma isElement_starred_iff (start : Nat) (value : Expr) :
    IsElement use (.starred start value) ↔ use = .store ∧ IsTarget use value := by
  constructor
  · intro h
    cases h with
    | plain target => exact absurd target (not_isTarget_starred start value)
    | starred store target => exact ⟨store, target⟩
  · rintro ⟨store, target⟩
    exact .starred store target

lemma isElement_plain_iff {e : Expr} (h : e.isStarred = false) :
    IsElement use e ↔ IsTarget use e := by
  constructor
  · intro helement
    cases helement with
    | plain target => exact target
    | starred => cases h
  · exact .plain

mutual

lemma targetFault_eq_none_iff (e : Expr) : e.targetFault? use = none ↔ IsTarget use e := by
  cases e with
  | name start id =>
    rw [Expr.targetFault?, Expr.nameFault?]
    · constructor
      · intro h
        exact .name (by simpa using h)
      · intro h
        cases h with
        | name proper => exact if_neg proper
        | sequence form => cases form
  | «attribute» start value attr => exact iff_of_true rfl (.attribute start value attr)
  | subscript start value index => exact iff_of_true rfl (.subscript start value index)
  | tuple start elements =>
    rw [Expr.targetFault?, isTarget_sequence_iff (.tuple start elements)]
    exact sequenceFault_eq_none_iff false elements
  | list start elements =>
    rw [Expr.targetFault?, isTarget_sequence_iff (.list start elements)]
    exact sequenceFault_eq_none_iff false elements
  | starred start value =>
    refine iff_of_false ?_ (not_isTarget_starred start value)
    cases use <;> exact Option.some_ne_none _
  | _ =>
    refine iff_of_false (Option.some_ne_none _) fun h => ?_
    cases h with
    | sequence form => cases form
termination_by sizeOf e

lemma sequenceFault_eq_none_iff (seen : Bool) (elements : List Expr) :
    Expr.sequenceFault? use seen elements = none ↔
      (∀ x ∈ elements, IsElement use x) ∧ elements.countP Expr.isStarred + seen.toNat ≤ 1 := by
  cases elements with
  | nil => cases seen <;> simp [Expr.sequenceFault?]
  | cons e rest =>
    rw [List.forall_mem_cons]
    cases hstar : e.isStarred with
    | true =>
      obtain ⟨start, value, rfl⟩ := exists_of_isStarred hstar
      have hvalue := targetFault_eq_none_iff value
      have hrest := sequenceFault_eq_none_iff true rest
      rw [isElement_starred_iff, List.countP_cons_of_pos hstar]
      cases use with
      | delete => simp [Expr.sequenceFault?]
      | store =>
        cases seen with
        | true => simp [Expr.sequenceFault?]
        | false => simp [Expr.sequenceFault?, hvalue, hrest, and_assoc]
    | false =>
      have hfirst := targetFault_eq_none_iff e
      have hrest := sequenceFault_eq_none_iff seen rest
      rw [sequenceFault_cons_plain hstar, Option.or_eq_none_iff, hfirst, hrest,
        isElement_plain_iff hstar, List.countP_cons_of_neg (by simp [hstar]), and_assoc]
termination_by sizeOf elements

end

end Accepted

/-! ### What is blamed -/

section Blamed

variable {use : TargetUse}

/-- The first sub-expression that cannot stand in its place. -/
def firstUnfit? (use : TargetUse) (parts : List TargetPart) : Option Expr :=
  (parts.find? fun p => (p.fault? use).isSome).map (·.value)

lemma firstUnfit_cons (p : TargetPart) (parts : List TargetPart) :
    firstUnfit? use (p :: parts) =
      if (p.fault? use).isSome then some p.value else firstUnfit? use parts := by
  unfold firstUnfit?
  rw [List.find?_cons]
  cases (p.fault? use).isSome <;> rfl

lemma firstUnfit_append (a b : List TargetPart) :
    firstUnfit? use (a ++ b) = (firstUnfit? use a).or (firstUnfit? use b) := by
  rw [firstUnfit?, List.find?_append, Option.map_or]
  rfl

lemma firstUnfit_eq_none_iff (parts : List TargetPart) :
    firstUnfit? use parts = none ↔ parts.findSome? (TargetPart.fault? use) = none := by
  rw [firstUnfit?, Option.map_eq_none_iff, List.findSome?_eq_none_iff, List.find?_eq_none]
  simp

lemma isTarget_iff_firstUnfit (e : Expr) :
    IsTarget use e ↔ firstUnfit? use (partsOf e) = none := by
  rw [← targetFault_eq_none_iff, targetFault_eq_findSome, firstUnfit_eq_none_iff]

/-- A star in a sequence is refused where nothing is stored and after another star. -/
lemma starred_fault_iff (before : List Expr) (start : Nat) (value : Expr) :
    (TargetPart.fault? use ⟨.after before, .starred start value⟩).isSome = true ↔
      use = .delete ∨ ∃ y ∈ before, y.isStarred = true := by
  cases use with
  | delete => exact iff_of_true rfl (Or.inl rfl)
  | store =>
    have hfault : TargetPart.fault? .store ⟨.after before, .starred start value⟩ =
        if before.any Expr.isStarred then some ⟨.severalStarred, start⟩ else none := rfl
    rw [hfault]
    cases hseen : before.any Expr.isStarred <;> simpa using hseen

lemma storeFirst_of_not_refused {before : List Expr}
    (h : ¬ (use = .delete ∨ ∃ y ∈ before, y.isStarred = true)) :
    use = .store ∧ ∀ y ∈ before, y.isStarred = false := by
  rw [not_or] at h
  refine ⟨?_, by simpa using h.2⟩
  cases use with
  | store => rfl
  | delete => exact absurd rfl h.1

/-- What is no sequence is at fault itself if anything is. -/
lemma breaksFirstAt_itself {e b : Expr} (form : ∀ elements, ¬ IsSequence e elements)
    (hparts : (TargetPart.fault? use ⟨.alone, e⟩).isSome = true ∨ partsInside e = [])
    (h : firstUnfit? use (partsOf e) = some b) : BreaksFirstAt use e b := by
  have hunfit : ¬ IsTarget use e := by
    rw [isTarget_iff_firstUnfit, h]
    exact Option.some_ne_none b
  rw [partsOf, firstUnfit_cons] at h
  rcases hparts with hfault | hnone
  · rw [if_pos hfault] at h
    obtain rfl := Option.some.inj h
    exact .itself form hunfit
  · rw [hnone] at h
    by_cases hfault : (TargetPart.fault? use ⟨.alone, e⟩).isSome = true
    · rw [if_pos hfault] at h
      obtain rfl := Option.some.inj h
      exact .itself form hunfit
    · rw [if_neg hfault] at h
      cases h

mutual

lemma breaksFirstAt_of_partsOf (e : Expr) {b : Expr}
    (h : firstUnfit? use (partsOf e) = some b) : BreaksFirstAt use e b := by
  cases e with
  | tuple start elements =>
    exact breaksFirstAt_of_partsOfAll [] elements (.tuple start elements) (by simp) (by simp) h
  | list start elements =>
    exact breaksFirstAt_of_partsOfAll [] elements (.list start elements) (by simp) (by simp) h
  | starred start value =>
    refine breaksFirstAt_itself (fun elements form => by cases form) (Or.inl ?_) h
    cases use <;> rfl
  | _ => exact breaksFirstAt_itself (fun elements form => by cases form) (Or.inr rfl) h
termination_by sizeOf e

lemma breaksFirstAt_of_partsOfAll {e : Expr} (before elements : List Expr) {b : Expr}
    (form : IsSequence e (before ++ elements)) (left : ∀ y ∈ before, IsElement use y)
    (stars : before.countP Expr.isStarred ≤ 1)
    (h : firstUnfit? use (partsOfAll before elements) = some b) : BreaksFirstAt use e b := by
  cases elements with
  | nil => cases h
  | cons x after =>
    have hform : IsSequence e ((before ++ [x]) ++ after) := by
      rwa [List.append_assoc, List.singleton_append]
    rw [partsOfAll, ← List.cons_append, firstUnfit_append, Option.or_eq_some_iff] at h
    cases hstar : x.isStarred with
    | true =>
      obtain ⟨start, value, rfl⟩ := exists_of_isStarred hstar
      by_cases hrefused : use = .delete ∨ ∃ y ∈ before, y.isStarred = true
      · rw [firstUnfit_cons, if_pos ((starred_fault_iff before start value).mpr hrefused)] at h
        obtain rfl : Expr.starred start value = b := by simpa using h
        exact .star form left stars hrefused
      · rw [firstUnfit_cons, if_neg (mt (starred_fault_iff before start value).mp hrefused)] at h
        obtain ⟨hstore, hfirst⟩ := storeFirst_of_not_refused hrefused
        rcases h with h | ⟨hfit, h⟩
        · exact .starred form left hstore hfirst (breaksFirstAt_of_partsOf value h)
        · have hx : IsElement use (.starred start value) :=
            .starred hstore ((isTarget_iff_firstUnfit value).mpr hfit)
          refine breaksFirstAt_of_partsOfAll _ after hform ?_ ?_ h
          · simpa [or_imp, forall_and] using ⟨left, hx⟩
          · have hnone : before.countP Expr.isStarred = 0 := by simpa using hfirst
            simp [List.countP_append, hnone, hstar]
    | false =>
      have hplace : firstUnfit? use (⟨.after before, x⟩ :: partsInside x) =
          firstUnfit? use (partsOf x) := by
        rw [partsOf, firstUnfit_cons, firstUnfit_cons, fault_of_plain hstar]
      rw [hplace] at h
      rcases h with h | ⟨hfit, h⟩
      · exact .element form left stars hstar (breaksFirstAt_of_partsOf x h)
      · have hx : IsElement use x := .plain ((isTarget_iff_firstUnfit x).mpr hfit)
        refine breaksFirstAt_of_partsOfAll _ after hform ?_ ?_ h
        · simpa [or_imp, forall_and] using ⟨left, hx⟩
        · simpa [List.countP_append, hstar] using stars
termination_by sizeOf elements

end

/-- After elements that fit, what is wrong with a sequence is what is wrong with the others. -/
lemma targetFault_after {e : Expr} {before rest : List Expr} (form : IsSequence e (before ++ rest))
    (left : ∀ y ∈ before, IsElement use y) (stars : before.countP Expr.isStarred ≤ 1) :
    e.targetFault? use = Expr.sequenceFault? use (before.any Expr.isStarred) rest := by
  have hfit : Expr.sequenceFault? use false before = none :=
    (sequenceFault_eq_none_iff false before).mpr ⟨left, stars⟩
  have hsequence : e.targetFault? use = Expr.sequenceFault? use false (before ++ rest) := by
    generalize before ++ rest = elements at form
    cases form <;> rfl
  have hbefore : Expr.sequenceFault? use false before = _ := sequenceFault_eq_findSome [] before
  have hall : Expr.sequenceFault? use false (before ++ rest) = _ :=
    sequenceFault_eq_findSome [] (before ++ rest)
  rw [hsequence, hall, partsOfAll_append, List.findSome?_append, ← hbefore, hfit, Option.none_or,
    List.nil_append, sequenceFault_eq_findSome]

lemma offset_of_nameFault {start : Nat} {id : String} {d : TargetDiagnosis}
    (h : Expr.nameFault? use start id = some d) : d.offset = start := by
  unfold Expr.nameFault? at h
  split at h
  · obtain rfl := Option.some.inj h
    rfl
  · cases h

lemma offset_of_starFault {start : Nat} {place : TargetPlace} {d : TargetDiagnosis}
    (h : starFault? use start place = some d) : d.offset = start := by
  unfold starFault? at h
  split at h
  · split at h <;> exact (Option.some.inj h) ▸ rfl
  · split at h
    · split at h
      · exact (Option.some.inj h) ▸ rfl
      · cases h
    · exact (Option.some.inj h) ▸ rfl

lemma offset_of_fault {p : TargetPart} {d : TargetDiagnosis} (h : p.fault? use = some d) :
    d.offset = p.value.start := by
  obtain ⟨place, e⟩ := p
  cases e with
  | name start id => exact offset_of_nameFault h
  | starred start value => exact offset_of_starFault h
  | «attribute» => cases h
  | subscript => cases h
  | tuple => cases h
  | list => cases h
  | _ => exact (Option.some.inj h) ▸ rfl

/-- What is no sequence is the first of its parts that can be at fault. -/
lemma targetFault_of_no_sequence {e : Expr} (form : ∀ elements, ¬ IsSequence e elements) :
    e.targetFault? use = TargetPart.fault? use ⟨.alone, e⟩ := by
  cases e with
  | tuple start elements => exact absurd (.tuple start elements) (form elements)
  | list start elements => exact absurd (.list start elements) (form elements)
  | _ => rfl

lemma sequenceFault_refused {before after : List Expr} (start : Nat) (value : Expr)
    (h : use = .delete ∨ ∃ y ∈ before, y.isStarred = true) :
    (Expr.sequenceFault? use (before.any Expr.isStarred) (.starred start value :: after)).map
      (·.offset) = some start := by
  cases use with
  | delete => rfl
  | store =>
    have hseen : before.any Expr.isStarred = true := by simpa using h
    rw [hseen]
    rfl

lemma sequenceFault_starred {before after : List Expr} (start : Nat) (value : Expr)
    (hstore : use = .store) (hfirst : ∀ y ∈ before, y.isStarred = false) :
    Expr.sequenceFault? use (before.any Expr.isStarred) (.starred start value :: after) =
      (value.targetFault? use).or (Expr.sequenceFault? use true after) := by
  have hseen : before.any Expr.isStarred = false := by simpa using hfirst
  rw [hseen, hstore]
  simp [Expr.sequenceFault?]

/-- The sub-expression at which the grammar is broken first is the one that is blamed. -/
lemma offset_of_breaksFirstAt {e b : Expr} (h : BreaksFirstAt use e b) :
    (e.targetFault? use).map (·.offset) = some b.start := by
  induction h with
  | @itself e form unfit =>
    cases hfault : e.targetFault? use with
    | none => exact absurd ((targetFault_eq_none_iff e).mp hfault) unfit
    | some d =>
      rw [targetFault_of_no_sequence form] at hfault
      exact congrArg some (offset_of_fault hfault)
  | @element e before x after b form left stars plain inside ih =>
    obtain ⟨d, hd, hoffset⟩ := Option.map_eq_some_iff.mp ih
    rw [targetFault_after form left stars, sequenceFault_cons_plain plain, hd, Option.some_or,
      Option.map_some, hoffset]
  | @star e before start value after form left stars refused =>
    rw [targetFault_after form left stars]
    exact sequenceFault_refused start value refused
  | @starred e before start value after b form left store first inside ih =>
    have hnone : before.countP Expr.isStarred = 0 := by simpa using first
    obtain ⟨d, hd, hoffset⟩ := Option.map_eq_some_iff.mp ih
    rw [targetFault_after form left (by omega), sequenceFault_starred start value store first, hd,
      Option.some_or, Option.map_some, hoffset]

end Blamed

/-! ### The verdict on a target -/

/-- What a check says of an expression, by the grammar and by the sub-expressions in order. -/
structure TargetVerdict (use : TargetUse) (e : Expr) : Prop where
  fits_iff : e.targetFault? use = none ↔ IsTarget use e
  blames_first : ∀ d, e.targetFault? use = some d → ∃ before p after,
    partsOf e = before ++ p :: after ∧ (∀ q ∈ before, q.fault? use = none) ∧
      p.fault? use = some d ∧ d.offset = p.value.start ∧ BreaksFirstAt use e p.value
  blames_only : ∀ b, BreaksFirstAt use e b →
    (e.targetFault? use).map (·.offset) = some b.start

/-- A check accepts exactly what the grammar of targets derives, and blames what it refuses on the
first sub-expression that breaks the grammar. -/
theorem target_check_follows_grammar (use : TargetUse) (e : Expr) : TargetVerdict use e := by
  refine ⟨targetFault_eq_none_iff e, ?_, fun b => offset_of_breaksFirstAt⟩
  intro d hd
  rw [targetFault_eq_findSome, List.findSome?_eq_some_iff] at hd
  obtain ⟨before, p, after, hparts, hp, hbefore⟩ := hd
  refine ⟨before, p, after, hparts, hbefore, hp, offset_of_fault hp, ?_⟩
  have hfirst : firstUnfit? use (partsOf e) = some p.value := by
    have hnone : before.find? (fun q => (q.fault? use).isSome) = none := by
      simpa [List.find?_eq_none] using hbefore
    rw [hparts, firstUnfit?, List.find?_append, hnone, Option.none_or,
      List.find?_cons_of_pos (by rw [hp]; rfl), Option.map_some]
  exact breaksFirstAt_of_partsOf e hfirst

/-- In `*a, [*b, *1], *c` the second star of the inner sequence is blamed: the star before that
sequence does not count in it, and neither what is under the blamed star nor what comes after the
sequence is reached. -/
example :
    Expr.targetFault? .store (.tuple 0 [.starred 0 (.name 1 "a"),
      .list 4 [.starred 5 (.name 6 "b"), .starred 9 (.literal 10 .number)],
      .starred 14 (.name 15 "c")]) = some ⟨.severalStarred, 9⟩ := by
  decide

end SyntaxCheck.Proofs
