import Mathlib.Tactic
import SyntaxCheck.Proofs.MovedTrees
import SyntaxCheck.Proofs.ParserLayers

/-!
# Parsers on moved tokens

Parsers copy offsets from tokens into trees and never look at them. So a parser that is given the
same tokens at other offsets accepts if it accepted before, and makes the moved tree. What is stated
first holds of two computations with a state in general: they do alike if they both fail or both
succeed, with results and states that are related.
-/

namespace SyntaxCheck.Proofs

/-! ### Computations that do alike -/

section Alike

variable {σ α β γ δ : Type} {S S' T T' U : σ → σ → Prop}

/-- Both outcomes are faults, or both are results, with states, that are related. -/
inductive Outcomes (T : σ → σ → Prop) (rel : α → β → Prop) :
    Except Diagnosis (α × σ) → Except Diagnosis (β × σ) → Prop
  | error (d d' : Diagnosis) : Outcomes T rel (.error d) (.error d')
  | ok {a : α} {b : β} {s s' : σ} (hresult : rel a b) (hstate : T s s') :
    Outcomes T rel (.ok (a, s)) (.ok (b, s'))

/-- Started in states that are related in one way, two computations have outcomes with states that
are related in another. -/
def Alike (S T : σ → σ → Prop) (rel : α → β → Prop) (p : StateT σ (Except Diagnosis) α)
    (q : StateT σ (Except Diagnosis) β) : Prop :=
  ∀ s s', S s s' → Outcomes T rel (p s) (q s')

variable {rel : α → β → Prop} {next : γ → δ → Prop}
  {p p' : StateT σ (Except Diagnosis) α} {q q' : StateT σ (Except Diagnosis) β}

lemma Outcomes.cases_eq {first : Except Diagnosis (α × σ)} {second : Except Diagnosis (β × σ)}
    (h : Outcomes T rel first second) :
    (∃ d d', first = .error d ∧ second = .error d') ∨
      ∃ a b s s', first = .ok (a, s) ∧ second = .ok (b, s') ∧ rel a b ∧ T s s' := by
  cases h with
  | error d d' => exact .inl ⟨d, d', rfl, rfl⟩
  | ok hresult hstate => exact .inr ⟨_, _, _, _, rfl, rfl, hresult, hstate⟩

lemma Alike.mono (h : Alike S T rel p q) (hS : ∀ s s', S' s s' → S s s')
    (hT : ∀ s s', T s s' → T' s s') : Alike S' T' rel p q := by
  intro s s' hs
  rcases (h s s' (hS s s' hs)).cases_eq with
    ⟨d, d', hfirst, hsecond⟩ | ⟨a, b, t, t', hfirst, hsecond, hab, ht⟩
  · rw [hfirst, hsecond]
    exact .error d d'
  · rw [hfirst, hsecond]
    exact .ok hab (hT t t' ht)

lemma Alike.imp {rel' : α → β → Prop} (h : Alike S T rel p q)
    (hrel : ∀ a b, rel a b → rel' a b) : Alike S T rel' p q := by
  intro s s' hs
  rcases (h s s' hs).cases_eq with
    ⟨d, d', hfirst, hsecond⟩ | ⟨a, b, t, t', hfirst, hsecond, hab, ht⟩
  · rw [hfirst, hsecond]
    exact .error d d'
  · rw [hfirst, hsecond]
    exact .ok (hrel a b hab) ht

lemma Alike.pure {a : α} {b : β} (h : rel a b) : Alike S S rel (Pure.pure a) (Pure.pure b) :=
  fun _ _ hs => .ok h hs

lemma Alike.bind {k : α → StateT σ (Except Diagnosis) γ} {l : β → StateT σ (Except Diagnosis) δ}
    (hp : Alike S T rel p q) (hk : ∀ a b, rel a b → Alike T U next (k a) (l b)) :
    Alike S U next (p >>= k) (q >>= l) := by
  intro s s' hs
  change Outcomes U next (Except.bind (p s) fun r => k r.1 r.2)
    (Except.bind (q s') fun r => l r.1 r.2)
  rcases (hp s s' hs).cases_eq with
    ⟨d, d', hfirst, hsecond⟩ | ⟨a, b, t, t', hfirst, hsecond, hab, ht⟩
  · rw [hfirst, hsecond]
    exact .error d d'
  · rw [hfirst, hsecond]
    exact hk a b hab t t' ht

lemma Alike.map {g : α → γ} {g' : β → δ} (hp : Alike S T rel p q)
    (h : ∀ a b, rel a b → next (g a) (g' b)) : Alike S T next (g <$> p) (g' <$> q) := by
  rw [map_eq_pure_bind, map_eq_pure_bind]
  exact hp.bind fun a b hab => .pure (h a b hab)

lemma Alike.ite {c : Prop} [Decidable c] (hp : c → Alike S T rel p q)
    (hp' : ¬ c → Alike S T rel p' q') :
    Alike S T rel (if c then p else p') (if c then q else q') := by
  split
  · exact hp ‹_›
  · exact hp' ‹_›

/-- Faults need not be alike. -/
lemma Alike.error {d d' : σ → Diagnosis} (hp : p = fun s => .error (d s))
    (hq : q = fun s => .error (d' s)) : Alike S T rel p q := by
  subst hp hq
  exact fun s s' _ => .error (d s) (d' s')

/-- What would come after a fault does not matter. -/
lemma Alike.error_bind {k : α → StateT σ (Except Diagnosis) γ}
    {l : β → StateT σ (Except Diagnosis) δ} {d d' : σ → Diagnosis}
    (hp : p = fun s => .error (d s)) (hq : q = fun s => .error (d' s)) :
    Alike S T next (p >>= k) (q >>= l) := by
  subst hp hq
  exact fun s s' _ => .error (d s) (d' s')

end Alike

/-- Both checks fail, or both succeed with related results. -/
inductive Verdicts {α β : Type} (rel : α → β → Prop) :
    Except Diagnosis α → Except Diagnosis β → Prop
  | error (d d' : Diagnosis) : Verdicts rel (.error d) (.error d')
  | ok {a : α} {b : β} (h : rel a b) : Verdicts rel (.ok a) (.ok b)

lemma Verdicts.bind {α β γ δ : Type} {rel : α → β → Prop} {next : γ → δ → Prop}
    {r : Except Diagnosis α} {r' : Except Diagnosis β} {k : α → Except Diagnosis γ}
    {l : β → Except Diagnosis δ} (hr : Verdicts rel r r')
    (hk : ∀ a b, rel a b → Verdicts next (k a) (l b)) : Verdicts next (r >>= k) (r' >>= l) := by
  cases hr with
  | error d d' => exact .error d d'
  | ok h => exact hk _ _ h

lemma Verdicts.imp {α β : Type} {rel rel' : α → β → Prop} {r : Except Diagnosis α}
    {r' : Except Diagnosis β} (hr : Verdicts rel r r') (h : ∀ a b, rel a b → rel' a b) :
    Verdicts rel' r r' := by
  cases hr with
  | error d d' => exact .error d d'
  | ok hab => exact .ok (h _ _ hab)

lemma Verdicts.map {α β γ δ : Type} {rel : α → β → Prop} {next : γ → δ → Prop}
    {r : Except Diagnosis α} {r' : Except Diagnosis β} {g : α → γ} {g' : β → δ}
    (hr : Verdicts rel r r') (h : ∀ a b, rel a b → next (g a) (g' b)) :
    Verdicts next (r.map g) (r'.map g') := by
  cases hr with
  | error d d' => exact .error d d'
  | ok hab => exact .ok (h _ _ hab)

lemma Verdicts.ite {α β : Type} {rel : α → β → Prop} {c c' : Prop} [Decidable c] [Decidable c']
    {p q : Except Diagnosis α} {p' q' : Except Diagnosis β} (hc : c ↔ c')
    (hp : Verdicts rel p p') (hq : Verdicts rel q q') :
    Verdicts rel (if c then p else q) (if c' then p' else q') := by
  by_cases h : c
  · rwa [if_pos h, if_pos (hc.mp h)]
  · rwa [if_neg h, if_neg fun h' => h (hc.mpr h')]

lemma Outcomes.verdicts {σ α β : Type} {T : σ → σ → Prop} {rel : α → β → Prop}
    {first : Except Diagnosis (α × σ)} {second : Except Diagnosis (β × σ)}
    (h : Outcomes T rel first second) :
    Verdicts (fun a b => rel a.1 b.1 ∧ T a.2 b.2) first second := by
  cases h with
  | error d d' => exact .error d d'
  | ok hresult hstate => exact .ok ⟨hresult, hstate⟩

/-! ### What moves with a text -/

/-- Results of parsers, whose offsets can be moved. -/
class Movable (α : Type) where
  moved : (Nat → Nat) → α → α

export Movable (moved)

/-- Numbers among the results are offsets. -/
instance : Movable Nat := ⟨fun f o => f o⟩
instance : Movable Bool := ⟨fun _ b => b⟩
instance : Movable Unit := ⟨fun _ u => u⟩
instance : Movable String := ⟨fun _ s => s⟩
instance : Movable Token := ⟨fun _ t => t⟩
instance {α : Type} [Movable α] : Movable (Option α) := ⟨fun f => Option.map (moved f)⟩
instance {α : Type} [Movable α] : Movable (List α) := ⟨fun f => List.map (moved f)⟩
instance {α β : Type} [Movable α] [Movable β] : Movable (α × β) :=
  ⟨fun f => Prod.map (moved f) (moved f)⟩
instance : Movable Expr := ⟨movedExpr⟩
instance : Movable Clause := ⟨movedClause⟩
instance : Movable Argument := ⟨movedArgument⟩
instance : Movable Parameter := ⟨movedParameter⟩
instance : Movable Parameters := ⟨movedParameters⟩
instance : Movable TypeParameter := ⟨movedTypeParameter⟩
instance : Movable WithItem := ⟨movedItem⟩
instance : Movable Pattern := ⟨movedPattern⟩
instance : Movable Stmt := ⟨movedStmt⟩
instance : Movable Handler := ⟨movedHandler⟩
instance : Movable Case := ⟨movedCase⟩

section MovedResults

variable {α β : Type} [Movable α] [Movable β] (f : Nat → Nat)

@[simp] lemma moved_nat : (moved f : Nat → Nat) = f := rfl
@[simp] lemma moved_bool : (moved f : Bool → Bool) = id := rfl
@[simp] lemma moved_string : (moved f : String → String) = id := rfl
@[simp] lemma moved_option : (moved f : Option α → Option α) = Option.map (moved f) := rfl
@[simp] lemma moved_list : (moved f : List α → List α) = List.map (moved f) := rfl
@[simp] lemma moved_pair (a : α) (b : β) : moved f (a, b) = (moved f a, moved f b) := rfl
@[simp] lemma moved_expr : (moved f : Expr → Expr) = movedExpr f := rfl
@[simp] lemma moved_clause : (moved f : Clause → Clause) = movedClause f := rfl
@[simp] lemma moved_argument : (moved f : Argument → Argument) = movedArgument f := rfl
@[simp] lemma moved_parameter : (moved f : Parameter → Parameter) = movedParameter f := rfl
@[simp] lemma moved_parameters : (moved f : Parameters → Parameters) = movedParameters f := rfl
@[simp] lemma moved_typeParameter :
    (moved f : TypeParameter → TypeParameter) = movedTypeParameter f := rfl
@[simp] lemma moved_item : (moved f : WithItem → WithItem) = movedItem f := rfl
@[simp] lemma moved_pattern : (moved f : Pattern → Pattern) = movedPattern f := rfl
@[simp] lemma moved_stmt : (moved f : Stmt → Stmt) = movedStmt f := rfl
@[simp] lemma moved_handler : (moved f : Handler → Handler) = movedHandler f := rfl
@[simp] lemma moved_case : (moved f : Case → Case) = movedCase f := rfl

end MovedResults

/-! ### Moved feeds -/

variable {f : Nat → Nat}

/-- Between two offsets, texts are moved as a whole. -/
def SteadyOn (f : Nat → Nat) (low high : Nat) : Prop :=
  ∀ o k, low ≤ o → o + k ≤ high → f (o + k) = f o + k

/-- A token, moved. -/
def movedLexeme (f : Nat → Nat) (l : Lexeme) : Lexeme :=
  ⟨f l.start, l.token, f l.stop⟩

/-- Where the content of a string literal begins that starts at an offset. -/
def contentStart (start : Nat) (s : StringLiteral) : Nat :=
  start + s.form.letters.length + if s.triple then 3 else 1

/-- Formatted strings are moved as a whole: what their fields hold is looked for inside them. -/
def Carries (f : Nat → Nat) (start : Nat) (s : StringLiteral) : Prop :=
  s.form.isFormatted = true →
    SteadyOn f start (contentStart start s + Location.width s.content)

/-- A feed and the same feed moved. Faults need not be where they were. -/
structure Follows (f : Nat → Nat) (feed feed' : Feed) : Prop where
  lexemes : feed'.lexemes = feed.lexemes.map (movedLexeme f)
  strings : ∀ l ∈ feed.lexemes, ∀ s, l.token = .string s → Carries f l.start s
  fault : feed'.fault.isSome = feed.fault.isSome
  last : feed'.last = f feed.last

/-- On a moved feed the second parser has a result that is related to that of the first one. -/
abbrev ParsesAlike {α β : Type} (f : Nat → Nat) (rel : α → β → Prop) (p : Parser α)
    (q : Parser β) : Prop :=
  Alike (Follows f) (Follows f) rel p q

/-- On a moved feed the second parser does what the first one does, moved. -/
abbrev MovesWith {α : Type} [Movable α] (f : Nat → Nat) (p q : Parser α) : Prop :=
  ParsesAlike f (fun a b => moved f a = b) p q

/-- On a moved feed the second parser has the result of the first one. -/
abbrev Keeps {α : Type} (f : Nat → Nat) (p q : Parser α) : Prop :=
  ParsesAlike f Eq p q

section Basic

variable {α β γ : Type} {rel : β → γ → Prop}

lemma Keeps.bind {p q : Parser α} {k : α → Parser β} {l : α → Parser γ} (hp : Keeps f p q)
    (hk : ∀ a, ParsesAlike f rel (k a) (l a)) : ParsesAlike f rel (p >>= k) (q >>= l) :=
  Alike.bind hp fun a _ h => h ▸ hk a

lemma MovesWith.bind [Movable α] {p q : Parser α} {k : α → Parser β} {l : α → Parser γ}
    (hp : MovesWith f p q) (hk : ∀ a, ParsesAlike f rel (k a) (l (moved f a))) :
    ParsesAlike f rel (p >>= k) (q >>= l) :=
  Alike.bind hp fun a _ h => h ▸ hk a

lemma alike_refuse : ParsesAlike f rel Parser.refuse Parser.refuse :=
  .error rfl rfl

lemma nextToken_of_follows {feed feed' : Feed} (h : Follows f feed feed') :
    nextToken feed' = nextToken feed := by
  rw [nextToken, nextToken, h.lexemes, List.head?_map, Option.map_map]
  rfl

lemma length_of_follows {feed feed' : Feed} (h : Follows f feed feed') :
    feed'.lexemes.length = feed.lexemes.length := by
  rw [h.lexemes, List.length_map]

lemma alike_get : ParsesAlike f (Follows f) (get : Parser Feed) get :=
  fun _ _ h => .ok h h

lemma keeps_peek : Keeps f Parser.peek Parser.peek := by
  intro feed feed' h
  rw [peek_eq, peek_eq, nextToken_of_follows h]
  exact .ok rfl h

lemma keeps_peekSecond : Keeps f Parser.peekSecond Parser.peekSecond := by
  intro feed feed' h
  refine .ok ?_ h
  rw [h.lexemes, List.getElem?_map, Option.map_map]
  rfl

lemma movesWith_here : MovesWith f Parser.here Parser.here := by
  intro feed feed' h
  refine .ok ?_ h
  rw [h.lexemes, h.last]
  cases feed.lexemes <;> rfl

lemma keeps_skip : Keeps f Parser.skip Parser.skip := by
  rintro ⟨lexemes, fault, last⟩ ⟨lexemes', fault', last'⟩ h
  obtain rfl := h.lexemes
  cases lexemes with
  | nil => exact .error _ _
  | cons l rest =>
    exact .ok rfl ⟨rfl, fun m hm => h.strings m (List.mem_cons_of_mem l hm), h.fault, rfl⟩

lemma keeps_nextIs (t : Token) : Keeps f (Parser.nextIs t) (Parser.nextIs t) :=
  keeps_peek.bind fun _ => .pure rfl

lemma keeps_nextSatisfies (p : Token → Bool) :
    Keeps f (Parser.nextSatisfies p) (Parser.nextSatisfies p) :=
  keeps_peek.bind fun _ => .pure rfl

lemma keeps_skipIf (t : Token) : Keeps f (Parser.skipIf t) (Parser.skipIf t) :=
  (keeps_nextIs t).bind fun _ =>
    .ite (fun _ => keeps_skip.bind fun _ => .pure rfl) fun _ => .pure rfl

lemma keeps_expect (t : Token) : Keeps f (Parser.expect t) (Parser.expect t) :=
  (keeps_nextIs t).bind fun _ => .ite (fun _ => keeps_skip) fun _ => alike_refuse

lemma keeps_expectIndent : Keeps f Parser.expectIndent Parser.expectIndent :=
  (keeps_nextIs .indent).bind fun _ => .ite (fun _ => keeps_skip) fun _ => .error rfl rfl

lemma keeps_name : Keeps f Parser.name Parser.name := by
  refine keeps_peek.bind fun t => ?_
  split
  · exact keeps_skip.bind fun _ => .pure rfl
  · exact alike_refuse

lemma alike_outcome {r : Except Diagnosis β} {r' : Except Diagnosis γ} (h : Verdicts rel r r') :
    ParsesAlike f rel (Parser.outcome r) (Parser.outcome r') := by
  intro feed feed' hfeed
  cases h with
  | error d d' => exact .error d d'
  | ok h => exact .ok h hfeed

lemma alike_settle {r : Except Diagnosis β} {r' : Except Diagnosis γ} (follows : Token → Bool)
    (h : Verdicts rel r r') :
    ParsesAlike f rel (Parser.settle follows r) (Parser.settle follows r') :=
  (keeps_nextSatisfies follows).bind fun _ =>
    .ite (fun _ => alike_outcome h) fun _ => alike_refuse

end Basic

/-! ### Repetition -/

section Repetition

variable {α β : Type} {rel : α → β → Prop}

lemma alike_manyUpTo {item : Parser (Option α)} {item' : Parser (Option β)}
    (h : ParsesAlike f (Option.Rel rel) item item') (fuel : Nat) :
    ParsesAlike f (List.Forall₂ rel) (Parser.manyUpTo item fuel) (Parser.manyUpTo item' fuel) := by
  induction fuel with
  | zero => exact .pure .nil
  | succ fuel ih =>
    rw [Parser.manyUpTo, Parser.manyUpTo]
    refine Alike.bind h fun a b hab => ?_
    cases hab with
    | none => exact .pure .nil
    | some hab => exact Alike.bind ih fun _ _ hrest => .pure (.cons hab hrest)

lemma alike_many {item : Parser (Option α)} {item' : Parser (Option β)}
    (h : ParsesAlike f (Option.Rel rel) item item') :
    ParsesAlike f (List.Forall₂ rel) (Parser.many item) (Parser.many item') := by
  rw [Parser.many, Parser.many]
  refine Alike.bind h fun a b hab => ?_
  cases hab with
  | none => exact .pure .nil
  | some hab =>
    -- No more items are taken than there are tokens, and a moved feed has as many.
    refine alike_get.bind fun feed feed' hfeed => ?_
    rw [length_of_follows hfeed]
    exact Alike.bind (alike_manyUpTo h _) fun _ _ hrest => .pure (.cons hab hrest)

variable [Movable α]

lemma movesWith_many {item item' : Parser (Option α)} (h : MovesWith f item item') :
    MovesWith f (Parser.many item) (Parser.many item') := by
  have hitem : ParsesAlike f (Option.Rel fun a b => moved f a = b) item item' :=
    h.imp fun a b hab => by
      subst hab
      cases a with
      | none => exact .none
      | some a => exact .some rfl
  refine (alike_many hitem).imp fun as bs h => ?_
  have hmap := List.forall₂_map_left_iff.mpr h
  rwa [List.forall₂_eq_eq_eq] at hmap

lemma movesWith_after {item item' : Parser α} (mark : Token) (h : MovesWith f item item') :
    MovesWith f (Parser.after? mark item) (Parser.after? mark item') :=
  (keeps_skipIf mark).bind fun _ =>
    .ite (fun _ => h.bind fun _ => .pure rfl) fun _ => .pure rfl

lemma movesWith_afterComma {item item' : Parser α} (starts : Token → Bool)
    (h : MovesWith f item item') :
    MovesWith f (Parser.afterComma? starts item) (Parser.afterComma? starts item') := by
  refine (keeps_nextIs _).bind fun _ => keeps_peekSecond.bind fun _ => ?_
  exact .ite (fun _ => keeps_skip.bind fun _ => h.bind fun _ => .pure rfl) fun _ => .pure rfl

lemma movesWith_commaList {item item' : Parser α} (starts : Token → Bool)
    (h : MovesWith f item item') :
    MovesWith f (Parser.commaList starts item) (Parser.commaList starts item') := by
  refine h.bind fun first => ?_
  refine (movesWith_many (movesWith_afterComma starts h)).bind fun rest => ?_
  exact (keeps_skipIf _).bind fun _ => .pure rfl

lemma movesWith_strictCommaList {item item' : Parser α} (h : MovesWith f item item') :
    MovesWith f (Parser.strictCommaList item) (Parser.strictCommaList item') := by
  refine h.bind fun first => ?_
  exact (movesWith_many (movesWith_after _ h)).bind fun _ => .pure rfl

end Repetition

end SyntaxCheck.Proofs
