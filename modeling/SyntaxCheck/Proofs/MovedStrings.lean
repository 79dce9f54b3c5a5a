import Mathlib.Tactic
import SyntaxCheck.Grammar.StringContent
import SyntaxCheck.Proofs.LexedPieces
import SyntaxCheck.Proofs.MovedParsers

/-!
# The content of moved strings

Whether the content of a string is well formed does not depend on where the string stands. The
fields of a formatted string are expressions of their own, whose offsets are counted from the
beginning of the string: they move along if the string moves as a whole.
-/

namespace SyntaxCheck.Proofs

open StringContent Location

variable {f : Nat → Nat} {S T : Cursor → Cursor → Prop}

/-! ### Readers in step -/

/-- Related cursors have the same content before them, and stay related over each character. -/
structure InStep (S : Cursor → Cursor → Prop) : Prop where
  rest : ∀ c c', S c c' → c'.rest = c.rest
  take : ∀ x rest o o', S ⟨x :: rest, o⟩ ⟨x :: rest, o'⟩ →
    S ⟨rest, o + x.utf8Size⟩ ⟨rest, o' + x.utf8Size⟩

/-- Wherever they are, cursors have the same content before them. -/
def SameRest (c c' : Cursor) : Prop := c'.rest = c.rest

lemma inStep_sameRest : InStep SameRest :=
  ⟨fun _ _ h => h, fun _ _ _ _ _ => rfl⟩

lemma alike_take (hS : InStep S) : Alike S S Eq take take := by
  rintro ⟨rest, o⟩ ⟨rest', o'⟩ h
  have hrest : rest' = rest := hS.rest _ _ h
  subst hrest
  cases rest' with
  | nil => exact .ok rfl h
  | cons x rest => exact .ok rfl (hS.take x rest o o' h)

lemma alike_peek (hS : InStep S) : Alike S S Eq peek peek := by
  intro c c' h
  refine .ok ?_ h
  rw [hS.rest c c' h]

lemma alike_remaining (hS : InStep S) : Alike S S Eq remaining remaining := by
  intro c c' h
  refine .ok ?_ h
  rw [hS.rest c c' h]

/-- Where a fault would be told does not matter. -/
lemma alike_here : Alike S S (fun _ _ => True) here here :=
  fun _ _ h => .ok trivial h

section Escapes

lemma alike_hexDigits (hS : InStep S) (origin origin' n value : Nat) :
    Alike S S Eq (hexDigits origin n value) (hexDigits origin' n value) := by
  induction n generalizing value with
  | zero => exact .pure rfl
  | succ n ih =>
    refine (alike_take hS).bind fun x _ h => ?_
    subst h
    split
    · exact ih _
    · exact .error rfl rfl

lemma alike_numberEscape (hS : InStep S) (n : Nat) :
    Alike S S Eq (numberEscape n) (numberEscape n) := by
  refine alike_here.bind fun origin origin' _ => ?_
  refine (alike_hexDigits hS origin origin' n 0).bind fun value _ h => ?_
  subst h
  exact .ite (fun _ => .error rfl rfl) fun _ => .pure rfl

lemma alike_untilBrace (hS : InStep S) (fuel : Nat) :
    Alike S S Eq (untilBrace fuel) (untilBrace fuel) := by
  induction fuel with
  | zero => exact .error rfl rfl
  | succ fuel ih =>
    refine (alike_take hS).bind fun x _ h => ?_
    subst h
    split
    · exact .error rfl rfl
    · exact .pure rfl
    · refine ih.bind fun name _ h => ?_
      exact .pure (by rw [h])

variable [CharacterNames]

lemma alike_nameEscape (hS : InStep S) : Alike S S Eq nameEscape nameEscape := by
  refine alike_here.bind fun origin origin' _ => (alike_take hS).bind fun x _ h => ?_
  subst h
  refine .ite (fun _ => Alike.error_bind rfl rfl) fun _ => ?_
  refine alike_here.bind fun origin origin' _ => (alike_remaining hS).bind fun n _ h => ?_
  subst h
  refine (alike_untilBrace hS _).bind fun name _ h => ?_
  subst h
  refine .ite (fun _ => Alike.error_bind rfl rfl) fun _ => ?_
  exact .ite (fun _ => .error rfl rfl) fun _ => .pure rfl

lemma alike_escape (hS : InStep S) (inBytes : Bool) :
    Alike S S Eq (escape inBytes) (escape inBytes) := by
  refine (alike_take hS).bind fun x _ h => ?_
  subst h
  split
  · exact .error rfl rfl
  · exact alike_numberEscape hS 2
  · refine .ite (fun _ => .ite (fun _ => .error rfl rfl) fun _ => .pure rfl) fun _ => ?_
    refine .ite (fun _ => alike_numberEscape hS 4) fun _ => ?_
    refine .ite (fun _ => alike_numberEscape hS 8) fun _ => ?_
    exact .ite (fun _ => alike_nameEscape hS) fun _ => .pure rfl

lemma alike_plainContent (hS : InStep S) (form : StringForm) (fuel : Nat) :
    Alike S S Eq (plainContent form fuel) (plainContent form fuel) := by
  induction fuel with
  | zero => exact .pure rfl
  | succ fuel ih =>
    refine (alike_take hS).bind fun x _ h => ?_
    subst h
    split
    · exact .pure rfl
    · refine .ite (fun _ => (alike_escape hS _).bind fun _ _ _ => ih) fun _ => ?_
      exact .ite (fun _ => Alike.error_bind rfl rfl) fun _ => ih

end Escapes

/-! ### Readers inside a steady part -/

/-- A place in content from `low` on and before `high`, and the same place moved. -/
structure ReadsMoved (f : Nat → Nat) (low high : Nat) (c c' : Cursor) : Prop where
  rest : c'.rest = c.rest
  offset : c'.offset = f c.offset
  low : low ≤ c.offset
  high : c.offset + width c.rest ≤ high

/-- Such a place with a certain character before it. -/
def ReadsMovedNext (f : Nat → Nat) (low high : Nat) (x : Char) (c c' : Cursor) : Prop :=
  ReadsMoved f low high c c' ∧ c.rest.head? = some x

/-- A field as far as it is read, moved. -/
def movedField (f : Nat → Nat) (d : FieldDraft) : FieldDraft :=
  { d with spec := d.spec.map (movedExpr f) }

section Steady

variable {base low high : Nat} {α β : Type} {rel : α → β → Prop}

/-- Reading goes on from a later place. -/
lemma readsMoved_after (hf : SteadyOn f base high) (hbase : base ≤ low) {x : Char}
    {rest : List Char} {o o' : Nat} (h : ReadsMoved f low high ⟨x :: rest, o⟩ ⟨x :: rest, o'⟩) :
    ReadsMoved f (low + x.utf8Size) high ⟨rest, o + x.utf8Size⟩ ⟨rest, o' + x.utf8Size⟩ := by
  have hlow : low ≤ o := h.low
  have hoffset : o' = f o := h.offset
  have hhigh : o + (x.utf8Size + width rest) ≤ high := h.high
  refine ⟨rfl, ?_, ?_, ?_⟩
  · dsimp only
    rw [hoffset, hf o x.utf8Size (by omega) (by omega)]
  · dsimp only
    omega
  · dsimp only
    omega

lemma readsMoved_mono {low' : Nat} (hlow : low' ≤ low) {c c' : Cursor}
    (h : ReadsMoved f low high c c') : ReadsMoved f low' high c c' :=
  ⟨h.rest, h.offset, hlow.trans h.low, h.high⟩

lemma inStep_readsMoved (hf : SteadyOn f base high) (hbase : base ≤ low) :
    InStep (ReadsMoved f low high) :=
  ⟨fun _ _ h => h.rest, fun _ _ _ _ h =>
    readsMoved_mono (Nat.le_add_right _ _) (readsMoved_after hf hbase h)⟩

lemma alike_take_bind (hf : SteadyOn f base high) (hbase : base ≤ low)
    {k : Option Char → Reader α} {l : Option Char → Reader β}
    (hnone : Alike (ReadsMoved f low high) T rel (k none) (l none))
    (hsome : ∀ x, Alike (ReadsMoved f (low + x.utf8Size) high) T rel (k (some x)) (l (some x))) :
    Alike (ReadsMoved f low high) T rel (take >>= k) (take >>= l) := by
  rintro ⟨rest, o⟩ ⟨rest', o'⟩ h
  have hrest : rest' = rest := h.rest
  subst hrest
  cases rest' with
  | nil => exact hnone _ _ h
  | cons x rest => exact hsome x _ _ (readsMoved_after hf hbase h)

lemma alike_peek_bind {k : Option Char → Reader α} {l : Option Char → Reader β}
    (hnone : Alike (ReadsMoved f low high) T rel (k none) (l none))
    (hsome : ∀ x, Alike (ReadsMovedNext f low high x) T rel (k (some x)) (l (some x))) :
    Alike (ReadsMoved f low high) T rel (peek >>= k) (peek >>= l) := by
  rintro ⟨rest, o⟩ ⟨rest', o'⟩ h
  have hrest : rest' = rest := h.rest
  subst hrest
  cases rest' with
  | nil => exact hnone _ _ h
  | cons x rest => exact hsome x _ _ ⟨h, rfl⟩

lemma alike_takeNext_bind (hf : SteadyOn f base high) (hbase : base ≤ low) {x : Char}
    {k : Option Char → Reader α} {l : Option Char → Reader β}
    (h : Alike (ReadsMoved f (low + x.utf8Size) high) T rel (k (some x)) (l (some x))) :
    Alike (ReadsMovedNext f low high x) T rel (take >>= k) (take >>= l) := by
  rintro ⟨rest, o⟩ ⟨rest', o'⟩ ⟨hreads, hnext⟩
  have hrest : rest' = rest := hreads.rest
  subst hrest
  obtain ⟨more, rfl⟩ := List.head?_eq_some_iff.mp hnext
  exact h _ _ (readsMoved_after hf hbase hreads)

lemma alike_here_bind {k : Nat → Reader α} {l : Nat → Reader β}
    (h : ∀ o, low ≤ o → Alike (ReadsMoved f o high) T rel (k o) (l (f o))) :
    Alike (ReadsMoved f low high) T rel (here >>= k) (here >>= l) := by
  rintro ⟨rest, o⟩ ⟨rest', o'⟩ hreads
  have hoffset : o' = f o := hreads.offset
  subst hoffset
  exact h o hreads.low _ _ ⟨hreads.rest, rfl, le_rfl, hreads.high⟩

/-- A character that belongs to what comes before it is taken at once. -/
lemma alike_takeIf (hf : SteadyOn f base high) (hbase : base ≤ low) (c : Prop) [Decidable c]
    (x : Char) {p q : Reader α} {p' q' : Reader β}
    (hp : Alike (ReadsMoved f (low + x.utf8Size) high) T rel p p')
    (hq : Alike (ReadsMoved f low high) T rel q q') :
    Alike (ReadsMoved f low high) T rel
      (peek >>= fun next => if c ∧ next = some x then take >>= fun _ => p else q)
      (peek >>= fun next => if c ∧ next = some x then take >>= fun _ => p' else q') := by
  refine alike_peek_bind ?_ fun y => .ite (fun hnext => ?_) fun _ => ?_
  · rw [if_neg (by simp), if_neg (by simp)]
    exact hq
  · obtain rfl : y = x := Option.some.inj hnext.2
    exact alike_takeNext_bind hf hbase hp
  · exact hq.mono (fun _ _ h => h.1) fun _ _ h => h

/-! ### Fields -/

/-- The expression in a field moves with its text, if the text moves as a whole with the characters
around it. -/
def ParsesMoved (f : Nat → Nat) (parse : ParseText) : Prop :=
  ∀ origin text, 0 < origin → SteadyOn f (origin - 1) (origin + width text + 1) →
    Verdicts (fun a b => moved f a = b) (parse origin text) (parse (f origin) text)

lemma steadyOn_mono (hf : SteadyOn f base high) {base' high' : Nat} (hbase : base ≤ base')
    (hhigh : high' ≤ high) : SteadyOn f base' high' :=
  fun o k ho hk => hf o k (hbase.trans ho) (hk.trans hhigh)

lemma alike_conversion (hf : SteadyOn f base high) (hbase : base ≤ low) :
    Alike (ReadsMoved f low high) (ReadsMoved f low high) Eq conversion conversion := by
  have hS := inStep_readsMoved hf hbase
  refine (alike_take hS).bind fun x _ h => ?_
  subst h
  cases x with
  | none => exact Alike.error_bind rfl rfl
  | some x =>
    refine .ite (fun _ => Alike.error_bind rfl rfl) fun _ => (alike_peek hS).bind fun y _ h => ?_
    subst h
    split
    · exact .pure rfl
    · exact .pure rfl
    · exact .error rfl rfl

lemma alike_quotedPart_bind (hf : SteadyOn f base high) {origin : Nat} (horigin : base ≤ origin)
    (quote : Char) {k : FieldDraft → Reader α} {l : FieldDraft → Reader β}
    (hk : ∀ d low, origin + width d.textReversed ≤ low →
      Alike (ReadsMoved f low high) T rel (k d) (l (movedField f d)))
    (fuel : Nat) (d : FieldDraft) (hlow : origin + width d.textReversed ≤ low) :
    Alike (ReadsMoved f low high) T rel (quotedPart quote fuel d >>= k)
      (quotedPart quote fuel (movedField f d) >>= l) := by
  induction fuel generalizing d low with
  | zero => exact Alike.error_bind rfl rfl
  | succ fuel ih =>
    rw [quotedPart, quotedPart, bind_assoc, bind_assoc]
    refine alike_take_bind hf (by omega) (Alike.error_bind rfl rfl) fun c => ?_
    have hpush : origin + width (d.push c).textReversed ≤ low + c.utf8Size := by
      change origin + (c.utf8Size + width d.textReversed) ≤ low + c.utf8Size
      omega
    by_cases hc : c = quote
    · simp only [hc, if_true, pure_bind]
      exact hk _ _ (hc ▸ hpush)
    · simp only [hc, if_false]
      exact ih (d.push c) hpush

/-- What is nested in a field moves with the characters around it, wherever it begins. -/
def NestedMoved (f : Nat → Nat) (base high : Nat) (nested : Reader (List Expr)) : Prop :=
  ∀ low, base ≤ low →
    Alike (ReadsMoved f low high) (ReadsMoved f low high) (fun a b => moved f a = b) nested nested

variable {nested : Reader (List Expr)}

lemma alike_specification (hf : SteadyOn f base high)
    (hnested : NestedMoved f base high nested)
    (hbase : base ≤ low) (fuel : Nat) :
    Alike (ReadsMoved f low high) (ReadsMoved f low high) (fun a b => moved f a = b)
      (specification nested fuel) (specification nested fuel) := by
  have hS := inStep_readsMoved hf hbase
  induction fuel with
  | zero => exact .pure rfl
  | succ fuel ih =>
    refine (alike_peek hS).bind fun x _ h => ?_
    subst h
    split
    · exact .pure rfl
    · exact .pure rfl
    · refine (hnested low hbase).bind fun values _ h => ih.bind fun more _ hmore => .pure ?_
      rw [← h, ← hmore, moved_list, List.map_append]
    · exact (alike_take hS).bind fun _ _ _ => ih

/-- A format specification, and what is read of the field after it. -/
lemma alike_specification_bind (hf : SteadyOn f base high)
    (hnested : NestedMoved f base high nested)
    (hbase : base ≤ low) (d : FieldDraft) {more : FieldDraft → Reader α}
    {more' : FieldDraft → Reader β}
    (hmore : ∀ spec low', low ≤ low' → Alike (ReadsMoved f low' high) T rel
      (more { d with spec }) (more' (movedField f { d with spec }))) :
    Alike (ReadsMoved f low high) T rel
      (here >>= fun start => remaining >>= fun n => specification nested (n + 1) >>= fun values =>
        more { d with spec := some (.formatted start values) })
      (here >>= fun start => remaining >>= fun n => specification nested (n + 1) >>= fun values =>
        more' { movedField f d with spec := some (.formatted start values) }) := by
  refine alike_here_bind fun start hstart => ?_
  have hlate : base ≤ start := hbase.trans hstart
  refine (alike_remaining (inStep_readsMoved hf hlate)).bind fun n _ h => ?_
  subst h
  refine (alike_specification hf hnested hlate _).bind fun values _ h => ?_
  have hspec : movedField f { d with spec := some (.formatted start values) } =
      { movedField f d with spec := some (.formatted (f start) (moved f values)) } := by
    simp [movedField, movedExpr]
  rw [← h, ← hspec]
  exact hmore _ start hstart

variable {parse : ParseText} {origin : Nat}

lemma width_reverse (text : List Char) : width text.reverse = width text := by
  induction text with
  | nil => rfl
  | cons c text ih =>
    rw [List.reverse_cons, width_append, ih, width, width, width]
    omega

lemma alike_finishField (hf : SteadyOn f base high) (hparse : ParsesMoved f parse)
    (horigin : base < origin) (d : FieldDraft) (hlow : origin + width d.textReversed + 1 ≤ low) :
    Alike (ReadsMoved f low high) (ReadsMoved f base high) (fun a b => moved f a = b)
      (finishField parse origin d) (finishField parse (f origin) (movedField f d)) := by
  intro c c' h
  have hinside : origin + width d.textReversed.reverse + 1 ≤ high := by
    have hlow' := h.low
    have hhigh := h.high
    rw [width_reverse]
    omega
  have hverdict := hparse origin d.textReversed.reverse (Nat.zero_lt_of_lt horigin)
    (steadyOn_mono hf (Nat.le_sub_one_of_lt horigin) hinside)
  have hfield : Alike (ReadsMoved f base high) (ReadsMoved f base high) (fun a b => moved f a = b)
      (finishField parse origin d) (finishField parse (f origin) (movedField f d)) := by
    have htext : (movedField f d).textReversed = d.textReversed := rfl
    refine .ite (fun _ => Alike.error_bind rfl rfl) fun _ => ?_
    rw [htext]
    revert hverdict
    generalize parse origin d.textReversed.reverse = first
    generalize parse (f origin) d.textReversed.reverse = second
    intro hverdict
    cases hverdict with
    | error fault fault' => exact .error rfl rfl
    | ok hvalue =>
      subst hvalue
      exact .pure (by simp [movedField, movedExpr])
  exact hfield c c' (readsMoved_mono (by omega) h)

lemma alike_fieldFrom (hf : SteadyOn f base high) (hparse : ParsesMoved f parse)
    (hnested : NestedMoved f base high nested)
    (horigin : base < origin) (fuel : Nat) (d : FieldDraft)
    (hlow : origin + width d.textReversed ≤ low) :
    Alike (ReadsMoved f low high) (ReadsMoved f base high) (fun a b => moved f a = b)
      (fieldFrom parse nested origin fuel d)
      (fieldFrom parse nested (f origin) fuel (movedField f d)) := by
  induction fuel generalizing d low with
  | zero => exact .error rfl rfl
  | succ fuel ih =>
    refine alike_take_bind hf (by omega) (.error rfl rfl) fun c => ?_
    have hpos := c.utf8Size_pos
    have hbase : base ≤ low + c.utf8Size := by omega
    have hkeep : origin + width d.textReversed ≤ low + c.utf8Size := by omega
    have hpush : origin + width (d.push c).textReversed ≤ low + c.utf8Size := by
      change origin + (c.utf8Size + width d.textReversed) ≤ low + c.utf8Size
      omega
    have hS := inStep_readsMoved hf hbase
    refine alike_takeIf hf hbase _ _ ?_ ?_
    · refine ih ((d.push c).push '=') ?_
      change origin + (Char.utf8Size '=' + (c.utf8Size + width d.textReversed)) ≤ _
      omega
    refine .ite (fun _ => ?_) fun _ => ?_
    · refine .ite (fun _ => Alike.error_bind rfl rfl) fun _ => ?_
      exact (alike_conversion hf hbase).bind fun _ _ _ => ih d hkeep
    refine .ite (fun _ => ih { d with ended := true } hkeep) fun _ => ?_
    refine .ite (fun _ => ?_) fun _ => ?_
    · refine alike_specification_bind hf hnested hbase d fun spec low' hlow' => ?_
      exact ih { d with spec } (hkeep.trans hlow')
    refine .ite (fun _ => ih { d.push c with brackets := c :: d.brackets } hpush) fun _ => ?_
    refine .ite (fun _ => alike_finishField hf hparse horigin d (by omega)) fun _ => ?_
    refine .ite (fun _ => ?_) fun _ => ?_
    · have hbrackets : (movedField f d).brackets = d.brackets := rfl
      rw [hbrackets]
      cases d.brackets with
      | nil => exact .error rfl rfl
      | cons top outer =>
        exact .ite (fun _ => ih { d.push c with brackets := outer } hpush) fun _ => .error rfl rfl
    refine .ite (fun _ => ?_) fun _ => ?_
    · exact alike_quotedPart_bind hf horigin.le c (fun d low h => ih d h) fuel (d.push c) hpush
    refine .ite (fun _ => .error rfl rfl) fun _ => ?_
    refine .ite (fun _ => ih (d.push c) hpush) fun _ => ?_
    exact .ite (fun _ => ih d hkeep) fun _ => .error rfl rfl

/-! ### Formatted text -/

variable [CharacterNames]

lemma alike_formattedFrom (hf : SteadyOn f base high) (hparse : ParsesMoved f parse)
    (hnested : NestedMoved f base high nested)
    (raw inField : Bool) (hbase : base ≤ low) (fuel : Nat) :
    Alike (ReadsMoved f low high) (ReadsMoved f low high) (fun a b => moved f a = b)
      (formattedFrom parse nested raw inField fuel)
      (formattedFrom parse nested raw inField fuel) := by
  have hS := inStep_readsMoved hf hbase
  induction fuel with
  | zero => exact .pure rfl
  | succ fuel ih =>
    refine alike_peek_bind (.pure rfl) fun x => ?_
    have hlater : low ≤ low + x.utf8Size := Nat.le_add_right _ _
    have hpos := x.utf8Size_pos
    have hafter := inStep_readsMoved hf (hbase.trans hlater)
    have hmore := ih.mono (fun _ _ h => readsMoved_mono hlater h) fun _ _ h => h
    have hend : Alike (ReadsMovedNext f low high x) (ReadsMoved f low high)
        (fun a b => moved f a = b) (Pure.pure ([] : List Expr)) (Pure.pure []) :=
      fun _ _ h => .ok rfl h.1
    split
    · exact hend
    · refine alike_takeNext_bind hf hbase ((alike_peek hafter).bind fun next _ h => ?_)
      subst h
      refine .ite (fun _ => (alike_take hafter).bind fun _ _ _ => hmore) fun _ => ?_
      refine .ite (fun _ => .error rfl rfl) fun _ => alike_here_bind fun start hstart => ?_
      refine (alike_remaining (inStep_readsMoved hf (by omega))).bind fun n _ h => ?_
      subst h
      have hfield := alike_fieldFrom (steadyOn_mono hf hbase le_rfl) hparse
        (fun low' hlow' => hnested low' (hbase.trans hlow')) (by omega : low < start) (n + 1) {}
        le_rfl
      refine hfield.bind fun value _ h => ih.bind fun values _ hvalues => .pure ?_
      rw [← h, ← hvalues]
      rfl
    · refine .ite (fun _ => hend) fun _ => ?_
      refine alike_takeNext_bind hf hbase ((alike_peek hafter).bind fun next _ h => ?_)
      subst h
      exact .ite (fun _ => (alike_take hafter).bind fun _ _ _ => hmore) fun _ => .error rfl rfl
    · refine alike_takeNext_bind hf hbase ((alike_peek hafter).bind fun next _ h => ?_)
      subst h
      exact .ite (fun _ => (alike_escape hafter false).bind fun _ _ _ => hmore) fun _ => hmore
    · exact alike_takeNext_bind hf hbase hmore

lemma alike_formatted (hf : SteadyOn f base high) (hparse : ParsesMoved f parse)
    (raw inField : Bool) (levels : Nat) (hbase : base ≤ low) :
    Alike (ReadsMoved f low high) (ReadsMoved f low high) (fun a b => moved f a = b)
      (formatted parse raw inField levels) (formatted parse raw inField levels) := by
  induction levels generalizing inField low with
  | zero => exact .error rfl rfl
  | succ levels ih =>
    refine (alike_remaining (inStep_readsMoved hf hbase)).bind fun n _ h => ?_
    subst h
    exact alike_formattedFrom hf hparse (fun low hlow => ih true hlow) raw inField hbase _

end Steady

/-! ### String literals -/

variable [CharacterNames]

lemma verdicts_fields {parse : ParseText} (hparse : ParsesMoved f parse) {start : Nat}
    {s : StringLiteral} (hs : Carries f start s) :
    Verdicts (fun a b => moved f a = b) (fields parse start s) (fields parse (f start) s) := by
  unfold fields
  dsimp only
  by_cases hform : s.form.isFormatted = true
  · rw [if_pos hform, if_pos hform]
    have hsteady := hs hform
    have hle : start ≤ contentStart start s := by
      rw [contentStart]
      omega
    have hstart : contentStart (f start) s = f (contentStart start s) := by
      have hmove := hsteady start (s.form.letters.length + if s.triple then 3 else 1) le_rfl
        (by rw [contentStart]; omega)
      rw [contentStart, contentStart, Nat.add_assoc, Nat.add_assoc, hmove]
    have hformatted := alike_formatted hsteady hparse s.form.isRaw false 2 le_rfl
    have hboth := hformatted ⟨s.content, contentStart start s⟩ ⟨s.content, contentStart (f start) s⟩
      ⟨rfl, hstart, hle, le_rfl⟩
    exact hboth.verdicts.map fun _ _ h => h.1
  · rw [if_neg hform, if_neg hform]
    have hboth := alike_plainContent inStep_sameRest s.form s.content.length
      ⟨s.content, contentStart start s⟩ ⟨s.content, contentStart (f start) s⟩ rfl
    exact hboth.verdicts.map fun _ _ _ => rfl

lemma verdicts_mapM {parse : ParseText} (hparse : ParsesMoved f parse)
    {parts : List (Nat × StringLiteral)} (hparts : ∀ p ∈ parts, Carries f p.1 p.2) :
    Verdicts (fun a b => moved f a = b) (parts.mapM fun p => fields parse p.1 p.2)
      ((parts.map (Prod.map f id)).mapM fun p => fields parse p.1 p.2) := by
  induction parts with
  | nil => exact .ok rfl
  | cons p parts ih =>
    rw [List.map_cons, List.mapM_cons, List.mapM_cons]
    refine (verdicts_fields hparse (hparts p List.mem_cons_self)).bind fun values _ h => ?_
    subst h
    refine (ih fun q hq => hparts q (List.mem_cons_of_mem p hq)).bind fun more _ h => ?_
    subst h
    exact .ok rfl

/-- Adjacent string literals denote the moved expression, if those that are formatted move as a
whole. -/
theorem verdicts_stringExpr {parse : ParseText} (hparse : ParsesMoved f parse) (hzero : f 0 = 0)
    {parts : List (Nat × StringLiteral)} (hparts : ∀ p ∈ parts, Carries f p.1 p.2) :
    Verdicts (fun a b => moved f a = b) (stringExpr parse parts)
      (stringExpr parse (parts.map (Prod.map f id))) := by
  have hstart : (((parts.map (Prod.map f id)).head?).map (·.1)).getD 0 =
      f ((parts.head?.map (·.1)).getD 0) := by
    cases parts with
    | nil => exact hzero.symm
    | cons p parts => rfl
  have hvalues := verdicts_mapM hparse hparts
  unfold stringExpr
  dsimp only
  rw [hstart]
  simp only [List.any_map, List.all_map, Function.comp_def, Prod.map_snd, id]
  split
  · exact .error _ _
  · refine hvalues.bind fun values _ h => ?_
    subst h
    split
    · exact .ok (by simp [movedExpr, List.map_flatten])
    · exact .ok rfl

end SyntaxCheck.Proofs
