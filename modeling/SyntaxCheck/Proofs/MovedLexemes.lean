import Mathlib.Tactic
import SyntaxCheck.Proofs.LineEnds
import SyntaxCheck.Proofs.MovedExpressions
import SyntaxCheck.Proofs.MovedLetters

/-!
# Texts of moved letters

The lexer reads the same tokens from letters at other offsets, and moves them. That holds of texts
whose letters are joined: each one begins where the one before it ends, and only letters that end a
line may come to take more or fewer bytes.
-/

namespace SyntaxCheck.Proofs

open Lexer Location

variable {f : Nat → Nat} {ends : Prop} {finish : Nat} {text : List Letter}

/-! ### Joined letters -/

/-- Letters without a gap between them. They move as a whole, except perhaps those that end a line.
-/
inductive Joined (f : Nat → Nat) (ends : Prop) (finish : Nat) : List Letter → Prop
  | nil : Joined f ends finish []
  | cons {l : Letter} {rest : List Letter} (hsize : l.start + l.char.utf8Size ≤ l.stop)
    (hplain : l.char ≠ '\n' → l.stop = l.start + l.char.utf8Size)
    (hsteady : l.char ≠ '\n' ∨ ends → SteadyOn f l.start l.stop)
    (hnext : Letter.offset finish rest = l.stop) (hrest : Joined f ends finish rest) :
    Joined f ends finish (l :: rest)

lemma steadyOn_self (o : Nat) : SteadyOn f o o := by
  intro p k hp hk
  obtain rfl : k = 0 := by omega
  rfl

lemma SteadyOn.trans {low middle high : Nat} (hlow : SteadyOn f low middle)
    (hhigh : SteadyOn f middle high) : SteadyOn f low high := by
  intro o k ho hk
  by_cases hbefore : o + k ≤ middle
  · exact hlow o k ho hbefore
  by_cases hafter : middle ≤ o
  · exact hhigh o k hafter hk
  have hfirst := hlow o (middle - o) ho (by omega)
  have hsecond := hhigh middle (o + k - middle) le_rfl (by omega)
  rw [Nat.add_sub_cancel' (by omega)] at hfirst hsecond
  omega

lemma Joined.suffix {rest : List Letter} (h : Joined f ends finish text) (hsuffix : rest <:+ text) :
    Joined f ends finish rest := by
  obtain ⟨used, rfl⟩ := hsuffix
  induction used with
  | nil => exact h
  | cons l used ih =>
    cases h with
    | cons _ _ _ _ hrest => exact ih hrest

/-- What letters spell takes no more bytes than they do, and moves with them. -/
lemma Joined.spells {rest : List Letter} {chars : List Char} (h : Joined f ends finish text)
    (hspells : Spells text chars rest) :
    Letter.offset finish text + width chars ≤ Letter.offset finish rest ∧
      ('\n' ∉ chars ∨ ends →
        SteadyOn f (Letter.offset finish text) (Letter.offset finish rest)) := by
  obtain ⟨used, rfl, rfl⟩ := hspells
  induction used with
  | nil => exact ⟨le_rfl, fun _ => steadyOn_self _⟩
  | cons l used ih =>
    rw [List.cons_append] at h
    cases h with
    | cons hsize hplain hsteady hnext hrest =>
      obtain ⟨hle, hmoves⟩ := ih hrest
      rw [hnext] at hle hmoves
      have hoffset : Letter.offset finish (l :: (used ++ rest)) = l.start := rfl
      rw [List.cons_append, hoffset, List.map_cons, width]
      refine ⟨by omega, fun hends => ?_⟩
      rw [List.mem_cons, not_or] at hends
      have hfirst := hsteady (hends.imp_left fun h => Ne.symm h.1)
      exact hfirst.trans (hmoves (hends.imp_left And.right))

/-! ### Strings in joined letters -/

lemma length_of_ofLetters {front : List Char} {form : StringForm}
    (h : StringForm.ofLetters? front = some form) :
    front.length = form.letters.length ∧ '\n' ∉ front := by
  have hlower : '\n' ∈ front → '\n' ∈ front.map Char.toLower :=
    fun hmem => List.mem_map.mpr ⟨'\n', hmem, rfl⟩
  have hlength : (front.map Char.toLower).length = front.length := List.length_map _
  rw [StringForm.ofLetters?] at h
  split at h
  case h_10 => cases h
  all_goals
    rename_i heq
    rw [heq] at hlower hlength
    cases h
    exact ⟨hlength.symm, fun hmem => absurd (hlower hmem) (by decide)⟩

lemma contentStart_of_writtenAs {s : StringLiteral} {chars : List Char} (h : WrittenAs s chars)
    (start : Nat) : contentStart start s + width s.content ≤ start + width chars := by
  obtain ⟨front, quote, hform, -⟩ := h
  have hfront := length_le_width front
  have hquotes := length_le_width (quotesOf s.triple quote)
  rw [(length_of_ofLetters hform).1] at hfront
  rw [quotesOf, List.length_replicate] at hquotes
  rw [contentStart, width_append, width_append, width_append, quotesOf]
  omega

lemma lineFeed_not_mem_of_writtenAs {s : StringLiteral} {chars : List Char} (h : WrittenAs s chars)
    (hcontent : '\n' ∉ s.content) : '\n' ∉ chars := by
  obtain ⟨front, quote, hform, hquote⟩ := h
  have hquotes : '\n' ∉ quotesOf s.triple quote := by
    intro hmem
    rw [← List.eq_of_mem_replicate hmem] at hquote
    exact absurd hquote (by decide)
  simp [(length_of_ofLetters hform).2, hquotes, hcontent]

/-- Strings without line ends move as a whole, and all strings do if line ends do. -/
def StringsMove (f : Nat → Nat) (ends : Prop) (lexemes : List Lexeme) : Prop :=
  ∀ l ∈ lexemes, ∀ s, l.token = .string s → '\n' ∉ s.content ∨ ends →
    SteadyOn f l.start (contentStart l.start s + width s.content)

lemma stringsMove_nil : StringsMove f ends [] :=
  fun _ hl => absurd hl List.not_mem_nil

lemma StringsMove.append {first second : List Lexeme} (hfirst : StringsMove f ends first)
    (hsecond : StringsMove f ends second) : StringsMove f ends (first ++ second) :=
  fun l hl => (List.mem_append.mp hl).elim (hfirst l) (hsecond l)

lemma stringsMove_of_ne {lexemes : List Lexeme} (h : ∀ l ∈ lexemes, ∀ s, l.token ≠ .string s) :
    StringsMove f ends lexemes :=
  fun l hl s hs => absurd hs (h l hl s)

lemma stringsMove_single {token : Token} (h : ∀ s, token ≠ .string s) (start stop : Nat) :
    StringsMove f ends [⟨start, token, stop⟩] := by
  refine stringsMove_of_ne fun l hl => ?_
  obtain rfl := List.mem_singleton.mp hl
  exact h

lemma stringsMove_token {a b : Token × List Letter} (hjoined : Joined f ends finish text)
    (h : TakesToken f text a b) :
    StringsMove f ends [⟨Letter.offset finish text, a.1, Letter.offset finish a.2⟩] := by
  intro l hl s hs hends
  obtain rfl := List.mem_singleton.mp hl
  obtain ⟨chars, hwritten, hspells⟩ := h.strings s hs
  obtain ⟨hle, hmoves⟩ := hjoined.spells hspells
  have hcontent := contentStart_of_writtenAs hwritten (Letter.offset finish text)
  have hsteady := hmoves (hends.imp_left (lineFeed_not_mem_of_writtenAs hwritten))
  exact steadyOn_mono hsteady le_rfl (hcontent.trans hle)

/-! ### Indentation -/

/-- The blanks of an indentation stand before an offset, and move with it. -/
structure Indented (f : Nat → Nat) (level : Indentation) (here : Nat) : Prop where
  le : level.tabs + level.spaces ≤ here
  steady : SteadyOn f (here - level.tabs - level.spaces) here

lemma indented_zero (here : Nat) : Indented f ⟨0, 0⟩ here :=
  ⟨Nat.zero_le here, steadyOn_self here⟩

/-- One more blank. -/
lemma Indented.blank {level level' : Indentation} {here : Nat} (h : Indented f level here)
    (hlevel : level'.tabs + level'.spaces = level.tabs + level.spaces + 1)
    (hblank : SteadyOn f here (here + 1)) : Indented f level' (here + 1) := by
  have hle := h.le
  have hsteady := h.steady.trans hblank
  refine ⟨by omega, ?_⟩
  have hstart : here + 1 - level'.tabs - level'.spaces = here - level.tabs - level.spaces := by
    omega
  rwa [hstart]

lemma start_moved {level : Indentation} {here : Nat} (h : Indented f level here) :
    f here - level.tabs - level.spaces = f (here - level.tabs - level.spaces) := by
  have hle := h.le
  have hmove := h.steady (here - level.tabs - level.spaces) (level.tabs + level.spaces) le_rfl
    (by omega)
  have hhere : here - level.tabs - level.spaces + (level.tabs + level.spaces) = here := by omega
  rw [hhere] at hmove
  omega

/-- Of moved letters the same indentation is measured, before the same letters. -/
structure Measures (f : Nat → Nat) (finish : Nat) (text : List Letter)
    (a b : Indentation × List Letter) : Prop
    extends TakesAlike f text a b where
  indented : Indented f a.1 (Letter.offset finish a.2)

lemma Measures.mono {text' : List Letter} {a b : Indentation × List Letter}
    (h : Measures f finish text a b) (hsuffix : text <:+ text') : Measures f finish text' a b :=
  ⟨h.toTakesAlike.mono hsuffix, h.indented⟩

lemma verdicts_measure (hjoined : Joined f ends finish text) (inComment : Bool)
    (level : Indentation)
    (hlevel : inComment = false → Indented f level (Letter.offset finish text)) :
    Verdicts (Measures f finish text) (Lexer.measure inComment level text)
      (Lexer.measure inComment level (text.map (movedLetter f))) := by
  induction text generalizing inComment level with
  | nil => exact .ok ⟨takesAlike_self _ _, indented_zero _⟩
  | cons l rest ih =>
    cases hjoined with
    | cons hsize hplain hsteady hnext hrest =>
    have hsuffix := List.suffix_cons l rest
    have hskip : ∀ inComment level,
        (inComment = false → Indented f level (Letter.offset finish rest)) →
        Verdicts (Measures f finish (l :: rest)) (Lexer.measure inComment level rest)
          (Lexer.measure inComment level (rest.map (movedLetter f))) :=
      fun inComment level h =>
        (ih hrest inComment level h).imp fun _ _ h => h.mono hsuffix
    have hzero : Indented f ⟨0, 0⟩ (Letter.offset finish rest) := indented_zero _
    rw [List.map_cons, Lexer.measure, Lexer.measure, char_movedLetter]
    split
    · exact hskip false ⟨0, 0⟩ fun _ => hzero
    rename_i hend
    have hblank : l.char.utf8Size = 1 → SteadyOn f l.start (l.start + 1) := by
      intro hone
      have hmoves := hsteady (.inl hend)
      rwa [hplain hend, hone] at hmoves
    split
    · exact hskip true level (by simp)
    rename_i hcomment
    have hindented := hlevel (Bool.eq_false_of_not_eq_true hcomment)
    split
    case isTrue hspace =>
      have hone : l.char.utf8Size = 1 := by rw [hspace]; rfl
      refine hskip false _ fun _ => ?_
      rw [hnext, hplain hend, hone]
      exact hindented.blank rfl (hblank hone)
    split
    case isTrue htab =>
      have hone : l.char.utf8Size = 1 := by rw [htab]; rfl
      refine .ite Iff.rfl (hskip false _ fun _ => ?_) (.error _ _)
      rw [hnext, hplain hend, hone]
      exact hindented.blank (by dsimp only; omega) (hblank hone)
    refine .ite Iff.rfl (hskip true ⟨0, 0⟩ (by simp)) (.ite Iff.rfl ?_ ?_)
    · exact hskip false ⟨0, 0⟩ fun _ => hzero
    · exact .ok ⟨takesAlike_self level (l :: rest), hindented⟩

/-! ### Steps -/

/-- What the lexer knows, with the text to come moved. -/
def movedState (f : Nat → Nat) (s : State) : State :=
  { s with text := s.text.map (movedLetter f) }

/-- From moved letters the same tokens are read, moved, and the same letters are left. -/
structure ReadsAlike (f : Nat → Nat) (ends : Prop) (text : List Letter)
    (a b : List Lexeme × Option State) : Prop where
  moved : b = (a.1.map (movedLexeme f), a.2.map (movedState f))
  suffix : ∀ s ∈ a.2, s.text <:+ text
  strings : StringsMove f ends a.1

/-- Nothing is read. -/
lemma readsAlike_none {s : State} (hsuffix : s.text <:+ text) :
    ReadsAlike f ends text ([], some s) ([], some (movedState f s)) :=
  ⟨rfl, by rintro _ ⟨⟩; exact hsuffix, stringsMove_nil⟩

lemma verdicts_beginLine {s : State} (hjoined : Joined f ends finish s.text) :
    Verdicts (fun a b => ReadsAlike f ends s.text (a.1, some a.2) (b.1, some b.2))
      (beginLine finish s) (beginLine (f finish) (movedState f s)) := by
  refine (verdicts_measure hjoined false ⟨0, 0⟩ fun _ => indented_zero _).bind
    fun a b h => ?_
  obtain ⟨level, rest⟩ := a
  obtain rfl := h.moved
  have hsuffix := h.suffix
  have hempty : (rest.map (movedLetter f)).isEmpty = rest.isEmpty := List.isEmpty_map
  dsimp only [movedState]
  rw [offset_moved, hempty]
  refine .ite Iff.rfl (.ok (readsAlike_none hsuffix)) ?_
  split
  · exact .error _ _
  · exact .ok (readsAlike_none hsuffix)
  · refine .ok ⟨?_, by rintro _ ⟨⟩; exact hsuffix, stringsMove_single (by simp) _ _⟩
    rw [start_moved h.indented]
    rfl
  · cases closeBlocks level s.blocks with
    | error fault => exact .error _ _
    | ok closed =>
      refine .ok ⟨?_, by rintro _ ⟨⟩; exact hsuffix, ?_⟩
      · simp [movedLexeme, movedState]
      · refine stringsMove_of_ne fun l hl => ?_
        rw [List.eq_of_mem_replicate hl]
        simp

lemma verdicts_depthAfter (token : Token) (stop stop' depth : Nat) :
    Verdicts Eq (depthAfter token stop depth) (depthAfter token stop' depth) := by
  cases token with
  | sign s =>
    refine .ite Iff.rfl (.ok rfl) (.ite Iff.rfl (.ite Iff.rfl (.error _ _) (.ok rfl)) (.ok rfl))
  | _ => exact .ok rfl

lemma dropLine_moved (text : List Letter) :
    Letter.dropLine (text.map (movedLetter f)) = (Letter.dropLine text).map (movedLetter f) := by
  rw [Letter.dropLine, Letter.dropLine, List.dropWhile_map]
  rfl

lemma verdicts_step {s : State} (hjoined : Joined f ends finish s.text) :
    Verdicts (ReadsAlike f ends s.text) (step finish s) (step (f finish) (movedState f s)) := by
  obtain ⟨text, blocks, depth, lineStart⟩ := s
  cases text with
  | nil =>
    refine .ite Iff.rfl (.error _ _) (.ok ⟨?_, by simp, .append ?_ (stringsMove_of_ne ?_)⟩)
    · cases lineStart <;> simp [movedState, movedLexeme]
    · cases lineStart
      · exact stringsMove_single (by simp) _ _
      · exact stringsMove_nil
    · simp
  | cons l rest =>
    have hsuffix := List.suffix_cons l rest
    have hskip : ∀ text lineStart, text <:+ l :: rest →
        ReadsAlike f ends (l :: rest) ([], some ⟨text, blocks, depth, lineStart⟩)
          ([], some ⟨text.map (movedLetter f), blocks, depth, lineStart⟩) :=
      fun text lineStart h => readsAlike_none (s := ⟨text, blocks, depth, lineStart⟩) h
    refine .ite Iff.rfl (.ite Iff.rfl (.ok ?lineEnd) (.ok (hskip rest _ hsuffix))) ?_
    case lineEnd =>
      exact ⟨rfl, by rintro _ ⟨⟩; exact hsuffix, stringsMove_single (by simp) _ _⟩
    refine .ite Iff.rfl (.ok (hskip rest _ hsuffix)) ?_
    refine .ite Iff.rfl (.ok ?comment) (.ite Iff.rfl ?continuation ?token)
    case comment =>
      rw [dropLine_moved]
      exact hskip _ _ ((List.dropWhile_suffix _).trans hsuffix)
    case continuation =>
      rw [ahead_moved, ← List.map_drop, List.isEmpty_map]
      refine .ite Iff.rfl (.error _ _) (.ite Iff.rfl (.error _ _) (.ok ?_))
      exact hskip _ _ ((List.drop_suffix 1 rest).trans hsuffix)
    case token =>
      refine (verdicts_takeToken _ (l :: rest)).bind fun a b h => ?_
      obtain ⟨token, after⟩ := a
      obtain rfl := h.moved
      dsimp only [movedState]
      rw [offset_moved]
      refine (verdicts_depthAfter token _ _ depth).bind fun depth' _ hdepth => .ok ?_
      subst hdepth
      exact ⟨rfl, by rintro _ ⟨⟩; exact h.suffix, stringsMove_token hjoined h⟩

lemma verdicts_next {s : State} (hjoined : Joined f ends finish s.text) :
    Verdicts (ReadsAlike f ends s.text) (next finish s) (next (f finish) (movedState f s)) := by
  refine .ite Iff.rfl ?_ (verdicts_step hjoined)
  refine (verdicts_beginLine hjoined).bind fun a b hbegin => ?_
  obtain ⟨layout, s'⟩ := a
  obtain ⟨layout', t'⟩ := b
  obtain ⟨rfl, rfl⟩ : layout' = layout.map (movedLexeme f) ∧ t' = movedState f s' := by
    simpa using hbegin.moved
  have hsuffix : s'.text <:+ s.text := hbegin.suffix s' rfl
  refine (verdicts_step (hjoined.suffix hsuffix)).bind fun a b hstep => .ok ?_
  obtain ⟨tokens, next⟩ := a
  obtain rfl := hstep.moved
  refine ⟨by simp, fun t ht => ?_, hbegin.strings.append hstep.strings⟩
  exact (hstep.suffix t ht).trans hsuffix

/-- The tokens of a text, and the moved tokens of the same text moved. -/
structure LexedAlike (f : Nat → Nat) (ends : Prop) (a b : Lexed) : Prop where
  lexemes : b.lexemes = a.lexemes.map (movedLexeme f)
  fault : b.fault.isSome = a.fault.isSome
  strings : StringsMove f ends a.lexemes

lemma lexedAlike_run (fuel : Nat) {s : State} (hjoined : Joined f ends finish s.text) :
    LexedAlike f ends (run finish fuel s) (run (f finish) fuel (movedState f s)) := by
  induction fuel generalizing s with
  | zero => exact ⟨rfl, rfl, stringsMove_nil⟩
  | succ fuel ih =>
    have hnext := verdicts_next hjoined
    rw [run, run]
    revert hnext
    generalize next finish s = first
    generalize next (f finish) (movedState f s) = second
    rintro (⟨d, d'⟩ | @⟨⟨tokens, next⟩, b, h⟩)
    · exact ⟨rfl, rfl, stringsMove_nil⟩
    · obtain rfl := h.moved
      cases next with
      | none => exact ⟨rfl, rfl, h.strings⟩
      | some s' =>
        obtain ⟨hlexemes, hfault, hstrings⟩ := ih (hjoined.suffix (h.suffix s' rfl))
        refine ⟨?_, hfault, h.strings.append hstrings⟩
        dsimp only [Option.map_some]
        rw [hlexemes, List.map_append]

/-- Texts of which the letters of one are the moved letters of the other are read alike. -/
theorem lexedAlike_lex {origin origin' : Nat} {text text' : List Char}
    (hletters : Letter.ofText origin' text' = (Letter.ofText origin text).map (movedLetter f))
    (hfinish : origin' + width text' = f (origin + width text))
    (hjoined : Joined f ends (origin + width text) (Letter.ofText origin text)) :
    LexedAlike f ends (lex origin text) (lex origin' text') := by
  rw [lex, lex, hletters, hfinish]
  revert hjoined
  cases Letter.ofText origin text with
  | nil => exact fun hjoined => lexedAlike_run 1 (s := ⟨[], [], 0, true⟩) hjoined
  | cons l rest =>
    intro hjoined
    rw [List.map_cons]
    dsimp only
    rw [char_movedLetter]
    split
    · rw [List.length_map]
      exact lexedAlike_run _ (s := ⟨rest, [], 0, true⟩) (hjoined.suffix (List.suffix_cons l rest))
    · rw [List.length_cons, List.length_cons, List.length_map]
      exact lexedAlike_run _ (s := ⟨l :: rest, [], 0, true⟩) hjoined

/-! ### Soft keywords -/

open SoftKeyword

lemma headerFollows_moved (first inLambda : Bool) (depth : Int) (lexemes : List Lexeme) :
    headerFollows first inLambda depth (lexemes.map (movedLexeme f)) =
      headerFollows first inLambda depth lexemes := by
  induction lexemes generalizing first inLambda depth with
  | nil => rfl
  | cons l rest ih =>
    obtain ⟨start, token, stop⟩ := l
    rw [List.map_cons, headerFollows, headerFollows]
    simp only [movedLexeme, ih]

lemma equalFollows_moved (depth : Int) (lexemes : List Lexeme) :
    equalFollows depth (lexemes.map (movedLexeme f)) = equalFollows depth lexemes := by
  induction lexemes generalizing depth with
  | nil => rfl
  | cons l rest ih =>
    obtain ⟨start, token, stop⟩ := l
    rw [List.map_cons, equalFollows, equalFollows]
    simp only [movedLexeme, ih]

lemma isReserved_moved (lineStart : Bool) (word : Keyword) (after : List Lexeme) :
    isReserved lineStart word (after.map (movedLexeme f)) = isReserved lineStart word after := by
  unfold isReserved
  rw [headerFollows_moved]
  cases after with
  | nil => rfl
  | cons l rest =>
    simp only [List.map_cons, equalFollows_moved]
    rfl

lemma resolve_moved (lineStart : Bool) (lexemes : List Lexeme) :
    resolve lineStart (lexemes.map (movedLexeme f)) =
      (resolve lineStart lexemes).map (movedLexeme f) := by
  induction lexemes generalizing lineStart with
  | nil => rfl
  | cons l rest ih =>
    obtain ⟨start, token, stop⟩ := l
    rw [List.map_cons, resolve, resolve]
    simp only [movedLexeme, isReserved_moved, ih, List.map_cons]

/-- Words alone are changed. -/
lemma mem_of_string_mem_resolve {lineStart : Bool} {lexemes : List Lexeme} {l : Lexeme}
    {s : StringLiteral} (hl : l ∈ resolve lineStart lexemes) (hs : l.token = .string s) :
    l ∈ lexemes := by
  induction lexemes generalizing lineStart with
  | nil => cases hl
  | cons first rest ih =>
    rw [resolve, List.mem_cons] at hl
    rcases hl with rfl | hl
    · obtain ⟨start, token, stop⟩ := first
      cases token with
      | keyword word =>
        dsimp only at hs
        split at hs <;> cases hs
      | _ => exact List.mem_cons_self
    · exact List.mem_cons_of_mem _ (ih hl)

/-! ### Feeds -/

/-- Feeds of texts that are read alike, if the formatted strings in them move as a whole. -/
lemma follows_resolve {a b : Lexed} (h : LexedAlike f ends a b) (hzero : f 0 = 0)
    (hstrings : ∀ l ∈ a.lexemes, ∀ s, l.token = .string s → s.form.isFormatted = true →
      '\n' ∉ s.content ∨ ends) (lineStart : Bool) :
    Follows f ⟨resolve lineStart a.lexemes, a.fault, 0⟩
      ⟨resolve lineStart b.lexemes, b.fault, 0⟩ where
  lexemes := by rw [h.lexemes, resolve_moved]
  strings l hl s hs hform :=
    have hmem := mem_of_string_mem_resolve hl hs
    h.strings l hmem s hs (hstrings l hmem s hs hform)
  fault := h.fault
  last := hzero.symm

/-! ### Fields of formatted strings -/

lemma offset_ofText {o : Nat} {text : List Char} (h : o + width text = finish) :
    Letter.offset finish (Letter.ofText o text) = o := by
  fun_cases Letter.ofText o text with
  | case1 => exact h.symm
  | _ => rfl

/-- A text that moves as a whole has moved letters. -/
lemma ofText_of_steadyOn {o : Nat} {text : List Char} (h : SteadyOn f o finish)
    (hfinish : o + width text = finish) :
    Letter.ofText (f o) text = (Letter.ofText o text).map (movedLetter f) ∧
      Joined f True finish (Letter.ofText o text) := by
  induction text using letter_induction generalizing o with
  | nil => exact ⟨rfl, .nil⟩
  | letter text c n rest hfirst ih =>
    rw [hfirst.width_eq, ← Nat.add_assoc] at hfinish
    have hmove : f (o + n) = f o + n := h o n le_rfl (by omega)
    obtain ⟨hletters, hjoined⟩ := ih (steadyOn_mono h (Nat.le_add_right o n) le_rfl) hfinish
    rw [hfirst.letters, hfirst.letters]
    refine ⟨?_, .cons ?_ ?_ ?_ (offset_ofText hfinish) hjoined⟩
    · rw [List.map_cons, ← hletters, movedLetter, hmove]
    · exact Nat.add_le_add_left hfirst.size_le o
    · exact fun hc => congrArg (o + ·) (hfirst.size_eq hc)
    · exact fun _ => steadyOn_mono h le_rfl (by dsimp only; omega)

/-- The text of a field in its parentheses is read alike. -/
lemma lexedAlike_field {origin : Nat} {text : List Char} (hpos : 0 < origin)
    (h : SteadyOn f (origin - 1) (origin + width text + 1)) :
    LexedAlike f True (lex (origin - 1) ('(' :: (text ++ [')'])))
      (lex (f origin - 1) ('(' :: (text ++ [')']))) := by
  have hwidth : width ('(' :: (text ++ [')'])) = width text + 2 := by
    rw [width, width_append, Nat.add_comm]
    rfl
  have hstart : f origin = f (origin - 1) + 1 := by
    have hmove := h (origin - 1) 1 le_rfl (by omega)
    rwa [Nat.sub_add_cancel hpos] at hmove
  have hfinish := h (origin - 1) (width text + 2) le_rfl (by omega)
  have hsteady : SteadyOn f (origin - 1) (origin - 1 + (width text + 2)) :=
    steadyOn_mono h le_rfl (by omega)
  rw [← hwidth] at hfinish hsteady
  obtain ⟨hletters, hjoined⟩ := ofText_of_steadyOn hsteady rfl
  rw [hstart, Nat.add_sub_cancel]
  exact lexedAlike_lex hletters hfinish.symm hjoined

/-- The expression in a field moves with its text. -/
lemma parsesMoved_fieldExpr {R : ExpressionRules} (hR : RulesMove f R) :
    ParsesMoved f (Grammar.fieldExpr R) := by
  intro origin text hpos hsteady
  have hfollows := follows_resolve (lexedAlike_field hpos hsteady) hR.zero
    (fun _ _ _ _ _ => .inr trivial) false
  rw [Grammar.fieldExpr, Grammar.fieldExpr]
  dsimp only
  refine (movesWith_testList hR _ _ hfollows).verdicts.bind fun a b hboth => ?_
  obtain ⟨value, feed⟩ := a
  obtain ⟨value', feed'⟩ := b
  obtain ⟨hvalue, hfeed⟩ : moved f value = value' ∧ Follows f feed feed' := hboth
  have hfault := hfeed.fault
  have hdrop : feed'.lexemes.dropWhile (·.token == .newline) =
      (feed.lexemes.dropWhile (·.token == .newline)).map (movedLexeme f) := by
    rw [hfeed.lexemes, List.dropWhile_map]
    rfl
  dsimp only
  rw [hdrop]
  cases feed.lexemes.dropWhile (·.token == .newline) with
  | cons l rest => exact .error _ _
  | nil =>
    cases hfirst : feed.fault with
    | none =>
      have hsecond : feed'.fault = none := by simpa [hfirst] using hfault
      rw [hsecond]
      exact .ok hvalue
    | some d =>
      obtain ⟨d', hsecond⟩ : ∃ d', feed'.fault = some d' := by
        rwa [hfirst, Option.isSome_some, Option.isSome_iff_exists] at hfault
      rw [hsecond]
      exact .error _ _

/-- The rules of expressions make moved trees of moved feeds, however deep expressions may be. -/
theorem rulesMove_upTo [CharacterNames] (hzero : f 0 = 0) (n : Nat) :
    RulesMove f (ExpressionRules.upTo n) := by
  induction n with
  | zero =>
    exact ⟨alike_refuse, alike_refuse, alike_refuse, alike_refuse, alike_refuse,
      fun _ _ _ _ => .error _ _, hzero⟩
  | succ n ih =>
    exact ⟨movesWith_test ih, movesWith_orTest ih, movesWith_notTest ih, movesWith_operand ih,
      movesWith_factor ih, parsesMoved_fieldExpr ih, hzero⟩

end SyntaxCheck.Proofs
