import Mathlib.Tactic
import SyntaxCheck.Proofs.LineEndStyles
import SyntaxCheck.Proofs.MovedStatements
import SyntaxCheck.Proofs.OpenedFiles

/-!
# Reported lines

A fault is reported at the line and the column that its place has for the lexer, unless a carriage
return without a line feed ends a line before it.
-/

namespace SyntaxCheck.Proofs

open Location

section

variable [CharacterNames] {text : List Char}

/-! ### Where faults are reported -/

/-- The text of a rejection begins here and is rejected there. -/
structure RejectedAt (before after : List Char) (r : Rejection) : Prop where
  rejects : checkSource (before ++ after) = .error r
  offset : r.offset = width before

lemma location_of_rejectedAt {before after : List Char} {r : Rejection}
    (h : RejectedAt before after r) :
    r.location = ⟨1 + before.count '\n', 1 + (currentLine before).length⟩ := by
  rw [location_of_checkSource h.rejects, h.offset, locate_boundary]

/-! ### The same text with other line ends -/

/-- No formatted string of a text goes on over the end of a line. -/
def FormattedInLine (text : List Char) : Prop :=
  ∀ l ∈ (lex 0 text).lexemes, ∀ s, l.token = .string s → s.form.isFormatted = true →
    '\n' ∉ s.content

/-- Both texts are accepted, or both are rejected: for the same target, told at the same location,
or for their grammar. -/
inductive SameVerdict : Except Rejection Unit → Except Rejection Unit → Prop
  | accepted : SameVerdict (.ok ()) (.ok ())
  | target (fault : TargetFault) (o o' : Nat) (l : Location) :
    SameVerdict (.error ⟨.target fault, o, l⟩) (.error ⟨.target fault, o', l⟩)
  | grammar (fault fault' : Fault) (o o' : Nat) (l l' : Location) :
    SameVerdict (.error ⟨.grammar fault, o, l⟩) (.error ⟨.grammar fault', o', l'⟩)

lemma verdicts_parseModule (hreturn : '\r' ∉ text) (hstrings : FormattedInLine text) :
    Verdicts (fun module module' => movedBlock (widened text) module = module') (parseModule text)
      (parseModule (written .both text)) := by
  have hfollows := follows_resolve (lexedAlike_written_both hreturn) (widened_zero text)
    (fun l hl s hs hform => .inl (hstrings l hl s hs hform)) true
  have hlength : (Letter.ofText 0 (written .both text)).length = (Letter.ofText 0 text).length := by
    have hletters := congrArg List.length (ofText_written_both [] text hreturn)
    rwa [List.length_map] at hletters
  rw [parseModule, parseModule, hlength]
  have hrules := rulesMove_upTo (widened_zero text) (2 * (Letter.ofText 0 text).length + 2)
  refine (movesWith_moduleBody hrules _ _ _ hfollows).verdicts.bind fun a b hboth => .ok ?_
  simpa using hboth.1

lemma sameVerdict_written_both (hreturn : '\r' ∉ text) (hstrings : FormattedInLine text) :
    SameVerdict (checkSource text) (checkSource (written .both text)) := by
  have hverdict := verdicts_parseModule hreturn hstrings
  rw [checkSource, checkSource]
  revert hverdict
  generalize parseModule text = first
  generalize parseModule (written .both text) = second
  rintro (⟨d, d'⟩ | h)
  · exact .grammar _ _ _ _ _ _
  · subst h
    dsimp only
    rw [firstInvalid_movedBlock (widened_strictMono text)]
    cases firstInvalid? _ with
    | none => exact .accepted
    | some d =>
      dsimp only [Option.map_some, reject, movedFinding]
      rw [locate_widened]
      exact .target _ _ _ _

/-- Without line feeds, the same fault is told on line one. -/
lemma rejected_written_carriageReturn (hreturn : '\r' ∉ text) (r : Rejection)
    (hr : checkSource text = .error r) :
    ∃ l, checkSource (written .carriageReturn text) = .error ⟨r.fault, r.offset, l⟩ ∧
      l.line = 1 := by
  refine ⟨locate (written .carriageReturn text) r.offset, ?_,
    line_locate_of_no_lineFeed (lineFeed_not_mem_written text) _⟩
  rw [checkSource, parseModule_written_carriageReturn hreturn]
  rw [checkSource] at hr
  cases hparse : parseModule text with
  | error d =>
    rw [hparse] at hr
    rw [← Except.error.inj hr]
    rfl
  | ok module =>
    rw [hparse] at hr
    dsimp only at hr
    cases htarget : firstInvalid? module with
    | none => simp [htarget] at hr
    | some d =>
      rw [htarget] at hr
      simp only [htarget, ← Except.error.inj hr]
      rfl

/-- The place where a fault is reported is the place where the lexer has it, unless a lone carriage
return stands before it. So a carriage return before every line feed changes nothing, as long as no
formatted string holds one, and carriage returns in place of the line feeds put all faults on line
one. -/
structure ReportsLines (text : List Char) : Prop where
  lexed : ∀ before after, text = before ++ after →
    (readerLocation before after).line = 1 + linesOver (Letter.ofText 0 text) (width before)
  located : ∀ before after r, text = before ++ after → RejectedAt before after r →
    r.location = ⟨1 + before.count '\n', 1 + (currentLine before).length⟩
  agrees : ∀ before after r, text = before ++ after → RejectedAt before after r →
    (r.location = readerLocation before after ↔ ¬ HasLoneReturn before after)
  pairs : '\r' ∉ text → FormattedInLine text →
    SameVerdict (checkSource text) (checkSource (written .both text))
  returns : '\r' ∉ text → ∀ r, checkSource text = .error r →
    ∃ l, checkSource (written .carriageReturn text) = .error ⟨r.fault, r.offset, l⟩ ∧ l.line = 1

/-- Faults are reported at their lines as far as line feeds end these. -/
theorem faults_reported_by_lineFeeds (text : List Char) : ReportsLines text := by
  refine ⟨?lexed, ?located, ?agrees, sameVerdict_written_both, rejected_written_carriageReturn⟩
  case lexed =>
    rintro before after rfl
    have hlines := linesOver_ofText before after 0
    rw [Nat.zero_add] at hlines
    rw [readerLocation, hlines]
  case located =>
    rintro before after r rfl h
    exact location_of_rejectedAt h
  case agrees =>
    rintro before after r rfl h
    rw [location_of_rejectedAt h, readerLocation]
    constructor
    · intro hsame hlone
      have hlt := count_lt_lineEnds hlone
      rw [Location.mk.injEq] at hsame
      omega
    · intro hlone
      rw [lineEnds_eq_count hlone, sinceLineEnd_eq_currentLine hlone]

end

/-- A formatted string that goes on over the end of a line is the exception: behind that end, its
fields are told one character early. -/
example :
    checkSource (written .lineFeed "f\"\"\"\n\x7b[a for 1 in b]\x7d\"\"\"".toList) =
        .error ⟨.target (.impossible .store "literal"), 13, ⟨2, 9⟩⟩ ∧
      checkSource (written .both "f\"\"\"\n\x7b[a for 1 in b]\x7d\"\"\"".toList) =
        .error ⟨.target (.impossible .store "literal"), 13, ⟨2, 8⟩⟩ := by
  decide +kernel

/-- With carriage returns alone at the ends of its lines, a text is told to be wrong on line one
wherever it is wrong. -/
theorem lone_return_not_counted :
    checkSource "a = 1\r1 = a\r".toList =
        .error ⟨.target (.impossible .store "literal"), 6, ⟨1, 7⟩⟩ ∧
      readerLocation "a = 1\r".toList "1 = a\r".toList = ⟨2, 1⟩ := by
  constructor
  · decide +kernel
  · decide

end SyntaxCheck.Proofs
