import Mathlib.Tactic
import SyntaxCheck.Text.Location
import SyntaxCheck.Token.Lexer

/-!
# Lines of assignments

Texts made of three kinds of lines: a number assigned to a name, a name assigned to a number, and an
assignment that breaks off after an operator. Names and numbers may be of any length.
-/

namespace SyntaxCheck.Proofs

/-- A name in lower case: a letter, then letters, digits and underscores, and no reserved word. -/
structure PlainName where
  first : Char
  rest : List Char
  first_letter : first.isLower = true
  rest_plain : ∀ c ∈ rest, c.isLower = true ∨ c.isDigit = true ∨ c = '_'
  unreserved : ∀ k : Keyword, k.spelling ≠ String.ofList (first :: rest)

namespace PlainName

/-- The name as it stands in a text. -/
def chars (x : PlainName) : List Char := x.first :: x.rest

/-- The name. -/
def id (x : PlainName) : String := String.ofList x.chars

end PlainName

/-- A decimal numeral without leading zeros. -/
structure Numeral where
  first : Char
  rest : List Char
  digits : ∀ c ∈ first :: rest, c.isDigit = true
  no_leading_zero : first = '0' → rest = []

namespace Numeral

/-- The numeral as it stands in a text. -/
def chars (n : Numeral) : List Char := n.first :: n.rest

/-- The number that the numeral writes. -/
def value (n : Numeral) : Nat :=
  Lexer.valueOf 10 (n.chars.map fun c => c.toNat - '0'.toNat)

end Numeral

/-- The kinds of lines. -/
inductive LineKind
  | good
  | badTarget
  | dangling
deriving DecidableEq

/-- A line that assigns, or is about to. -/
structure AssignmentLine where
  kind : LineKind
  name : PlainName
  number : Numeral

namespace AssignmentLine

/-- The line as it stands in a text, without its end. -/
def text (l : AssignmentLine) : List Char :=
  match l.kind with
  | .good => l.name.chars ++ ' ' :: '=' :: ' ' :: l.number.chars
  | .badTarget => l.number.chars ++ ' ' :: '=' :: ' ' :: l.name.chars
  | .dangling => l.name.chars ++ ' ' :: '=' :: ' ' :: (l.number.chars ++ [' ', '+'])

end AssignmentLine

/-- The text of lines, each with its end. -/
def textOf : List AssignmentLine → List Char
  | [] => []
  | l :: rest => l.text ++ '\n' :: textOf rest

/-! ### The characters of the texts -/

/-- The lower-case letters. -/
def lowers : List Char :=
  ['a', 'b', 'c', 'd', 'e', 'f', 'g', 'h', 'i', 'j', 'k', 'l', 'm', 'n', 'o', 'p', 'q', 'r', 's',
    't', 'u', 'v', 'w', 'x', 'y', 'z']

/-- The decimal digits. -/
def decimals : List Char :=
  ['0', '1', '2', '3', '4', '5', '6', '7', '8', '9']

/-- The characters of names. -/
def wordChars : List Char := lowers ++ decimals ++ ['_']

/-- The characters of lines. -/
def lineChars : List Char := wordChars ++ [' ', '=', '+']

/-- The characters that the texts are made of. -/
def alphabet : List Char := lineChars ++ ['\n']

lemma mem_lowers {c : Char} (h : c.isLower = true) : c ∈ lowers := by
  have hvalue : (decide (97 ≤ c.val) && decide (c.val ≤ 122)) = true := h
  have hbounds : 97 ≤ c.toNat ∧ c.toNat ≤ 122 := by
    simpa [UInt32.le_iff_toNat_le, ← Char.toNat_val] using hvalue
  rw [← Char.ofNat_toNat c]
  generalize c.toNat = n at hbounds
  obtain ⟨hlow, hhigh⟩ := hbounds
  interval_cases n <;> decide

lemma mem_decimals {c : Char} (h : c.isDigit = true) : c ∈ decimals := by
  have hvalue : (decide (48 ≤ c.val) && decide (c.val ≤ 57)) = true := h
  have hbounds : 48 ≤ c.toNat ∧ c.toNat ≤ 57 := by
    simpa [UInt32.le_iff_toNat_le, ← Char.toNat_val] using hvalue
  rw [← Char.ofNat_toNat c]
  generalize c.toNat = n at hbounds
  obtain ⟨hlow, hhigh⟩ := hbounds
  interval_cases n <;> decide

lemma first_mem_lowers (x : PlainName) : x.first ∈ lowers := mem_lowers x.first_letter

lemma name_subset_wordChars (x : PlainName) : x.chars ⊆ wordChars := by
  intro c hc
  simp only [wordChars, List.mem_append, List.mem_singleton]
  rcases List.mem_cons.mp hc with rfl | hc
  · exact Or.inl (Or.inl (first_mem_lowers x))
  · rcases x.rest_plain c hc with h | h | h
    · exact Or.inl (Or.inl (mem_lowers h))
    · exact Or.inl (Or.inr (mem_decimals h))
    · exact Or.inr h

lemma number_subset_decimals (n : Numeral) : n.chars ⊆ decimals :=
  fun c hc => mem_decimals (n.digits c hc)

lemma decimals_subset_wordChars : decimals ⊆ wordChars := by decide

lemma wordChars_subset_lineChars : wordChars ⊆ lineChars := List.subset_append_left _ _

lemma text_subset_lineChars (l : AssignmentLine) : l.text ⊆ lineChars := by
  have hname : l.name.chars ⊆ lineChars :=
    List.Subset.trans (name_subset_wordChars l.name) wordChars_subset_lineChars
  have hnumber : l.number.chars ⊆ lineChars :=
    List.Subset.trans (number_subset_decimals l.number)
      (List.Subset.trans decimals_subset_wordChars wordChars_subset_lineChars)
  have hequal : [' ', '=', ' '] ⊆ lineChars := by decide
  have hplus : [' ', '+'] ⊆ lineChars := by decide
  unfold AssignmentLine.text
  cases l.kind with
  | good => exact List.append_subset.mpr ⟨hname, List.append_subset.mpr ⟨hequal, hnumber⟩⟩
  | badTarget => exact List.append_subset.mpr ⟨hnumber, List.append_subset.mpr ⟨hequal, hname⟩⟩
  | dangling =>
    exact List.append_subset.mpr
      ⟨hname, List.append_subset.mpr ⟨hequal, List.append_subset.mpr ⟨hnumber, hplus⟩⟩⟩

lemma newline_not_mem_text (l : AssignmentLine) : '\n' ∉ l.text := by
  intro h
  exact absurd (text_subset_lineChars l h) (by decide)

lemma text_subset_alphabet (l : AssignmentLine) : l.text ⊆ alphabet :=
  List.Subset.trans (text_subset_lineChars l) (List.subset_append_left _ _)

lemma textOf_subset_alphabet (lines : List AssignmentLine) : textOf lines ⊆ alphabet := by
  induction lines with
  | nil => exact List.nil_subset _
  | cons l rest ih =>
    exact List.append_subset.mpr
      ⟨text_subset_alphabet l, List.cons_subset.mpr ⟨by decide, ih⟩⟩

/-- What all characters of the alphabet are, the characters of a text of it are. -/
lemma alphabet_all {p : Char → Bool} (hp : alphabet.all p = true) {text : List Char}
    (h : text ⊆ alphabet) : ∀ c ∈ text, p c = true :=
  fun c hc => List.all_eq_true.mp hp c (h hc)

end SyntaxCheck.Proofs
