import Mathlib.Tactic
import SyntaxCheck.Report.JsonValue
import SyntaxCheck.Text.Digit

/-!
# The grammar of JSON

Which texts are JSON and which value each of them stands for. A character of a string can be spelled
in several ways, and blanks may stand before and after every bracket, comma, colon and value, so a
value has many texts. The layout of a value is one of them. Numbers are natural numbers here, as
they are in the values.
-/

namespace SyntaxCheck.Proofs

open JsonValue

/-! ### Texts of values -/

def isJsonBlank (c : Char) : Bool :=
  c = ' ' || c = '\t' || c = '\n' || c = '\r'

/-- Nothing but blanks. -/
def JsonBlanks (t : List Char) : Prop :=
  ∀ c ∈ t, isJsonBlank c = true

/-- The letters that stand for a character after a backslash. -/
def shortEscapes : List (Char × Char) :=
  [('"', '"'), ('\\', '\\'), ('/', '/'), ('b', '\x08'), ('f', '\x0c'), ('n', '\n'), ('r', '\r'),
    ('t', '\t')]

/-- The number that four hexadecimal digits stand for. -/
def codeUnit? (digits : List Char) : Option Nat :=
  if digits.length = 4 then
    (digits.mapM (digit? 16)).map fun values => values.foldl (fun n value => 16 * n + value) 0
  else none

/-- The code units that stand for no character by themselves. -/
def isSurrogate (n : Nat) : Bool :=
  0xD800 ≤ n && n < 0xE000

/-- The character that a pair of code units stands for. -/
def ofSurrogates (high low : Nat) : Char :=
  Char.ofNat (0x10000 + (high - 0xD800) * 0x400 + (low - 0xDC00))

/-- The ways in which a character can be spelled in a string. -/
inductive SpellsChar : List Char → Char → Prop
  | plain {c} (no_quote : c ≠ '"') (no_backslash : c ≠ '\\') (no_control : 0x20 ≤ c.toNat) :
      SpellsChar [c] c
  | short {letter c} (escape : shortEscapes.lookup letter = some c) : SpellsChar ['\\', letter] c
  | unit {digits n} (code : codeUnit? digits = some n) (scalar : isSurrogate n = false) :
      SpellsChar ('\\' :: 'u' :: digits) (Char.ofNat n)
  | pair {digits digits' high low} (code : codeUnit? digits = some high)
      (code' : codeUnit? digits' = some low) (first : 0xD800 ≤ high ∧ high < 0xDC00)
      (second : 0xDC00 ≤ low ∧ low < 0xE000) :
      SpellsChar ('\\' :: 'u' :: (digits ++ '\\' :: 'u' :: digits')) (ofSurrogates high low)

/-- Characters in quotes, each spelled in one of its ways. -/
def SpellsString (t : List Char) (s : String) : Prop :=
  ∃ words, List.Forall₂ SpellsChar words s.toList ∧ t = '"' :: (words.flatten ++ ['"'])

/-- Decimal digits without a zero before others. -/
structure SpellsNumber (t : List Char) (n : Nat) : Prop where
  digits : ∀ c ∈ t, c.isDigit = true
  some_digit : t ≠ []
  no_leading_zero : t.head? = some '0' → t = ['0']
  value_eq : Nat.ofDigitChars 10 t 0 = n

/-- Items after a first one, each after a comma. -/
inductive SpellsMore {α : Type} (Spells : List Char → α → Prop) : List Char → List α → Prop
  | nil {b} (blanks : JsonBlanks b) : SpellsMore Spells b []
  | cons {b b' t x ts xs} (blanks : JsonBlanks b) (blanks' : JsonBlanks b') (first : Spells t x)
      (rest : SpellsMore Spells ts xs) : SpellsMore Spells (b ++ ',' :: (b' ++ (t ++ ts))) (x :: xs)

/-- What stands between brackets. -/
inductive SpellsItems {α : Type} (Spells : List Char → α → Prop) : List Char → List α → Prop
  | nil {b} (blanks : JsonBlanks b) : SpellsItems Spells b []
  | cons {b t x ts xs} (blanks : JsonBlanks b) (first : Spells t x)
      (rest : SpellsMore Spells ts xs) : SpellsItems Spells (b ++ (t ++ ts)) (x :: xs)

/-- A member of an object: its name, a colon and its value. -/
inductive SpellsMember (Spells : List Char → JsonValue → Prop) :
    List Char → String × JsonValue → Prop
  | member {t name b b' t' v} (string : SpellsString t name) (blanks : JsonBlanks b)
      (blanks' : JsonBlanks b') (value : Spells t' v) :
      SpellsMember Spells (t ++ (b ++ ':' :: (b' ++ t'))) (name, v)

/-- The texts of a value. -/
inductive SpellsValue : List Char → JsonValue → Prop
  | null : SpellsValue "null".toList .null
  | true : SpellsValue "true".toList (.boolean true)
  | false : SpellsValue "false".toList (.boolean false)
  | number {t n} (number : SpellsNumber t n) : SpellsValue t (.number n)
  | string {t s} (string : SpellsString t s) : SpellsValue t (.string s)
  | array {t vs} (elements : SpellsItems SpellsValue t vs) :
      SpellsValue ('[' :: (t ++ [']'])) (.array vs)
  | object {t ms} (members : SpellsItems (SpellsMember SpellsValue) t ms) :
      SpellsValue ('\x7b' :: (t ++ ['\x7d'])) (.object ms)

/-- A text that is one JSON document. -/
def SpellsDocument (t : List Char) (v : JsonValue) : Prop :=
  ∃ before word after, JsonBlanks before ∧ JsonBlanks after ∧ SpellsValue word v ∧
    t = before ++ (word ++ after)

/-! ### The layout of a value is one of its texts -/

lemma jsonBlanks_nil : JsonBlanks [] := by
  intro c hc
  cases hc

lemma jsonBlanks_space : JsonBlanks [' '] := by
  simp [JsonBlanks, isJsonBlank]

lemma jsonBlanks_newLine (depth : Nat) : JsonBlanks (newLine depth) := by
  simp [JsonBlanks, newLine, isJsonBlank]

lemma codeUnit_control : ∀ n < 0x20,
    codeUnit? ['0', '0', hexDigit (n / 16), hexDigit (n % 16)] = some n := by
  decide

lemma spellsChar_escape (c : Char) : SpellsChar (escape c) c := by
  unfold escape
  split_ifs with hquote hbackslash hback hfeed hline hreturn htab hcontrol
  · rw [hquote]
    exact .short rfl
  · rw [hbackslash]
    exact .short rfl
  · rw [hback]
    exact .short rfl
  · rw [hfeed]
    exact .short rfl
  · rw [hline]
    exact .short rfl
  · rw [hreturn]
    exact .short rfl
  · rw [htab]
    exact .short rfl
  · have hscalar : isSurrogate c.toNat = false := by
      rw [isSurrogate, decide_eq_false (by omega), Bool.false_and]
    have hunit := SpellsChar.unit (codeUnit_control c.toNat hcontrol) hscalar
    rwa [Char.ofNat_toNat] at hunit
  · exact .plain hquote hbackslash (by omega)

lemma spellsString_quote (s : String) : SpellsString (quote s) s := by
  refine ⟨s.toList.map escape, ?_, ?_⟩
  · rw [List.forall₂_map_left_iff, List.forall₂_same]
    exact fun c _ => spellsChar_escape c
  · rw [quote, List.flatMap]

lemma digitChar_ne_zero : ∀ n < 10, n ≠ 0 → n.digitChar ≠ '0' := by
  decide

lemma head_toDigits_ne_zero (n : Nat) (h : n ≠ 0) : (Nat.toDigits 10 n).head? ≠ some '0' := by
  induction n using Nat.strong_induction_on with
  | _ n ih =>
    by_cases hsmall : n < 10
    · rw [Nat.toDigits_of_lt_base hsmall, List.head?_singleton, ne_eq, Option.some_inj]
      exact digitChar_ne_zero n hsmall h
    · rw [Nat.toDigits_of_base_le (by omega) (by omega),
        List.head?_append_of_ne_nil _ Nat.toDigits_ne_nil]
      exact ih (n / 10) (by omega) (by omega)

lemma spellsNumber_toDigits (n : Nat) : SpellsNumber (Nat.toDigits 10 n) n where
  digits := fun c hc => Nat.isDigit_of_mem_toDigits (by omega) (by omega) hc
  some_digit := Nat.toDigits_ne_nil
  no_leading_zero := by
    intro hhead
    by_cases h : n = 0
    · rw [h]
      rfl
    · exact absurd hhead (head_toDigits_ne_zero n h)
  value_eq := Nat.ofDigitChars_ten_toDigits

lemma spellsMember_layout (name : String) {t : List Char} {v : JsonValue} (h : SpellsValue t v) :
    SpellsMember SpellsValue (quote name ++ [':', ' '] ++ t) (name, v) := by
  have hmember := SpellsMember.member (spellsString_quote name) jsonBlanks_nil jsonBlanks_space h
  rwa [List.append_assoc]

mutual

lemma spellsValue_layout (depth : Nat) (v : JsonValue) : SpellsValue (layout depth v) v := by
  cases v with
  | null => exact .null
  | boolean value =>
    cases value with
    | true => exact .true
    | false => exact .false
  | number n => exact .number (spellsNumber_toDigits n)
  | string s => exact .string (spellsString_quote s)
  | array elements =>
    cases elements with
    | nil => exact .array (.nil jsonBlanks_nil)
    | cons first rest =>
      have hfirst := spellsValue_layout (depth + 1) first
      have hrest := spellsMore_layoutElements (depth + 1) rest (jsonBlanks_newLine depth)
      have harray := SpellsValue.array (.cons (jsonBlanks_newLine (depth + 1)) hfirst hrest)
      simpa only [layout, List.append_assoc] using harray
  | object members =>
    cases members with
    | nil => exact .object (.nil jsonBlanks_nil)
    | cons m rest =>
      obtain ⟨name, value⟩ := m
      have hfirst := spellsMember_layout name (spellsValue_layout (depth + 1) value)
      have hrest := spellsMore_layoutMembers (depth + 1) rest (jsonBlanks_newLine depth)
      have hobject := SpellsValue.object (.cons (jsonBlanks_newLine (depth + 1)) hfirst hrest)
      simpa only [layout, List.append_assoc] using hobject
termination_by sizeOf v

lemma spellsMore_layoutElements (depth : Nat) (vs : List JsonValue) {after : List Char}
    (hafter : JsonBlanks after) :
    SpellsMore SpellsValue (layoutElements depth vs ++ after) vs := by
  cases vs with
  | nil => exact .nil hafter
  | cons v rest =>
    have hrest := spellsMore_layoutElements depth rest hafter
    have helements := SpellsMore.cons jsonBlanks_nil (jsonBlanks_newLine depth)
      (spellsValue_layout depth v) hrest
    simpa only [layoutElements, List.append_assoc, List.nil_append, List.cons_append] using
      helements
termination_by sizeOf vs

lemma spellsMore_layoutMembers (depth : Nat) (ms : List (String × JsonValue)) {after : List Char}
    (hafter : JsonBlanks after) :
    SpellsMore (SpellsMember SpellsValue) (layoutMembers depth ms ++ after) ms := by
  cases ms with
  | nil => exact .nil hafter
  | cons m rest =>
    obtain ⟨name, value⟩ := m
    have hfirst := spellsMember_layout name (spellsValue_layout depth value)
    have hrest := spellsMore_layoutMembers depth rest hafter
    have hmembers := SpellsMore.cons jsonBlanks_nil (jsonBlanks_newLine depth) hfirst hrest
    simpa only [layoutMembers, List.append_assoc, List.nil_append, List.cons_append] using hmembers
termination_by sizeOf ms

end

/-- What is printed of a value is a document that stands for it. -/
theorem spellsDocument_pretty (v : JsonValue) : SpellsDocument v.pretty.toList v := by
  refine ⟨[], layout 0 v, [], jsonBlanks_nil, jsonBlanks_nil, spellsValue_layout 0 v, ?_⟩
  rw [pretty, String.toList_ofList, List.nil_append, List.append_nil]

end SyntaxCheck.Proofs
