import Mathlib.Tactic
import SyntaxCheck.Proofs.EncodedText

/-!
# Bytes of no text

Bytes that are not those of a text have a place where a character should begin and does not. Six
things can be wrong at such a place. The reader finds each of them, so it accepts the bytes of texts
and no others.
-/

namespace SyntaxCheck.Proofs

open Utf8

/-- What is wrong where bytes do not begin with a character: the first byte goes on with none or
begins none, too few bytes go on with it, or the number that is written needs fewer bytes, is a
surrogate, or is larger than that of any character. -/
inductive Misfit : List UInt8 → Prop
  | stray (b : UInt8) (rest : List UInt8) (hb : Continues b) : Misfit (b :: rest)
  | noFirst (b : UInt8) (rest : List UInt8) (hb : 0xF8 ≤ b.toNat) : Misfit (b :: rest)
  | truncated {f : ByteForm} {first : UInt8} {tail rest : List UInt8} (hfirst : f.Begins first)
    (htail : ∀ b ∈ tail, Continues b) (hshort : tail.length < f.following)
    (hrest : ∀ b ∈ rest.head?, ¬ Continues b) : Misfit (first :: (tail ++ rest))
  | overlong {f : ByteForm} {unit : List UInt8} {n : Nat} (rest : List UInt8) (h : Writes f unit n)
    (hn : n < f.least) : Misfit (unit ++ rest)
  | surrogate {f : ByteForm} {unit : List UInt8} {n : Nat} (rest : List UInt8) (h : Writes f unit n)
    (hlow : 0xD800 ≤ n) (hhigh : n ≤ 0xDFFF) : Misfit (unit ++ rest)
  | tooLarge {f : ByteForm} {unit : List UInt8} {n : Nat} (rest : List UInt8) (h : Writes f unit n)
    (hn : 0x10FFFF < n) : Misfit (unit ++ rest)

/-- Behind the bytes of a text something is wrong. -/
def IllFormed (bytes : List UInt8) : Prop :=
  ∃ text rest, bytes = encode text ++ rest ∧ Misfit rest

/-! ### Where a character should begin -/

lemma exists_tail (k : Nat) (bytes : List UInt8) :
    ∃ tail rest, bytes = tail ++ rest ∧ (∀ b ∈ tail, Continues b) ∧
      (tail.length = k ∨ tail.length < k ∧ ∀ b ∈ rest.head?, ¬ Continues b) := by
  induction k generalizing bytes with
  | zero => exact ⟨[], bytes, rfl, by simp, .inl rfl⟩
  | succ k ih =>
    cases bytes with
    | nil => exact ⟨[], [], rfl, by simp, .inr (by simp)⟩
    | cons b bytes =>
      by_cases hb : Continues b
      · obtain ⟨tail, rest, rfl, htail, hlength⟩ := ih bytes
        refine ⟨b :: tail, rest, rfl, List.forall_mem_cons.mpr ⟨hb, htail⟩, ?_⟩
        rw [List.length_cons]
        exact hlength.imp (by omega) (And.imp_left (by omega))
      · exact ⟨[], b :: bytes, rfl, by simp, .inr ⟨Nat.succ_pos k, by simpa using hb⟩⟩

lemma exists_begins {first : UInt8} (hlow : 0xC0 ≤ first.toNat) (hhigh : first.toNat < 0xF8) :
    ∃ f : ByteForm, f.Begins first := by
  by_cases htwo : first.toNat < 0xE0
  · exact ⟨.two, hlow, htwo⟩
  by_cases hthree : first.toNat < 0xF0
  · exact ⟨.three, Nat.le_of_not_lt htwo, hthree⟩
  · exact ⟨.four, Nat.le_of_not_lt hthree, hhigh⟩

lemma exists_char {n : Nat} (h : n.isValidChar) : ∃ c : Char, c.toNat = n :=
  ⟨Char.ofNatAux n h, rfl⟩

lemma isValidChar_iff (n : Nat) :
    n.isValidChar ↔ ¬ (0xD800 ≤ n ∧ n ≤ 0xDFFF) ∧ ¬ 0x10FFFF < n := by
  unfold Nat.isValidChar
  omega

/-- A number that is written is that of a character, or something is wrong with it. -/
lemma character_or_misfit_of_writes {f : ByteForm} {unit : List UInt8} {n : Nat}
    (h : Writes f unit n) (rest : List UInt8) :
    (∃ c, unit = encodeChar c) ∨ Misfit (unit ++ rest) := by
  by_cases hleast : n < f.least
  · exact .inr (.overlong rest h hleast)
  by_cases hsurrogate : 0xD800 ≤ n ∧ n ≤ 0xDFFF
  · exact .inr (.surrogate rest h hsurrogate.1 hsurrogate.2)
  by_cases hlarge : 0x10FFFF < n
  · exact .inr (.tooLarge rest h hlarge)
  · obtain ⟨c, rfl⟩ := exists_char ((isValidChar_iff n).mpr ⟨hsurrogate, hlarge⟩)
    exact .inl ⟨c, (encodeChar_of_writes h (Nat.le_of_not_lt hleast)).symm⟩

/-- Bytes begin with a character, or something is wrong with them. -/
lemma character_or_misfit (first : UInt8) (bytes : List UInt8) :
    (∃ c rest, first :: bytes = encodeChar c ++ rest) ∨ Misfit (first :: bytes) := by
  by_cases hascii : first.toNat < 0x80
  · obtain ⟨c, hc⟩ := exists_char (n := first.toNat) (.inl (by omega))
    refine .inl ⟨c, bytes, ?_⟩
    rw [encodeChar_ascii (by omega), hc, UInt8.ofNat_toNat, List.singleton_append]
  by_cases hstray : first.toNat < 0xC0
  · exact .inr (.stray first bytes ⟨Nat.le_of_not_lt hascii, hstray⟩)
  by_cases hnone : 0xF8 ≤ first.toNat
  · exact .inr (.noFirst first bytes hnone)
  obtain ⟨f, hfirst⟩ := exists_begins (Nat.le_of_not_lt hstray) (Nat.lt_of_not_le hnone)
  obtain ⟨tail, rest, rfl, htail, hlength | ⟨hshort, hrest⟩⟩ := exists_tail f.following bytes
  · have hwrites := Writes.intro hfirst hlength htail rfl
    exact (character_or_misfit_of_writes hwrites rest).imp_left
      fun ⟨c, hc⟩ => ⟨c, rest, congrArg (· ++ rest) hc⟩
  · exact .inr (.truncated hfirst htail hshort hrest)

/-- Bytes are those of a text up to their end or up to a place where something is wrong. -/
lemma encoded_or_illFormed (bytes : List UInt8) :
    (∃ text, bytes = encode text) ∨ IllFormed bytes := by
  induction hlength : bytes.length using Nat.strong_induction_on generalizing bytes with
  | _ length ih =>
    cases bytes with
    | nil => exact .inl ⟨[], rfl⟩
    | cons first bytes =>
      rcases character_or_misfit first bytes with ⟨c, rest, hbytes⟩ | hmisfit
      · have hshorter : rest.length < length := by
          have hpos := List.length_pos_iff.mpr (encodeChar_ne_nil c)
          rw [← hlength, hbytes, List.length_append]
          omega
        rw [hbytes]
        rcases ih rest.length hshorter rest rfl with ⟨text, rfl⟩ | ⟨text, rest, rfl, hmisfit⟩
        · exact .inl ⟨c :: text, (encode_cons c text).symm⟩
        · exact .inr ⟨c :: text, rest, by rw [encode_cons, List.append_assoc], hmisfit⟩
      · exact .inr ⟨[], first :: bytes, rfl, hmisfit⟩

/-! ### Where the reader stops -/

lemma takeTail_short {tail rest : List UInt8} (htail : ∀ b ∈ tail, Continues b)
    (hrest : ∀ b ∈ rest.head?, ¬ Continues b) {k : Nat} (hshort : tail.length < k) (n : Nat) :
    takeTail k n (tail ++ rest) = none := by
  obtain ⟨k, rfl⟩ := Nat.exists_eq_succ_of_ne_zero (Nat.ne_zero_of_lt hshort)
  induction tail generalizing k n with
  | nil =>
    cases rest with
    | nil => rfl
    | cons b rest =>
      rw [List.nil_append, takeTail, goOn?, continuation_of_not_continues (hrest b rfl)]
      rfl
  | cons b tail ih =>
    rw [List.forall_mem_cons] at htail
    rw [List.length_cons] at hshort
    obtain ⟨k, rfl⟩ := Nat.exists_eq_succ_of_ne_zero (n := k) (by omega)
    rw [List.cons_append, takeTail, goOn_cons htail.1, Option.bind_some,
      ih htail.2 _ k (by omega)]

/-- Nothing is read from bytes that do not begin with a character. -/
lemma decode_of_misfit {bytes : List UInt8} (h : Misfit bytes) : decode? bytes = none := by
  cases h with
  | stray b rest hb =>
    rw [decode?.eq_def]
    dsimp only
    rw [if_neg (Nat.not_lt.mpr hb.1), if_pos hb.2]
  | noFirst b rest hb =>
    rw [decode_first (by omega)]
    cases goOn? rest with
    | none => rfl
    | some p =>
      rw [Option.bind_some, if_neg (by omega)]
      cases goOn? p.2 with
      | none => rfl
      | some q => rw [Option.bind_some, if_neg (by omega), if_neg (by omega)]
  | truncated hfirst htail hshort hrest =>
    rw [decode_begins hfirst, takeTail_short htail hrest hshort, Option.bind_none]
  | overlong rest h hn =>
    rw [decode_of_writes h, scalar?, if_neg (by omega), Option.bind_none]
  | surrogate rest h hlow hhigh =>
    rw [decode_of_writes h, scalar?, if_neg (by rw [isValidChar_iff]; omega), Option.bind_none]
  | tooLarge rest h hn =>
    rw [decode_of_writes h, scalar?, if_neg (by rw [isValidChar_iff]; omega), Option.bind_none]

lemma decode_encode_append (text : List Char) (rest : List UInt8) :
    decode? (encode text ++ rest) = (decode? rest).map (text ++ ·) := by
  induction text with
  | nil => exact Option.map_id'.symm
  | cons c text ih =>
    rw [encode_cons, List.append_assoc, decode_encodeChar_append, ih, Option.map_map]
    rfl

lemma decode_eq_none_iff (bytes : List UInt8) : decode? bytes = none ↔ IllFormed bytes := by
  constructor
  · intro h
    rcases encoded_or_illFormed bytes with ⟨text, rfl⟩ | hill
    · rw [decode_encode] at h
      cases h
    · exact hill
  · rintro ⟨text, rest, rfl, hmisfit⟩
    rw [decode_encode_append, decode_of_misfit hmisfit]
    rfl

-- A surrogate has no bytes of its own.
example : decode? [0x61, 0xED, 0xA0, 0x80] = none := by decide

/-- The reader undoes the writer, and nothing else. -/
theorem decode_eq_some_iff {bytes : List UInt8} {text : List Char} :
    decode? bytes = some text ↔ bytes = encode text := by
  constructor
  · intro h
    rcases encoded_or_illFormed bytes with ⟨text', rfl⟩ | hill
    · rw [decode_encode] at h
      rw [Option.some.inj h]
    · rw [(decode_eq_none_iff bytes).mpr hill] at h
      cases h
  · rintro rfl
    exact decode_encode text

/-! ### Valid strings -/

lemma toByteArray_encode (text : List Char) : (encode text).toByteArray = text.utf8Encode := by
  rw [encode, List.utf8Encode, funext encodeChar_eq]

lemma toByteArray_injective : Function.Injective List.toByteArray := by
  intro a b h
  simpa using congrArg ByteArray.data h

/-- The bytes of texts are those that a string can have. -/
lemma isValidUTF8_iff (bytes : List UInt8) :
    bytes.toByteArray.IsValidUTF8 ↔ ∃ text, bytes = encode text := by
  constructor
  · rintro ⟨text, htext⟩
    rw [← toByteArray_encode] at htext
    exact ⟨text, toByteArray_injective htext⟩
  · rintro ⟨text, rfl⟩
    exact ⟨text, toByteArray_encode text⟩

/-- Bytes have something wrong with them exactly if no string has them. -/
theorem illFormed_iff (bytes : List UInt8) : IllFormed bytes ↔ ¬ bytes.toByteArray.IsValidUTF8 := by
  rw [← decode_eq_none_iff, isValidUTF8_iff, not_exists, Option.eq_none_iff_forall_ne_some]
  exact forall_congr' fun text => not_congr decode_eq_some_iff

end SyntaxCheck.Proofs
