import Mathlib.Tactic
import SyntaxCheck.Text.Utf8

/-!
# Written texts read back

Beyond ASCII a character is written in two to four bytes: a first byte, with a mark that tells how
many go on with it, and those. The writer makes such bytes and the reader goes by the marks, so what
is written is read back as it was, and different texts are written in different bytes.
-/

namespace SyntaxCheck.Proofs

open Utf8

lemma toNat_byte {n : Nat} (h : n < 256) : (UInt8.ofNat n).toNat = n := by
  rw [UInt8.toNat_ofNat']
  exact Nat.mod_eq_of_lt h

lemma eq_byte {b : UInt8} {n : Nat} (h : b.toNat = n) : b = UInt8.ofNat n := by
  rw [← h, UInt8.ofNat_toNat]

lemma toNat_lt (c : Char) : c.toNat < 0x110000 := by
  rcases c.valid with h | h
  · exact Nat.lt_trans h (by decide)
  · exact h.2

/-- Characters are written as in a string. -/
lemma encodeChar_eq (c : Char) : encodeChar c = String.utf8EncodeChar c := by
  have hlt := toNat_lt c
  have hval : c.val.toNat = c.toNat := rfl
  unfold encodeChar String.utf8EncodeChar
  simp only [hval, ← Nat.lt_succ_iff]
  split_ifs
  · rfl
  · have hfirst : c.toNat / 64 % 0x20 + 0xC0 = 0xC0 + c.toNat / 64 := by omega
    rw [hfirst, Nat.add_comm 0x80]
  · have hfirst : c.toNat / 4096 % 0x10 + 0xE0 = 0xE0 + c.toNat / 4096 := by omega
    rw [hfirst, Nat.add_comm 0x80, Nat.add_comm 0x80]
  · have hfirst : c.toNat / 262144 % 0x08 + 0xF0 = 0xF0 + c.toNat / 262144 := by omega
    rw [hfirst, Nat.add_comm 0x80, Nat.add_comm 0x80, Nat.add_comm 0x80]

lemma length_encodeChar (c : Char) : (encodeChar c).length = c.utf8Size := by
  rw [encodeChar_eq, String.length_utf8EncodeChar]

lemma encodeChar_ne_nil (c : Char) : encodeChar c ≠ [] := by
  rw [encodeChar_eq]
  exact String.utf8EncodeChar_ne_nil

lemma encode_append (a b : List Char) : encode (a ++ b) = encode a ++ encode b :=
  List.flatMap_append

lemma encode_cons (c : Char) (text : List Char) :
    encode (c :: text) = encodeChar c ++ encode text :=
  List.flatMap_cons

lemma encode_singleton (c : Char) : encode [c] = encodeChar c := by
  rw [encode, List.flatMap_singleton]

/-! ### Forms -/

/-- How many bytes write a character, if not one: a first byte, which is the mark of the form with
the first bits on top and lies below the limit, and the bytes that follow it. -/
inductive ByteForm
  | two
  | three
  | four

namespace ByteForm

def following : ByteForm → Nat
  | two => 1
  | three => 2
  | four => 3

def mark : ByteForm → Nat
  | two => 0xC0
  | three => 0xE0
  | four => 0xF0

def limit : ByteForm → Nat
  | two => 0xE0
  | three => 0xF0
  | four => 0xF8

/-- The least number that needs as many bytes. -/
def least : ByteForm → Nat
  | two => 0x80
  | three => 0x800
  | four => 0x10000

def Begins (f : ByteForm) (first : UInt8) : Prop :=
  f.mark ≤ first.toNat ∧ first.toNat < f.limit

end ByteForm

open ByteForm

/-- The byte has the mark of one that goes on with a character; six bits stand behind it. -/
def Continues (b : UInt8) : Prop :=
  0x80 ≤ b.toNat ∧ b.toNat < 0xC0

def bits (b : UInt8) : Nat :=
  b.toNat % 64

/-- The number that is written in the bits of a first byte and of those that go on with it. -/
def number (start : Nat) (tail : List UInt8) : Nat :=
  tail.foldl (fun n b => n * 64 + bits b) start

lemma number_nil (start : Nat) : number start [] = start :=
  rfl

lemma number_cons (start : Nat) (b : UInt8) (tail : List UInt8) :
    number start (b :: tail) = number (start * 64 + bits b) tail :=
  rfl

/-- The bytes have the marks of a form and write a number. -/
inductive Writes (f : ByteForm) : List UInt8 → Nat → Prop
  | intro {first : UInt8} {tail : List UInt8} {n : Nat} (hfirst : f.Begins first)
    (hlength : tail.length = f.following) (htail : ∀ b ∈ tail, Continues b)
    (hn : n = number (first.toNat - f.mark) tail) : Writes f (first :: tail) n

lemma le_mark (f : ByteForm) : 0xC0 ≤ f.mark := by
  cases f <;> decide

lemma high_of_writes {f : ByteForm} {unit : List UInt8} {n : Nat} (h : Writes f unit n) :
    ∀ b ∈ unit, 0x80 ≤ b.toNat := by
  cases h with
  | intro hfirst hlength htail hn =>
    have hmark := le_mark f
    have hle := hfirst.1
    exact List.forall_mem_cons.mpr ⟨by omega, fun b hb => (htail b hb).1⟩

/-! ### Writing -/

lemma encodeChar_ascii {c : Char} (h : c.toNat < 0x80) : encodeChar c = [UInt8.ofNat c.toNat] := by
  rw [encodeChar, if_pos h]

/-- The byte that goes on with the last six bits of a number. -/
def goingOn (n : Nat) : UInt8 :=
  UInt8.ofNat (0x80 + n % 64)

lemma toNat_goingOn (n : Nat) : (goingOn n).toNat = 0x80 + n % 64 :=
  toNat_byte (by omega)

lemma bits_goingOn (n : Nat) : bits (goingOn n) = n % 64 := by
  rw [bits, toNat_goingOn]
  omega

lemma continues_goingOn (n : Nat) : Continues (goingOn n) := by
  rw [Continues, toNat_goingOn]
  omega

lemma forall_mem_goingOn (ns : List Nat) : ∀ b ∈ ns.map goingOn, Continues b :=
  List.forall_mem_map.mpr fun n _ => continues_goingOn n

lemma writes_of_number {f : ByteForm} {start n : Nat} {tail : List UInt8}
    (hlimit : f.mark + start < f.limit) (hlength : tail.length = f.following)
    (htail : ∀ b ∈ tail, Continues b) (hn : number start tail = n) :
    Writes f (UInt8.ofNat (f.mark + start) :: tail) n := by
  have hle : f.limit ≤ 0xF8 := by cases f <;> decide
  have hfirst : (UInt8.ofNat (f.mark + start)).toNat = f.mark + start := toNat_byte (by omega)
  refine .intro ⟨?_, ?_⟩ hlength htail ?_
  · rw [hfirst]
    exact Nat.le_add_right _ _
  · rwa [hfirst]
  · rw [hfirst, Nat.add_sub_cancel_left, hn]

/-- A character is written in a form, and in no more bytes than its number needs. -/
lemma exists_writes_encodeChar {c : Char} (h : 0x80 ≤ c.toNat) :
    ∃ f : ByteForm, Writes f (encodeChar c) c.toNat ∧ f.least ≤ c.toNat := by
  have hlt := toNat_lt c
  rw [encodeChar]
  split_ifs with h1 h2 h3
  · exact absurd h1 (Nat.not_lt.mpr h)
  · have hlimit : 0xC0 + c.toNat / 64 < 0xE0 := by omega
    have hnumber : number (c.toNat / 64) [goingOn c.toNat] = c.toNat := by
      rw [number_cons, number_nil, bits_goingOn]
      omega
    exact ⟨.two, writes_of_number hlimit rfl (forall_mem_goingOn [_]) hnumber, h⟩
  · have hlimit : 0xE0 + c.toNat / 4096 < 0xF0 := by omega
    have hnumber : number (c.toNat / 4096) [goingOn (c.toNat / 64), goingOn c.toNat] = c.toNat := by
      rw [number_cons, number_cons, number_nil, bits_goingOn, bits_goingOn]
      omega
    exact ⟨.three, writes_of_number hlimit rfl (forall_mem_goingOn [_, _]) hnumber,
      Nat.le_of_not_lt h2⟩
  · have hlimit : 0xF0 + c.toNat / 262144 < 0xF8 := by omega
    have hnumber : number (c.toNat / 262144)
        [goingOn (c.toNat / 4096), goingOn (c.toNat / 64), goingOn c.toNat] = c.toNat := by
      rw [number_cons, number_cons, number_cons, number_nil, bits_goingOn, bits_goingOn,
        bits_goingOn]
      omega
    exact ⟨.four, writes_of_number hlimit rfl (forall_mem_goingOn [_, _, _]) hnumber,
      Nat.le_of_not_lt h3⟩

/-- Bytes that write the number of a character, and are not too many, are those of the character. -/
lemma encodeChar_of_writes {f : ByteForm} {unit : List UInt8} {c : Char} (h : Writes f unit c.toNat)
    (hle : f.least ≤ c.toNat) : encodeChar c = unit := by
  have hlt := toNat_lt c
  cases h with
  | @intro first tail _ hfirst hlength htail hn =>
    unfold Begins at hfirst
    rw [encodeChar]
    cases f with
    | two =>
      obtain ⟨b, rfl⟩ := List.length_eq_one_iff.mp hlength
      simp only [List.mem_singleton, forall_eq, Continues] at htail
      simp only [mark, limit, least, number_cons, number_nil, bits] at hfirst hn hle
      have h1 : first.toNat = 0xC0 + c.toNat / 64 := by omega
      have h2 : b.toNat = 0x80 + c.toNat % 64 := by omega
      rw [if_neg (by omega), if_pos (by omega), ← eq_byte h1, ← eq_byte h2]
    | three =>
      obtain ⟨b, d, rfl⟩ := List.length_eq_two.mp hlength
      simp only [List.forall_mem_cons, Continues] at htail
      simp only [mark, limit, least, number_cons, number_nil, bits] at hfirst hn hle
      have h1 : first.toNat = 0xE0 + c.toNat / 4096 := by omega
      have h2 : b.toNat = 0x80 + c.toNat / 64 % 64 := by omega
      have h3 : d.toNat = 0x80 + c.toNat % 64 := by omega
      rw [if_neg (by omega), if_neg (by omega), if_pos (by omega), ← eq_byte h1, ← eq_byte h2,
        ← eq_byte h3]
    | four =>
      obtain ⟨b, d, e, rfl⟩ := List.length_eq_three.mp hlength
      simp only [List.forall_mem_cons, Continues] at htail
      simp only [mark, limit, least, number_cons, number_nil, bits] at hfirst hn hle
      have h1 : first.toNat = 0xF0 + c.toNat / 262144 := by omega
      have h2 : b.toNat = 0x80 + c.toNat / 4096 % 64 := by omega
      have h3 : d.toNat = 0x80 + c.toNat / 64 % 64 := by omega
      have h4 : e.toNat = 0x80 + c.toNat % 64 := by omega
      rw [if_neg (by omega), if_neg (by omega), if_neg (by omega), ← eq_byte h1, ← eq_byte h2,
        ← eq_byte h3, ← eq_byte h4]

/-! ### Reading -/

lemma continuation_of_continues {b : UInt8} (h : Continues b) :
    continuation? b = some (bits b) := by
  have hbits : b.toNat - 0x80 = bits b := by
    unfold Continues at h
    unfold bits
    omega
  rw [← hbits]
  exact if_pos h

lemma continuation_of_not_continues {b : UInt8} (h : ¬ Continues b) : continuation? b = none :=
  if_neg h

/-- The bits of the next byte, if it goes on with a character, and the bytes behind it. -/
def goOn? : List UInt8 → Option (Nat × List UInt8)
  | [] => none
  | b :: rest => (continuation? b).map fun y => (y, rest)

/-- Go on with a number over so many bytes. -/
def takeTail : Nat → Nat → List UInt8 → Option (Nat × List UInt8)
  | 0, n, bytes => some (n, bytes)
  | k + 1, n, bytes => (goOn? bytes).bind fun p => takeTail k (n * 64 + p.1) p.2

lemma goOn_cons {b : UInt8} (h : Continues b) (rest : List UInt8) :
    goOn? (b :: rest) = some (bits b, rest) := by
  rw [goOn?, continuation_of_continues h, Option.map_some]

lemma takeTail_append {tail : List UInt8} (htail : ∀ b ∈ tail, Continues b) (n : Nat)
    (rest : List UInt8) : takeTail tail.length n (tail ++ rest) = some (number n tail, rest) := by
  induction tail generalizing n with
  | nil => rfl
  | cons b tail ih =>
    rw [List.forall_mem_cons] at htail
    rw [List.length_cons, List.cons_append, takeTail, goOn_cons htail.1, Option.bind_some,
      ih htail.2, number_cons]

lemma scalar_toNat {least : Nat} {c : Char} (h : least ≤ c.toNat) :
    scalar? least c.toNat = some c := by
  have hvalid : c.toNat.isValidChar := c.valid
  rw [scalar?, if_pos ⟨h, hvalid⟩, Char.ofNat_toNat]

lemma decode_ascii {a : UInt8} (h : a.toNat < 0x80) (rest : List UInt8) :
    decode? (a :: rest) = (decode? rest).map (Char.ofNat a.toNat :: ·) := by
  rw [decode?.eq_def]
  exact if_pos h

/-- After a first byte the reader goes on byte by byte. -/
lemma decode_first {first : UInt8} (h : 0xC0 ≤ first.toNat) (bytes : List UInt8) :
    decode? (first :: bytes) = (goOn? bytes).bind fun p =>
      if first.toNat < 0xE0 then
        (scalar? 0x80 ((first.toNat - 0xC0) * 64 + p.1)).bind fun c => (decode? p.2).map (c :: ·)
      else (goOn? p.2).bind fun q =>
        if first.toNat < 0xF0 then
          (scalar? 0x800 ((first.toNat - 0xE0) * 4096 + p.1 * 64 + q.1)).bind fun c =>
            (decode? q.2).map (c :: ·)
        else if first.toNat < 0xF8 then (goOn? q.2).bind fun r =>
          (scalar? 0x10000 ((first.toNat - 0xF0) * 262144 + p.1 * 4096 + q.1 * 64 + r.1)).bind
            fun c => (decode? r.2).map (c :: ·)
        else none := by
  rw [decode?.eq_def]
  dsimp only
  rw [if_neg (by omega), if_neg (by omega)]
  cases bytes with
  | nil => rfl
  | cons b rest =>
    dsimp only [goOn?]
    cases continuation? b with
    | none => rfl
    | some y =>
      rw [Option.bind_eq_bind, Option.bind_some, Option.map_some, Option.bind_some]
      refine if_congr Iff.rfl rfl ?_
      cases rest with
      | nil => rfl
      | cons b rest =>
        dsimp only [goOn?]
        cases continuation? b with
        | none => rfl
        | some z =>
          rw [Option.bind_eq_bind, Option.bind_some, Option.map_some, Option.bind_some]
          refine if_congr Iff.rfl rfl (if_congr Iff.rfl ?_ rfl)
          cases rest with
          | nil => rfl
          | cons b rest =>
            dsimp only [goOn?]
            cases continuation? b <;> rfl

/-- A first byte tells the reader over how many bytes to go on. -/
lemma decode_begins {f : ByteForm} {first : UInt8} (h : f.Begins first) (bytes : List UInt8) :
    decode? (first :: bytes) = (takeTail f.following (first.toNat - f.mark) bytes).bind fun p =>
      (scalar? f.least p.1).bind fun c => (decode? p.2).map (c :: ·) := by
  obtain ⟨hmark, hlimit⟩ := h
  cases f with
  | two =>
    dsimp only [mark, limit] at hmark hlimit
    rw [decode_first hmark]
    simp only [takeTail, following, mark, least, if_pos hlimit, Option.bind_assoc,
      Option.bind_some]
  | three =>
    dsimp only [mark, limit] at hmark hlimit
    have hnumber : ∀ y z, (first.toNat - 0xE0) * 4096 + y * 64 + z =
      ((first.toNat - 0xE0) * 64 + y) * 64 + z := by omega
    rw [decode_first (by omega)]
    simp only [takeTail, following, mark, least, if_neg (Nat.not_lt.mpr hmark),
      if_pos hlimit, Option.bind_assoc, Option.bind_some, hnumber]
  | four =>
    dsimp only [mark, limit] at hmark hlimit
    have hthree : ¬ first.toNat < 0xE0 := by omega
    have hnumber : ∀ y z w, (first.toNat - 0xF0) * 262144 + y * 4096 + z * 64 + w =
      (((first.toNat - 0xF0) * 64 + y) * 64 + z) * 64 + w := by omega
    rw [decode_first (by omega)]
    simp only [takeTail, following, mark, least, if_neg hthree,
      if_neg (Nat.not_lt.mpr hmark), if_pos hlimit, Option.bind_assoc, Option.bind_some, hnumber]

lemma decode_of_writes {f : ByteForm} {unit : List UInt8} {n : Nat} (h : Writes f unit n)
    (rest : List UInt8) :
    decode? (unit ++ rest) = (scalar? f.least n).bind fun c => (decode? rest).map (c :: ·) := by
  cases h with
  | intro hfirst hlength htail hn =>
    rw [List.cons_append, decode_begins hfirst, ← hlength, takeTail_append htail,
      Option.bind_some, ← hn]

lemma decode_encodeChar_append (c : Char) (rest : List UInt8) :
    decode? (encodeChar c ++ rest) = (decode? rest).map (c :: ·) := by
  by_cases h : c.toNat < 0x80
  · have hbyte : (UInt8.ofNat c.toNat).toNat = c.toNat := toNat_byte (by omega)
    rw [encodeChar_ascii h, List.singleton_append, decode_ascii (by omega), hbyte,
      Char.ofNat_toNat]
  · obtain ⟨f, hwrites, hle⟩ := exists_writes_encodeChar (Nat.le_of_not_lt h)
    rw [decode_of_writes hwrites, scalar_toNat hle, Option.bind_some]

/-- What is written in UTF-8 is read back. -/
theorem decode_encode (text : List Char) : decode? (encode text) = some text := by
  induction text with
  | nil => rfl
  | cons c rest ih =>
    rw [encode_cons, decode_encodeChar_append, ih]
    rfl

lemma encode_injective : Function.Injective encode := by
  intro a b h
  have hread := congrArg decode? h
  rw [decode_encode, decode_encode] at hread
  exact Option.some.inj hread

end SyntaxCheck.Proofs
