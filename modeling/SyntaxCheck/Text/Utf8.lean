/-!
# UTF-8

Texts as byte sequences. `encode` writes the one form that each character has, and `decode?` reads
those forms alone: overlong forms, surrogates, values above U+10FFFF, stray and missing continuation
bytes all give `none`.
-/

namespace SyntaxCheck.Utf8

/-- The bytes of one character, shortest form. -/
def encodeChar (c : Char) : List UInt8 :=
  let n := c.toNat
  if n < 0x80 then [UInt8.ofNat n]
  else if n < 0x800 then [UInt8.ofNat (0xC0 + n / 64), UInt8.ofNat (0x80 + n % 64)]
  else if n < 0x10000 then
    [UInt8.ofNat (0xE0 + n / 4096), UInt8.ofNat (0x80 + n / 64 % 64), UInt8.ofNat (0x80 + n % 64)]
  else
    [UInt8.ofNat (0xF0 + n / 262144), UInt8.ofNat (0x80 + n / 4096 % 64),
      UInt8.ofNat (0x80 + n / 64 % 64), UInt8.ofNat (0x80 + n % 64)]

def encode (text : List Char) : List UInt8 :=
  text.flatMap encodeChar

/-- The six payload bits of a continuation byte. -/
def continuation? (b : UInt8) : Option Nat :=
  if 0x80 ≤ b.toNat ∧ b.toNat < 0xC0 then some (b.toNat - 0x80) else none

/-- The character numbered `n`, if it is a scalar value that needs a form as long as the one it was
read from: `least` is the smallest number with that length. -/
def scalar? (least n : Nat) : Option Char :=
  if least ≤ n ∧ n.isValidChar then some (Char.ofNat n) else none

/-- The text that a byte sequence writes, if it is well formed. -/
def decode? : List UInt8 → Option (List Char)
  | [] => some []
  | a :: rest =>
    if a.toNat < 0x80 then (decode? rest).map (Char.ofNat a.toNat :: ·)
    else if a.toNat < 0xC0 then none
    else
      match rest with
      | [] => none
      | b :: rest => do
        let y ← continuation? b
        if a.toNat < 0xE0 then
          let c ← scalar? 0x80 ((a.toNat - 0xC0) * 64 + y)
          (decode? rest).map (c :: ·)
        else
          match rest with
          | [] => none
          | b :: rest =>
            let z ← continuation? b
            if a.toNat < 0xF0 then
              let c ← scalar? 0x800 ((a.toNat - 0xE0) * 4096 + y * 64 + z)
              (decode? rest).map (c :: ·)
            else if a.toNat < 0xF8 then
              match rest with
              | [] => none
              | b :: rest =>
                let w ← continuation? b
                let c ← scalar? 0x10000 ((a.toNat - 0xF0) * 262144 + y * 4096 + z * 64 + w)
                (decode? rest).map (c :: ·)
            else none

end SyntaxCheck.Utf8
