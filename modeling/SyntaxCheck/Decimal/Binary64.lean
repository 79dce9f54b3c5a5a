/-!
# Binary64 numbers and their shortest decimals

A decimal numeral stands for the nearest binary64 number, ties going to the even significand.
In turn a binary64 number is written with the fewest digits that read back as the same number, the
closest to it where several do, and always in positional notation.
-/

namespace SyntaxCheck

/-- The numeral `digits * 10 ^ exponent`. -/
structure Decimal where
  digits : Nat
  exponent : Int
deriving DecidableEq

/-- A binary64 number that is not negative: `significand * 2 ^ exponent`, or infinity. -/
inductive Binary64
  | finite (significand : Nat) (exponent : Int)
  | infinite
deriving DecidableEq

namespace Binary64

/-- `num / den` rounded to an integer, a half going to the even neighbour. -/
def roundHalfEven (num den : Nat) : Nat :=
  let q := num / den
  let r := num % den
  if 2 * r < den then q
  else if den < 2 * r then q + 1
  else if q % 2 = 0 then q else q + 1

/-- The quotient `num / den * base ^ e` as a pair of naturals. -/
def scale (num den base : Nat) (e : Int) : Nat × Nat :=
  match e with
  | .ofNat k => (num * base.pow k, den)
  | .negSucc k => (num, den * base.pow (k + 1))

/-- The smallest significand that takes all 53 bits. -/
def leadingBit : Nat := Nat.pow 2 52

/-- The binary64 number nearest to `num / den`. Significands take 53 bits as long as the exponent
is at least -1074, and past the exponent 971 everything is infinite. -/
def ofRatio (num den : Nat) : Binary64 :=
  if num = 0 then .finite 0 0
  else
    let guess : Int := (Nat.log2 num : Int) - (Nat.log2 den : Int) - 52
    let (n, d) := scale num den 2 (-guess)
    let exact := if n / d < leadingBit then guess - 1 else guess
    let e := max exact (-1074)
    let (n, d) := scale num den 2 (-e)
    let m := roundHalfEven n d
    let (m, e) := if m = 2 * leadingBit then (leadingBit, e + 1) else (m, e)
    if 971 < e then .infinite else .finite m e

/-- The binary64 number nearest to a numeral. Numerals far outside the range of the format are
decided by their magnitude alone. -/
def ofDecimal (x : Decimal) : Binary64 :=
  let magnitude : Int := (Nat.toDigits 10 x.digits).length + x.exponent
  if x.digits = 0 ∨ magnitude < -400 then .finite 0 0
  else if 400 < magnitude then .infinite
  else
    let (n, d) := scale x.digits 1 10 x.exponent
    ofRatio n d

/-- The exponent of the leading decimal digit of `num / den`, for a ratio that is not zero. -/
def leadingExponent (num den : Nat) : Int :=
  if den ≤ num then (Nat.toDigits 10 (num / den)).length - 1
  else
    match (List.range 400).find? fun k => den ≤ num * Nat.pow 10 (k + 1) with
    | some k => -(k + 1 : Int)
    | none => 0

/-- The numeral with the last digit at `10 ^ e` that is nearest to `num / den` among those that read
back as `target`. -/
def onGrid? (target : Binary64) (num den : Nat) (e : Int) : Option Decimal :=
  let (n, d) := scale num den 10 (-e)
  let low : Decimal := ⟨n / d, e⟩
  let high : Decimal := ⟨n / d + 1, e⟩
  let near := roundHalfEven n d
  if near = low.digits then
    if ofDecimal low = target then some low
    else if ofDecimal high = target then some high else none
  else if ofDecimal high = target then some high
  else if ofDecimal low = target then some low else none

/-- The shortest numeral that reads back as the number; `none` for infinity. -/
def toDecimal? : Binary64 → Option Decimal
  | .infinite => none
  | .finite 0 _ => some ⟨0, 0⟩
  | .finite m e =>
    let (n, d) := scale m 1 2 e
    let lead := leadingExponent n d
    (List.range 17).findSome? fun k => onGrid? (.finite m e) n d (lead - (k : Nat))

/-- The digits of a numeral in positional notation, without a point where it would be last. -/
def positional (x : Decimal) : String :=
  let digits := Nat.toDigits 10 x.digits
  match x.exponent with
  | .ofNat k => String.ofList (digits ++ (if x.digits = 0 then [] else List.replicate k '0'))
  | .negSucc k =>
    let padded := List.replicate (k + 2 - digits.length) '0' ++ digits
    let fraction := (padded.drop (padded.length - (k + 1))).reverse.dropWhile (· == '0') |>.reverse
    let whole := padded.take (padded.length - (k + 1))
    String.ofList (if fraction.isEmpty then whole else whole ++ '.' :: fraction)

/-- The number in positional notation with the fewest digits that read back. -/
def text (x : Binary64) : String :=
  match x.toDecimal? with
  | none => "inf"
  | some d => positional d

end Binary64

end SyntaxCheck
