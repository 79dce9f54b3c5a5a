/-!
# Similar words

How alike two words are, as a fraction between nothing and one: characters match if they are the
same and stand at nearly the same place, and matches in a different order count for less.
-/

namespace SyntaxCheck.Similarity

structure Ratio where
  num : Nat
  den : Nat
deriving DecidableEq

namespace Ratio

/-- Whether one ratio is smaller than another, which is decided by cross multiplication. -/
def lt (a b : Ratio) : Bool :=
  decide (a.num * b.den < b.num * a.den)

end Ratio

/-- Mark the first place of a character between two bounds that is not marked yet. Places are
counted from `index`. -/
def markFirst (c : Char) (low high index : Nat) : List (Char × Bool) → Option (List (Char × Bool))
  | [] => none
  | (d, marked) :: rest =>
    if high ≤ index then none
    else if low ≤ index ∧ c = d ∧ !marked then some ((d, true) :: rest)
    else (markFirst c low high (index + 1) rest).map ((d, marked) :: ·)

/-- Match the characters of a word, the first of which stands at `index`, with places of another
word that are at most `reach` away. The result is the matched characters, and the other word with
its marks. -/
def matching (reach index : Nat) (other : List (Char × Bool)) :
    List Char → List Char × List (Char × Bool)
  | [] => ([], other)
  | c :: rest =>
    match markFirst c (index - reach) (index + reach + 1) 0 other with
    | some other =>
      let (found, other) := matching reach (index + 1) other rest
      (c :: found, other)
    | none => matching reach (index + 1) other rest

/-- The Jaro similarity of two words. -/
def similarity (a b : List Char) : Ratio :=
  if a.isEmpty ∧ b.isEmpty then ⟨1, 1⟩
  else
    let reach := max a.length b.length / 2 - 1
    let (inA, marked) := matching reach 0 (b.map (·, false)) a
    let inB := (marked.filter (·.2)).map (·.1)
    let m := inA.length
    if m = 0 then ⟨0, 1⟩
    else
      let moved := ((inA.zip inB).countP fun (x, y) => x ≠ y) / 2
      ⟨m * m * b.length + m * m * a.length + (m - moved) * a.length * b.length,
        3 * m * a.length * b.length⟩

/-- The better of two words; of two that are equally good the later one. -/
def better (best : Option (Ratio × String)) (next : Ratio × String) : Option (Ratio × String) :=
  match best with
  | none => some next
  | some old => if next.1.lt old.1 then some old else some next

/-- The word most like `text` among those that are like it to more than seven tenths. -/
def closest? (text : String) (words : List String) : Option String :=
  let rated := words.map fun w => (similarity text.toList w.toList, w)
  ((rated.filter fun r => (Ratio.mk 7 10).lt r.1).foldl better none).map (·.2)

end SyntaxCheck.Similarity
