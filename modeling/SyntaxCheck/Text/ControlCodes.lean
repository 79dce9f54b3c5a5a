/-!
# Control codes

What a plain terminal shows of a text: neither control characters, blanks and line ends apart, nor
the sequences that an escape character begins. A sequence is a letter, a bracket with parameters and
a letter, or a string that goes on until it is ended or the next escape character.
-/

namespace SyntaxCheck.ControlCodes

/-- Where a reader of control codes stands: outside of a sequence, after an escape character, after
more of a sequence of letters, among parameters, or in a string, which a bell may end. -/
inductive State
  | outside
  | escape
  | intermediate
  | parameters
  | string (endsAtBell : Bool)
deriving DecidableEq

/-- Whether a control character is shown all the same. -/
def isShownControl (n : Nat) : Bool :=
  n = 0x09 || n = 0x0A || n = 0x0C || n = 0x0D

/-- The state after a character of a sequence that is no control character. -/
def State.inSequence (n : Nat) : State → State
  | .outside => .outside
  | .escape =>
    if n < 0x30 then .intermediate
    else if n = '['.toNat then .parameters
    else if n = ']'.toNat then .string true
    else if n = 'P'.toNat ∨ n = 'X'.toNat ∨ n = '^'.toNat ∨ n = '_'.toNat then .string false
    else .outside
  | .intermediate => if n < 0x30 then .intermediate else .outside
  | .parameters => if n < 0x40 then .parameters else .outside
  | .string b => .string b

/-- Read a character: the next state, and whether the character is shown. -/
def State.read (s : State) (n : Nat) : State × Bool :=
  if n = 0x18 ∨ n = 0x1A then (.outside, false)
  else if n = 0x1B then (.escape, false)
  else
    match s with
    | .string b => (if b ∧ n = 0x07 then .outside else s, false)
    | _ =>
      if n < 0x20 then if isShownControl n then (.outside, true) else (s, false)
      else if n = 0x7F then (s, false)
      else if 0x80 ≤ n then (.outside, true)
      else if s = .outside then (s, true)
      else (s.inSequence n, false)

/-- The characters that are shown from a state on. -/
def shownFrom (s : State) : List Char → List Char
  | [] => []
  | c :: rest =>
    let (next, isShown) := s.read c.toNat
    if isShown then c :: shownFrom next rest else shownFrom next rest

/-- What is shown of a text. -/
def shown (text : List Char) : List Char :=
  shownFrom .outside text

end SyntaxCheck.ControlCodes
