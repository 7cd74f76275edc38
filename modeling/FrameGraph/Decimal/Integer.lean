/-!
# Reading integers

Integers are written in decimal with an optional sign. A reader has a range; it looks at the
characters from left to right and stops at the first one that is no digit or that leaves the range.
-/

namespace FrameGraph.Decimal

/-- Why a text is no number of the wanted kind. -/
inductive NumberFault
  | empty
  | invalidDigit
  | tooLarge
  | tooSmall
  | emptyFloat
  | invalidFloat
  deriving DecidableEq, Repr

def NumberFault.message : NumberFault → String
  | .empty => "cannot parse integer from empty string"
  | .invalidDigit => "invalid digit found in string"
  | .tooLarge => "number too large to fit in target type"
  | .tooSmall => "number too small to fit in target type"
  | .emptyFloat => "cannot parse float from empty string"
  | .invalidFloat => "invalid float literal"

def digitValue? (c : Char) : Option Nat :=
  if '0' ≤ c ∧ c ≤ '9' then some (c.toNat - '0'.toNat) else none

/-- Read digits after `acc`, failing with `beyond` as soon as `limit` is passed. -/
def readDigits (limit : Nat) (beyond : NumberFault) : Nat → List Char → Except NumberFault Nat
  | acc, [] => .ok acc
  | acc, c :: cs =>
    match digitValue? c with
    | none => .error .invalidDigit
    | some d =>
      if acc * 10 + d ≤ limit then readDigits limit beyond (acc * 10 + d) cs else .error beyond

def readMagnitude (limit : Nat) (beyond : NumberFault) (cs : List Char) :
    Except NumberFault Nat :=
  if cs.isEmpty then .error .invalidDigit else readDigits limit beyond 0 cs

/-- Read a number in `0, …, limit`; a plus sign may stand before it. -/
def readNat (limit : Nat) (s : String) : Except NumberFault Nat :=
  match s.toList with
  | [] => .error .empty
  | '+' :: cs => readMagnitude limit .tooLarge cs
  | cs => readMagnitude limit .tooLarge cs

/-- Read a number in `-limit - 1, …, limit`; a sign may stand before it. -/
def readInt (limit : Nat) (s : String) : Except NumberFault Int :=
  match s.toList with
  | [] => .error .empty
  | '+' :: cs => (readMagnitude limit .tooLarge cs).map Int.ofNat
  | '-' :: cs => (readMagnitude (limit + 1) .tooSmall cs).map fun n => -(n : Int)
  | cs => (readMagnitude limit .tooLarge cs).map Int.ofNat

end FrameGraph.Decimal
