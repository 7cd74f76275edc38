import FrameGraph.Decimal.Integer
import FrameGraph.Decimal.Rounding

/-!
# Reading floating-point numbers

The grammar is an optional sign, then decimal digits with an optional point (a digit on at least
one side) and an optional exponent, or one of the words for infinity and not-a-number in any case.
The value is rounded once.
-/

namespace FrameGraph.Decimal

/-- A decimal number as written: the digits before and after the point, and the exponent. -/
structure Literal where
  whole : List Char
  fraction : List Char
  exponent : Int

/-- Whether a character is an ASCII digit. -/
def isDigit (c : Char) : Bool := (digitValue? c).isSome

/-- The number written by decimal digits; other characters count as zero. -/
def digitsValue (cs : List Char) : Nat :=
  cs.foldl (fun n c => n * 10 + (digitValue? c).getD 0) 0

/-- The exponent of a number, an optional sign and at least one digit, up to the end. -/
def exponent? (cs : List Char) : Option Int :=
  let read (cs : List Char) : Option Nat :=
    if cs.isEmpty || !cs.all isDigit then none else some (digitsValue cs)
  match cs with
  | '+' :: r => (read r).map Int.ofNat
  | '-' :: r => (read r).map fun n => -(n : Int)
  | r => (read r).map Int.ofNat

/-- Read an unsigned decimal number that fills the whole text. -/
def literal? (cs : List Char) : Option Literal :=
  let whole := cs.takeWhile isDigit
  let rest := cs.dropWhile isDigit
  let (fraction, rest) :=
    match rest with
    | '.' :: r => (r.takeWhile isDigit, r.dropWhile isDigit)
    | r => ([], r)
  if whole.isEmpty && fraction.isEmpty then none
  else match rest with
    | [] => some ⟨whole, fraction, 0⟩
    | c :: r => if c == 'e' || c == 'E' then (exponent? r).map (⟨whole, fraction, ·⟩) else none

def Literal.bits (l : Literal) : Nat :=
  let digits := (l.whole ++ l.fraction).dropWhile (· == '0')
  nearestBitsScaled (digitsValue digits) digits.length (l.exponent - l.fraction.length)

def signedBits (negative : Bool) (bits : Nat) : UInt64 :=
  UInt64.ofNat (if negative then bits + 0x8000000000000000 else bits)

/-- The code that stands for not-a-number. -/
def nanBits : Nat := 0x7ff8000000000000

/-- Read the code of a floating-point number; not-a-number keeps its sign. -/
def readFloatBits (s : String) : Except NumberFault UInt64 :=
  if s.isEmpty then .error .emptyFloat
  else
    let (negative, cs) :=
      match s.toList with
      | '-' :: r => (true, r)
      | '+' :: r => (false, r)
      | r => (false, r)
    let word := String.ofList (cs.map Char.toLower)
    let bits :=
      if word == "inf" || word == "infinity" then some infinityBits
      else if word == "nan" then some nanBits
      else (literal? cs).map Literal.bits
    match bits with
    | some b => .ok (signedBits negative b)
    | none => .error .invalidFloat

def readFloat (s : String) : Except NumberFault Float := (readFloatBits s).map Float.ofBits

end FrameGraph.Decimal
