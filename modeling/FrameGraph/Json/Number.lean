import FrameGraph.Decimal.Float
import FrameGraph.Json.Value

/-!
# JSON numbers

An integer that fits 64 bits stays one. Any other number becomes a double in steps: as many leading
digits as fit a 64-bit word are read as one integer, which is rounded to a double and then scaled by
powers of ten, each step rounding once. A number that leaves the range of doubles is refused.
-/

namespace FrameGraph.Json

open Decimal (digitValue? isDigit digitsValue nearestBits)

def maxWord : Nat := 0xffffffffffffffff

/-- The greatest exponent whose digits are counted. -/
def maxExponent : Nat := 0x7fffffff

/-- Read digits after `n` as long as the word holds the result; the second part counts them. -/
def readFitting (n : Nat) : List Char → Nat × Nat
  | [] => (n, 0)
  | c :: cs =>
    let m := n * 10 + (digitValue? c).getD 0
    if maxWord < m then (n, 0)
    else
      let (r, k) := readFitting m cs
      (r, k + 1)

def powerOfTen (k : Nat) : Float := Float.ofBits (UInt64.ofNat (nearestBits (Nat.pow 10 k) 1))

/-- Scale a double by `10 ^ e`, at most `10 ^ 308` at a time. -/
def scale : (tries : Nat) → Float → Int → Option Float
  | tries, f, e =>
    if e.natAbs ≤ 308 then
      if 0 ≤ e then
        let g := f * powerOfTen e.natAbs
        if g.isInf then none else some g
      else some (f / powerOfTen e.natAbs)
    else if f == 0 then some f
    else if 0 ≤ e then none
    else match tries with
      | 0 => some 0
      | tries + 1 => scale tries (f / powerOfTen 308) (e + 308)

/-- The double written by the digits before and after the point and the exponent. -/
def doubleOf (whole fraction : List Char) (positive : Bool) (exponent : List Char) :
    Option Float :=
  let (s, k) := readFitting 0 whole
  let (s, l) := readFitting s fraction
  let start : Int := (whole.length : Int) - k - l
  let power := digitsValue exponent
  if maxExponent < power then
    if s != 0 && positive then none else some 0
  else
    let e := if positive then start + power else start - power
    scale 4 (UInt64.ofNat s).toFloat e

/-- The exponent after the letter: its sign and its digits, and what follows. -/
def exponentPart? : List Char → Option (Bool × List Char × List Char)
  | c :: r =>
    if c == 'e' || c == 'E' then
      let (positive, r) :=
        match r with
        | '+' :: r => (true, r)
        | '-' :: r => (false, r)
        | r => (true, r)
      let digits := r.takeWhile isDigit
      if digits.isEmpty then none else some (positive, digits, r.dropWhile isDigit)
    else some (true, [], c :: r)
  | [] => some (true, [], [])

def magnitude? (negative : Bool) (cs : List Char) : Option (Json × List Char) :=
  let whole := cs.takeWhile isDigit
  let rest := cs.dropWhile isDigit
  if whole.isEmpty || (whole.head? == some '0' && 1 < whole.length) then none
  else do
    let (fraction, rest, pointed) ← match rest with
      | '.' :: r =>
        let digits := r.takeWhile isDigit
        if digits.isEmpty then none else some (digits, r.dropWhile isDigit, true)
      | r => some ([], r, false)
    let (positive, exponent, rest) ← exponentPart? rest
    let n := digitsValue whole
    let plain := !pointed && exponent.isEmpty
    if plain && !negative && n ≤ maxWord then return (integer n, rest)
    else if plain && negative && n != 0 && n ≤ 0x8000000000000000 then
      return (integer (-(n : Int)), rest)
    else
      let x ← doubleOf whole fraction positive exponent
      return (double (if negative then -x else x), rest)

/-- A number at the start of the characters, and what follows it. -/
def number? : List Char → Option (Json × List Char)
  | '-' :: cs => magnitude? true cs
  | cs => magnitude? false cs

end FrameGraph.Json
