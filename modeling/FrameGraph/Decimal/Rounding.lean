/-!
# Rounding to a double

A positive fraction is rounded to the nearest double, a tie going to the even neighbour. The result
is given by its 64 bits, in which neighbouring doubles have neighbouring codes.
-/

namespace FrameGraph.Decimal

/-- The greatest `k` with `2 ^ k ≤ num / den`. -/
def floorLog2 (num den : Nat) : Int :=
  let k : Int := (num.log2 : Int) - den.log2
  if den * Nat.pow 2 k.toNat ≤ num * Nat.pow 2 (-k).toNat then k else k - 1

/-- Round the quotient to the nearest natural number, a tie to the even one. -/
def divRoundEven (num den : Nat) : Nat :=
  let q := num / den
  let r := num % den
  if 2 * r < den then q
  else if den < 2 * r then q + 1
  else if q % 2 == 0 then q else q + 1

def infinityBits : Nat := 0x7ff0000000000000

def nearestBits (num den : Nat) : Nat :=
  if num == 0 then 0
  else
    let e := max (floorLog2 num den - 52) (-1074)
    let m := divRoundEven (num * Nat.pow 2 (-e).toNat) (den * Nat.pow 2 e.toNat)
    min infinityBits ((e + 1074).toNat * 0x10000000000000 + m)

/-- The code of the double nearest to `digits * 10 ^ exponent`, where `digits` has `count` digits.
Values far outside the range of doubles are not computed. -/
def nearestBitsScaled (digits : Nat) (count : Nat) (exponent : Int) : Nat :=
  if digits == 0 then 0
  else if (count : Int) + exponent < -330 then 0
  else if 330 < exponent then infinityBits
  else nearestBits (digits * Nat.pow 10 exponent.toNat) (Nat.pow 10 (-exponent).toNat)

end FrameGraph.Decimal
