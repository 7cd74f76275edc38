import FrameGraph.Decimal.Rounding

/-!
# The shortest decimal of a double

Every real number between the midpoints to a double's two neighbours rounds to that double; the
midpoints themselves do so when the double's code is even. Among the decimals in this interval those
with the fewest digits are looked for, and of these the one nearest to the double. It is written
without an exponent and without a trailing point.
-/

namespace FrameGraph.Decimal

/-! ### The interval of a double -/

/-- The positive real number `mantissa * 2 ^ exponent` of a double, with its interval: a real
`v` belongs to it when `low ≤ v ≤ high`, both in units of `2 ^ (exponent - 2)`. -/
structure Interval where
  mantissa : Nat
  exponent : Int
  low : Nat
  high : Nat
  closed : Bool

/-- The interval of a finite positive double, from its code without the sign. -/
def Interval.ofBits (bits : Nat) : Interval :=
  let field : Nat := bits / 0x10000000000000
  let fraction : Nat := bits % 0x10000000000000
  let m := if field == 0 then fraction else fraction + 0x10000000000000
  let e : Int := if field == 0 then -1074 else (field : Int) - 1075
  let below := if fraction == 0 && 1 < field then 1 else 2
  ⟨m, e, 4 * m - below, 4 * m + 2, m % 2 == 0⟩

def Interval.contains (i : Interval) (c : Nat) (p : Int) : Bool :=
  let e := i.exponent - 2
  let v := c * Nat.pow 10 p.toNat * Nat.pow 2 (-e).toNat
  let unit := Nat.pow 2 e.toNat * Nat.pow 10 (-p).toNat
  if i.closed then i.low * unit ≤ v && v ≤ i.high * unit
  else i.low * unit < v && v < i.high * unit

/-! ### The search -/

/-- The neighbours of the double among the multiples of `10 ^ p`, as the lower of the two and
whether the upper one is at least as near. -/
def Interval.neighbour (i : Interval) (p : Int) : Nat × Bool :=
  let num := i.mantissa * Nat.pow 2 i.exponent.toNat * Nat.pow 10 (-p).toNat
  let den := Nat.pow 10 p.toNat * Nat.pow 2 (-i.exponent).toNat
  (num / den, den ≤ 2 * (num % den))

/-- The multiple of `10 ^ p` in the interval that is nearest to the double. -/
def Interval.pick? (i : Interval) (p : Int) : Option Nat :=
  let (c, up) := i.neighbour p
  match i.contains c p && c != 0, i.contains (c + 1) p with
  | true, true => some (if up then c + 1 else c)
  | true, false => some c
  | false, true => some (c + 1)
  | false, false => none

/-- Try ever finer grids of decimals, `10 ^ p` first. -/
def Interval.search (i : Interval) : Nat → Int → Nat × Int
  | 0, p => ((i.neighbour p).1, p)
  | tries + 1, p =>
    match i.pick? p with
    | some c => (c, p)
    | none => i.search tries (p - 1)

/-- The shortest decimal `c * 10 ^ p` of a finite positive double. -/
def shortest (bits : Nat) : Nat × Int :=
  let i := Interval.ofBits bits
  let start : Int := ((i.mantissa.log2 : Int) + i.exponent) * 30103 / 100000 + 1
  i.search 20 start

/-! ### Writing -/

def positional (c : Nat) (p : Int) : String :=
  let digits := (Nat.toDigits 10 c).reverse.dropWhile (· == '0') |>.reverse
  let p := p + ((Nat.toDigits 10 c).length - digits.length : Nat)
  if 0 ≤ p then String.ofList (digits ++ List.replicate p.toNat '0')
  else
    let places := (-p).toNat
    if places < digits.length then
      String.ofList (digits.take (digits.length - places) ++ ['.'] ++
        digits.drop (digits.length - places))
    else
      String.ofList (['0', '.'] ++ List.replicate (places - digits.length) '0' ++ digits)

/-- A double as text: the fewest digits that read back, never an exponent. -/
def showFloat (x : Float) : String :=
  let bits := x.toBits.toNat
  let sign := if 0x8000000000000000 ≤ bits then "-" else ""
  let bits := bits % 0x8000000000000000
  if infinityBits < bits then "NaN"
  else if bits == infinityBits then sign ++ "inf"
  else if bits == 0 then sign ++ "0"
  else
    let (c, p) := shortest bits
    sign ++ positional c p

end FrameGraph.Decimal
