import FrameGraph.Decimal.Integer
import FrameGraph.Error
import FrameGraph.Text.Blank
import FrameGraph.Text.Split

/-!
# Colours

A colour is written as a number sign with two hexadecimal digits per channel, or as three decimal
numbers separated by commas. A number may have a plus sign, also as the first of two hexadecimal
characters.
-/

namespace FrameGraph

/-- The channels of a colour. -/
structure Color where
  red : UInt8
  green : UInt8
  blue : UInt8
  deriving DecidableEq, Repr

namespace Color

def gray (v : UInt8) : Color := ⟨v, v, v⟩

def channels (c : Color) : List UInt8 := [c.red, c.green, c.blue]

/-- The brightness of a colour, rounded down. -/
def luma (c : Color) : UInt8 :=
  (0.299 * c.red.toFloat + 0.587 * c.green.toFloat + 0.114 * c.blue.toFloat).toUInt8

/-! ### Reading -/

def hexValue? (c : Char) : Option Nat :=
  if '0' ≤ c ∧ c ≤ '9' then some (c.toNat - '0'.toNat)
  else if 'a' ≤ c ∧ c ≤ 'f' then some (c.toNat - 'a'.toNat + 10)
  else if 'A' ≤ c ∧ c ≤ 'F' then some (c.toNat - 'A'.toNat + 10)
  else none

def hexChannel? (a b : Char) : Option UInt8 :=
  if a == '+' then (hexValue? b).map UInt8.ofNat
  else do return UInt8.ofNat ((← hexValue? a) * 16 + (← hexValue? b))

def decimalChannel? (s : List Char) : Option UInt8 :=
  match Decimal.readNat 255 (String.ofList (Text.trimChars s)) with
  | .ok n => some (UInt8.ofNat n)
  | .error _ => none

/-- A colour in either notation, without blanks around it. -/
def ofChars? : List Char → Option Color
  | '#' :: hex =>
    match hex with
    | [a, b, c, d, e, f] => do
      return ⟨← hexChannel? a b, ← hexChannel? c d, ← hexChannel? e f⟩
    | _ => none
  | cs =>
    match Text.splitAll ',' cs with
    | [r, g, b] => do
      return ⟨← decimalChannel? r, ← decimalChannel? g, ← decimalChannel? b⟩
    | _ => none

def read (s : String) : Except Error Color :=
  match ofChars? (Text.trimChars s.toList) with
  | some c => .ok c
  | none => .error (.invalidParameter "color" s!"'{s}' is neither #rrggbb nor r,g,b")

end Color

end FrameGraph
