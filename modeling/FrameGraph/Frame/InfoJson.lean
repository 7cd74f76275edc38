import FrameGraph.Frame.Info
import FrameGraph.Json.Value

/-!
# Frame metadata as JSON

Metadata is written as an object with all fields. It is read from such an object, whatever other
members it has, or from an array of exactly the fields in their order. Numbers must be integers in
the range of their field.
-/

namespace FrameGraph.FrameInfo

def word? (limit : Nat) : Json → Option Nat
  | .integer n => if 0 ≤ n ∧ n ≤ limit then some n.toNat else none
  | _ => none

def word32? (j : Json) : Option UInt32 := (word? (0xffffffff) j).map UInt32.ofNat

def word64? (j : Json) : Option Nat := word? (0xffffffffffffffff) j

/-- A format, by its label or as the only key of an object without content. -/
def format? : Json → Option PixelFormat
  | .string s => PixelFormat.ofLabel? s
  | .object [(s, .null)] => PixelFormat.ofLabel? s
  | _ => none

def handle? : Json → Option (Option Nat)
  | .null => some none
  | j => (word64? j).map some

def ofFields? (width height stride format timestamp sequence hardware : Json) :
    Option FrameInfo := do
  return {
    width := ← word32? width
    height := ← word32? height
    stride := ← word32? stride
    format := ← format? format
    timestamp := ← word64? timestamp
    sequence := ← word64? sequence
    hardware := ← handle? hardware }

def ofJson? (j : Json) : Option FrameInfo :=
  match j with
  | .array [a, b, c, d, e, f, g] => ofFields? a b c d e f g
  | .object _ => do
    ofFields? (← j.member? "width") (← j.member? "height") (← j.member? "stride")
      (← j.member? "format") (← j.member? "timestamp_us") (← j.member? "sequence")
      ((j.member? "hardware").getD .null)
  | _ => none

def toJson (i : FrameInfo) : Json :=
  .object [
    ("format", .string i.format.label),
    ("hardware", match i.hardware with | some h => .integer h | none => .null),
    ("height", .integer i.height.toNat),
    ("sequence", .integer i.sequence),
    ("stride", .integer i.stride.toNat),
    ("timestamp_us", .integer i.timestamp),
    ("width", .integer i.width.toNat)]

end FrameGraph.FrameInfo
