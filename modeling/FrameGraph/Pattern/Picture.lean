import FrameGraph.Frame.Buffer
import FrameGraph.Pattern.Color
import FrameGraph.Pattern.Kind

/-!
# Test pictures

A test picture gives every point of a frame a colour, which depends on the kind of the picture, its
own colour, and, for the moving box, on the number of the frame. Coordinates are 32-bit words, and a
product or sum of them that leaves the word aborts. Drawing writes the colours in the order and
depth that the pixel format asks for.
-/

namespace FrameGraph

/-- What is drawn. -/
structure Picture where
  kind : PatternKind := .bars
  color : Color := .gray 255
  counter : Nat := 0
  deriving DecidableEq, Repr

namespace Picture

open Checked (word32 add mul)

/-! ### The colour of a point -/

/-- The colours of the bars, from left to right. -/
def barColors : List Color :=
  [⟨255, 255, 255⟩, ⟨255, 255, 0⟩, ⟨0, 255, 255⟩, ⟨0, 255, 0⟩, ⟨255, 0, 255⟩, ⟨255, 0, 0⟩,
   ⟨0, 0, 255⟩, ⟨0, 0, 0⟩]

/-- The edge of a square of the checkerboard. -/
def checkSize : Nat := 32

def boxSize : Nat := 64

def barColor (width x : Nat) : Color :=
  barColors.getD (min (x / max (width / 8) 1) 7) (.gray 0)

/-- The colour of a point of the checkerboard. -/
def checkColor (x y : Nat) : Color :=
  if (x / checkSize + y / checkSize) % 2 = 0 then .gray 255 else .gray 0

/-- How far along `extent` a point lies, as a channel. -/
@[inline] def ramp (x extent : Nat) : Checked UInt8 :=
  (mul word32 x 255).map fun n => UInt8.ofNat (n / extent)

/-- The colour of a point of the gradient. -/
def gradientColor (width height x y : Nat) : Checked Color := do
  let red ← ramp x width
  let green ← ramp y height
  let reach ← mul word32 (← add word32 x y) 255
  let extent ← add word32 width height
  return ⟨red, green, UInt8.ofNat (reach / extent)⟩

/-- The upper left corner of the moving box: it walks along the upper edge, then down the right
edge, then starts anew. -/
def boxOrigin (counter width height : Nat) : Checked (Nat × Nat) := do
  let maxX := width - boxSize
  let maxY := height - boxSize
  let period ← add word32 (← add word32 maxX maxY) 1
  let pos := counter % period
  return if pos ≤ maxX then (pos, 0) else (maxX, pos - maxX)

/-- Whether a point lies in the box with the given corner. -/
def inBox (bx b_y x y : Nat) : Bool :=
  bx ≤ x && x < bx + boxSize && b_y ≤ y && y < b_y + boxSize

def colorAt (p : Picture) (width height x y : Nat) : Checked Color :=
  match p.kind with
  | .solid | .noise => .ok p.color
  | .bars => .ok (barColor width x)
  | .checkerboard => .ok (checkColor x y)
  | .gradient => gradientColor width height x y
  | .movingBox =>
    (boxOrigin p.counter width height).map fun (bx, b_y) =>
      if inBox bx b_y x y then p.color else .gray 0

/-! ### Drawing -/

/-- The bytes of a point in the formats that keep whole pixels together. -/
def pixelBytes (f : PixelFormat) (c : Color) : List UInt8 :=
  match f with
  | .rgb24 => [c.red, c.green, c.blue]
  | .bgr24 => [c.blue, c.green, c.red]
  | .rgba32 => [c.red, c.green, c.blue, 255]
  | .bgra32 => [c.blue, c.green, c.red, 255]
  | .yuyv => [c.luma, 128]
  | .yuv420p => [c.luma]
  | _ => []

/-- The bytes of the points from column `x` on in one row. -/
def rowBytes (p : Picture) (f : PixelFormat) (width height y columns x : Nat) :
    Checked (List UInt8) := do
  let colors ← (List.range' x columns).mapM fun x => p.colorAt width height x y
  return colors.flatMap (pixelBytes f)

def planeBytes (p : Picture) (f : PixelFormat) (width height columns : Nat) :
    (rows y : Nat) → Checked (List UInt8)
  | 0, _ => .ok []
  | rows + 1, y => do
    let row ← p.rowBytes f width height y columns 0
    let rest ← planeBytes p f width height columns rows (y + 1)
    return row ++ rest

def drawFirstPlane (p : Picture) (bytesPerPixel : Nat) (b : FrameBuffer) : Checked FrameBuffer := do
  match ← b.layout 0 with
  | none => return b
  | some l =>
    if l.stride = 0 then throw .emptyChunk
    else
      let stride := l.stride.toNat
      let bytes ← p.planeBytes b.info.format b.info.width.toNat b.info.height.toNat
        (stride / bytesPerPixel) (l.length / stride) 0
      return b.writePlane l bytes

def fillPlane (plane : Nat) (v : UInt8) (b : FrameBuffer) : Checked FrameBuffer := do
  match ← b.layout plane with
  | none => return b
  | some l => return b.writePlane l (List.replicate l.length v)

/-- Draw a picture; formats without a rule stay as they are. -/
def draw (p : Picture) (b : FrameBuffer) : Checked FrameBuffer :=
  match b.info.format with
  | .rgb24 | .bgr24 | .rgba32 | .bgra32 | .yuyv =>
    p.drawFirstPlane (b.info.format.bytesPerPixel?.getD 3) b
  | .yuv420p => do
    let b ← p.drawFirstPlane 1 b
    let b ← fillPlane 1 128 b
    fillPlane 2 128 b
  | _ => .ok b

end Picture

end FrameGraph
