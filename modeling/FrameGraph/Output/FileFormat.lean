import FrameGraph.Frame.Buffer
import FrameGraph.Pattern.Color

/-!
# File formats for pictures

A picture is written as its bare payload, as a portable pixmap (colours, without any opacity), or
as a portable graymap (brightness). The last two start with a header that tells the dimensions.
-/

namespace FrameGraph

/-- How a picture is written to a file. -/
inductive FileFormat
  | raw
  | ppm
  | pgm
  deriving DecidableEq, Repr

namespace FileFormat

/-- The end of the names of files in this format. -/
def fileExtension : FileFormat → String
  | .raw => "raw"
  | .ppm => "ppm"
  | .pgm => "pgm"

def name : FileFormat → String
  | .raw => "Raw"
  | .ppm => "Ppm"
  | .pgm => "Pgm"

def words : List (String × FileFormat) :=
  [("raw", .raw), ("yuv", .raw), ("ppm", .ppm), ("pgm", .pgm)]

/-- Read a format; blanks around the word and the case of its letters do not matter. -/
def read (s : String) : Except Error FileFormat :=
  let word := Text.asciiLower (Text.trim s)
  match words.lookup word with
  | some f => .ok f
  | none => .error (.invalidParameter "format" s!"unknown file format '{word}'")

/-- Whether pictures of a pixel format can be written. -/
def supports : FileFormat → PixelFormat → Bool
  | .raw, f => f != .unknown
  | .ppm, f => f == .rgb24 || f == .rgba32
  | .pgm, f => f == .rgb24 || f == .yuv420p || f == .nv12 || f == .nv21

/-! ### Encoding -/

/-- The first line of a header with the dimensions and the greatest value. -/
def header (magic : String) (width height : UInt32) : List UInt8 :=
  s!"{magic}\n{width.toNat} {height.toNat}\n255\n".toUTF8.toList

def withoutOpacity : (count : Nat) → List UInt8 → List UInt8
  | count + 1, r :: g :: b :: _ :: rest => r :: g :: b :: withoutOpacity count rest
  | _, _ => []

def brightness : (count : Nat) → List UInt8 → List UInt8
  | count + 1, r :: g :: b :: rest => (Color.mk r g b).luma :: brightness count rest
  | _, _ => []

def firstBytes (n : Nat) (data : List UInt8) : Checked (List UInt8) :=
  if n ≤ data.length then .ok (data.take n)
  else .error (.said s!"range end index {n} out of range for slice of length {data.length}")

def encode (f : FileFormat) (b : FrameBuffer) : Checked (List UInt8) :=
  let pixels := PixelFormat.pixels b.info.width b.info.height
  match f with
  | .raw => .ok b.data
  | .ppm => do
    let body ← match b.info.format with
      | .rgba32 => .ok (withoutOpacity pixels b.data)
      | _ => firstBytes (← Checked.mul Checked.word64 pixels 3) b.data
    return header "P6" b.info.width b.info.height ++ body
  | .pgm => do
    let body ← match b.info.format with
      | .rgb24 => .ok (brightness pixels b.data)
      | _ => .ok (b.data.take pixels)
    return header "P5" b.info.width b.info.height ++ body

end FileFormat

end FrameGraph
