import FrameGraph.Error
import FrameGraph.Text.Blank
import FrameGraph.Text.LetterCase

/-!
# Pixel formats

A pixel format fixes how many bytes a picture takes and how they are divided into planes. Sizes and
offsets depend on the format and the dimensions alone. All of them are products of 32-bit
dimensions, computed in 64-bit words; row strides are 32-bit words.
-/

namespace FrameGraph

/-- The known layouts of pixels in memory. -/
inductive PixelFormat
  | unknown
  | rgb24
  | bgr24
  | rgba32
  | bgra32
  | yuv420p
  | nv12
  | nv21
  | yuyv
  | uyvy
  deriving DecidableEq, Repr, Inhabited

/-- The byte range of one plane within a payload, and the bytes per row. -/
structure PlaneLayout where
  offset : Nat
  length : Nat
  stride : UInt32
  deriving DecidableEq, Repr

namespace PixelFormat

open Checked (word64 mul mul32)

/-! ### Names -/

def all : List PixelFormat :=
  [.rgb24, .bgr24, .rgba32, .bgra32, .yuv420p, .nv12, .nv21, .yuyv, .uyvy]

/-- The name of a format in configurations and messages. -/
def label : PixelFormat → String
  | .unknown => "UNKNOWN"
  | .rgb24 => "RGB24"
  | .bgr24 => "BGR24"
  | .rgba32 => "RGBA32"
  | .bgra32 => "BGRA32"
  | .yuv420p => "YUV420P"
  | .nv12 => "NV12"
  | .nv21 => "NV21"
  | .yuyv => "YUYV"
  | .uyvy => "UYVY"

def name : PixelFormat → String
  | .unknown => "Unknown"
  | .rgb24 => "Rgb24"
  | .bgr24 => "Bgr24"
  | .rgba32 => "Rgba32"
  | .bgra32 => "Bgra32"
  | .yuv420p => "Yuv420p"
  | .nv12 => "Nv12"
  | .nv21 => "Nv21"
  | .yuyv => "Yuyv"
  | .uyvy => "Uyvy"

/-- The format with exactly this label; the unknown format has a label as well. -/
def ofLabel? (s : String) : Option PixelFormat := (.unknown :: all).find? (·.label == s)

/-- Read the name of a format; blanks around it and the case of ASCII letters do not matter. -/
def read (s : String) : Except Error PixelFormat :=
  match all.find? (·.label == Text.asciiUpper (Text.trim s)) with
  | some f => .ok f
  | none => .error (.invalidParameter "format" s!"unknown pixel format '{s}'")

/-! ### Sizes -/

/-- The bytes of one pixel, for the formats that keep all of them in one plane. -/
def bytesPerPixel? : PixelFormat → Option Nat
  | .rgb24 | .bgr24 => some 3
  | .rgba32 | .bgra32 => some 4
  | .yuyv | .uyvy => some 2
  | _ => none

def planeCount : PixelFormat → Nat
  | .unknown => 0
  | .yuv420p => 3
  | .nv12 | .nv21 => 2
  | _ => 1

/-- The number of pixels of a picture. It always fits a 64-bit word. -/
def pixels (width height : UInt32) : Nat := width.toNat * height.toNat

def payloadSize (f : PixelFormat) (width height : UInt32) : Checked Nat :=
  match f with
  | .unknown => .ok 0
  | .yuv420p | .nv12 | .nv21 => (mul word64 (pixels width height) 3).map (· / 2)
  | _ => mul word64 (pixels width height) (f.bytesPerPixel?.getD 0)

/-- The bytes per row of the first plane. -/
def defaultStride (f : PixelFormat) (width : UInt32) : Checked UInt32 :=
  match f.bytesPerPixel? with
  | some b => mul32 width.toNat b
  | none => .ok width

/-- Where a plane lies. The planes of a picture follow each other without gaps. -/
def planeLayout (f : PixelFormat) (width height : UInt32) (plane : Nat) :
    Checked (Option PlaneLayout) :=
  let px := pixels width height
  match f, plane with
  | .unknown, _ => .ok none
  | .yuv420p, 0 => .ok (some ⟨0, px, width⟩)
  | .yuv420p, 1 => .ok (some ⟨px, px / 4, width / 2⟩)
  | .yuv420p, 2 => (mul word64 px 5).map fun n => some ⟨n / 4, px / 4, width / 2⟩
  | .nv12, 0 | .nv21, 0 => .ok (some ⟨0, px, width⟩)
  | .nv12, 1 | .nv21, 1 => .ok (some ⟨px, px / 2, width⟩)
  | .yuv420p, _ | .nv12, _ | .nv21, _ => .ok none
  | f, 0 => do
    match f.bytesPerPixel? with
    | none => return none
    | some b =>
      let length ← mul word64 px b
      let stride ← mul32 width.toNat b
      return some ⟨0, length, stride⟩
  | _, _ => .ok none

end PixelFormat

end FrameGraph
