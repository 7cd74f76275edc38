import FrameGraph.Frame.Format

/-!
# Frame metadata

What is known about a frame besides its bytes: geometry, format, the time of its capture, its number
in the sequence of its source, and the handle of its storage when that belongs to a producer.
-/

namespace FrameGraph

/-- Metadata of a frame. A zero timestamp or sequence number means that none was given. -/
structure FrameInfo where
  width : UInt32 := 0
  height : UInt32 := 0
  stride : UInt32 := 0
  format : PixelFormat := .unknown
  timestamp : Nat := 0
  sequence : Nat := 0
  hardware : Option Nat := none
  deriving DecidableEq, Repr, Inhabited

namespace FrameInfo

/-- Metadata of a picture whose rows follow each other without padding. -/
def ofGeometry (width height : UInt32) (format : PixelFormat) : Checked FrameInfo :=
  (format.defaultStride width).map fun stride => { width, height, stride, format }

def frameSize (i : FrameInfo) : Checked Nat := i.format.payloadSize i.width i.height

/-- Whether the storage belongs to a producer. -/
def isHardware (i : FrameInfo) : Bool := i.hardware.isSome

/-- Whether geometry and format agree, whatever the times and owners. -/
def sameFormat (a b : FrameInfo) : Bool :=
  a.width == b.width && a.height == b.height && a.format == b.format

/-! ### Texts -/

/-- A short text: dimensions and format, and what differs from the usual. -/
def display (i : FrameInfo) : Checked String := do
  let usual ← i.format.defaultStride i.width
  return s!"{i.width.toNat}x{i.height.toNat} {i.format.label}"
    ++ (if i.stride != usual then s!" stride={i.stride.toNat}" else "")
    ++ (if 0 < i.timestamp then s!" ts={i.timestamp}us" else "")
    ++ (if 0 < i.sequence then s!" seq={i.sequence}" else "")

def describeHandle : Option Nat → String
  | none => "None"
  | some h => s!"Some(HardwareHandle({h}))"

def describe (i : FrameInfo) : String :=
  "FrameInfo \x7b " ++ s!"width: {i.width.toNat}, height: {i.height.toNat}, "
    ++ s!"stride: {i.stride.toNat}, format: {i.format.name}, timestamp_us: {i.timestamp}, "
    ++ s!"sequence: {i.sequence}, hardware: {describeHandle i.hardware}" ++ " \x7d"

end FrameInfo

end FrameGraph
