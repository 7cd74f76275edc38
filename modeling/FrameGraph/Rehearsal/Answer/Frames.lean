import FrameGraph.Files.Tree
import FrameGraph.Frame.Storage
import FrameGraph.Frame.Summary
import FrameGraph.Pattern.Color
import FrameGraph.Rehearsal.Answer.Basic

/-!
# Answers about frames
-/

namespace FrameGraph.Answer

def info (i : FrameInfo) : Json :=
  .object [("width", nat i.width.toNat), ("height", nat i.height.toNat),
    ("stride", nat i.stride.toNat), ("format", .string i.format.label),
    ("timestamp_us", nat i.timestamp), ("sequence", nat i.sequence),
    ("hardware", option nat i.hardware)]

def formats (fs : List PixelFormat) : Json := .array (fs.map fun f => .string f.label)

def color (c : Color) : Json := .array (c.channels.map fun b => nat b.toNat)

def planeLayout (l : PlaneLayout) : Json :=
  .object [("offset", nat l.offset), ("len", nat l.length), ("stride", nat l.stride.toNat)]

def plane (p : Plane) : Json :=
  .object [("stride", nat p.stride.toNat), ("data", bytes p.data)]

/-- A buffer with the number of references to it, and more that is to be said. -/
def buffer (b : FrameBuffer) (refs : Option Nat) (more : List (String × Json)) : Json :=
  .object ([("info", info b.info), ("size", nat b.size), ("capacity", nat b.capacity),
    ("valid", .bool b.isValid), ("recycled", .bool b.isRecycled), ("planes", nat b.planeCount),
    ("refs", option nat refs)] ++ more)

def pool (p : BufferPool) : Json :=
  .object [("limit", nat p.limit), ("allocated", nat p.allocated), ("recycled", nat p.recycled),
    ("exhausted", nat p.exhausted), ("free", nat p.free.length), ("live", nat p.live)]

def keptRegion (entry : Region × Option Nat) : Json :=
  .array [nat entry.1.capacity, option nat entry.2, bytes entry.1.bytes]

def tag (b : Option UInt8) : Json := option (fun b => nat b.toNat) b

def summary (m : Summary) : Json := .array [nat m.sequence, tag m.tag, nat m.size]

def files (t : FileTree) (place : List String) : Json :=
  .object ((t.filesBelow place).map fun (names, bs) => ("/".intercalate names, bytes bs))

end FrameGraph.Answer
