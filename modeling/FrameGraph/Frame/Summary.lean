import FrameGraph.Frame.Buffer

/-!
# Summaries of frames
-/

namespace FrameGraph

/-- What is noted of a frame: its number, its first byte, and its size. -/
structure Summary where
  sequence : Nat
  tag : Option UInt8
  size : Nat
  deriving DecidableEq, Repr

def FrameBuffer.summary (b : FrameBuffer) : Summary := ⟨b.info.sequence, b.data.head?, b.size⟩

end FrameGraph
