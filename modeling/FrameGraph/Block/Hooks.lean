import FrameGraph.Block.Parameters
import FrameGraph.Frame.Pool

/-!
# Hooks

A source gets its frames from a generator, a sink gives them to a processor. Both are told the
parameters of their block when it is configured. They may refuse with an error or abort; what they
changed before that stays changed.
-/

namespace FrameGraph

/-! ### Generators -/

/-- What a call of a generator leaves behind. -/
structure Generated (γ : Type) where
  outcome : Result (Option FrameBuffer)
  generator : γ
  pool : BufferPool

/-- Something that makes the frames of a source. -/
class Generator (γ : Type) where
  /-- Whether frames of this format can be made. -/
  supports : γ → PixelFormat → Bool
  /-- Read parameters; the format is the one that the source settled on. -/
  configure : γ → Params → FrameInfo → Result Unit × γ
  /-- Notice that the source was started. -/
  opened : γ → γ := id
  /-- Make the next frame, perhaps in a region of the pool; nothing may be ready. -/
  generate : γ → FrameInfo → BufferPool → Generated γ
  /-- Whether nothing more comes before the source is started again. -/
  resting : γ → Bool := fun _ => false

def Generator.formats {γ : Type} [Generator γ] (g : γ) : List PixelFormat :=
  PixelFormat.all.filter (Generator.supports g)

/-! ### Processors -/

/-- Something that consumes the frames of a sink. It may change the world around it. -/
class Processor (ω : outParam Type) (π : Type) where
  /-- Whether frames of this format can be consumed. -/
  supports : π → PixelFormat → Bool := fun _ _ => true
  /-- Read parameters; the format is the one that the sink expects. -/
  configure : π → Params → FrameInfo → ω → Result Unit × π × ω
  /-- Whether a frame is let through at once; otherwise it is held until the world changes. -/
  admits : π → ω → Bool := fun _ _ => true
  /-- Consume a frame. -/
  process : π → FrameBuffer → ω → Result Unit × π × ω

def Processor.formats {ω π : Type} [Processor ω π] (p : π) : List PixelFormat :=
  PixelFormat.all.filter (Processor.supports p)

end FrameGraph
