import FrameGraph.Pattern.Generator
import FrameGraph.Rehearsal.Recorder
import FrameGraph.Network.Schedule

/-!
# The hooks of rehearsed graphs

A rehearsed graph is made of the generators and processors at hand, of scripted sources and
recording sinks, and of the plainest source and sink that there are.
-/

namespace FrameGraph

/-! ### Generators -/

/-- A generator in a rehearsed graph. -/
inductive PlayedGenerator
  | pattern (g : TestPattern)
  | script (s : Script)
  /-- Makes empty pictures in two planes. -/
  | bare
  deriving DecidableEq, Repr

namespace PlayedGenerator

/-- Whether frames of a format can be made. -/
def supports : PlayedGenerator → PixelFormat → Bool
  | .pattern g, f => g.supports f
  | .script s, f => inFormats s.formats f
  | .bare, f => f.planeCount == 2

def configure (g : PlayedGenerator) (p : Params) : Result Unit × PlayedGenerator :=
  match g with
  | .pattern g =>
    let (r, g) := g.configure p
    (r.mapError .error, .pattern g)
  | .script s =>
    let (r, s) := s.configure p
    (r.mapError .error, .script s)
  | .bare => (.ok (), .bare)

def generate (g : PlayedGenerator) (info : FrameInfo) (pool : BufferPool) :
    Generated PlayedGenerator :=
  match g with
  | .pattern g =>
    let made := g.generate info pool
    ⟨made.outcome, .pattern made.generator, made.pool⟩
  | .script s =>
    let made := s.generate info pool
    ⟨made.outcome, .script made.generator, made.pool⟩
  | .bare => ⟨(FrameBuffer.forInfo info).map some, .bare, pool⟩

instance : Generator PlayedGenerator where
  supports := supports
  configure g p _ := g.configure p
  opened
    | .script s => .script s.opened
    | g => g
  generate := generate
  resting
    | .script s => s.resting
    | _ => false

end PlayedGenerator

/-! ### Processors -/

/-- A processor in a rehearsed graph. -/
inductive PlayedProcessor
  | output (o : Output)
  | recorder (r : Recorder)
  /-- Takes every frame. -/
  | bare
  deriving DecidableEq, Repr

namespace PlayedProcessor

/-- Whether frames of a format are taken. -/
def supports : PlayedProcessor → PixelFormat → Bool
  | .output o, f => o.supports f
  | .recorder r, f => inFormats r.formats f
  | .bare, _ => true

def configure (p : PlayedProcessor) (params : Params) (w : Stage) :
    Result Unit × PlayedProcessor × Stage :=
  match p with
  | .output o =>
    let (r, o, files) := o.configure params w.files
    (r, .output o, { w with files })
  | .recorder r =>
    let (result, r, w) := r.configure params w
    (result.mapError .error, .recorder r, w)
  | .bare => (.ok (), .bare, w)

def process (p : PlayedProcessor) (b : FrameBuffer) (w : Stage) :
    Result Unit × PlayedProcessor × Stage :=
  match p with
  | .output o =>
    let (r, o, files) := o.process b w.files
    (r, .output o, { w with files })
  | .recorder r =>
    let (result, w) := r.process b w
    (result, .recorder r, w)
  | .bare => (.ok (), .bare, w)

/-- Whether a frame is let through at once. -/
def admits : PlayedProcessor → Stage → Bool
  | .recorder r, w => r.admits w
  | _, _ => true

instance : Processor Stage PlayedProcessor where
  supports := supports
  configure p params _ w := p.configure params w
  admits := admits
  process := process

end PlayedProcessor

/-! ### Rehearsals -/

abbrev PlayedNetwork := Network Stage PlayedGenerator PlayedProcessor

abbrev PlayedBlock := Block PlayedGenerator PlayedProcessor

namespace Rehearsal

/-- The sink whose processor has a record and holds a frame back. -/
def holder? (s : PlayedNetwork) (record : Nat) : Option Nat :=
  (List.range s.blocks.length).find? fun i =>
    match s.sink? i with
    | some ⟨{ worker := .processing _, .. }, .recorder r, _, _⟩ => r.number == some record
    | _ => false

/-- Let the frame that is held back at the gate of a record through, if there is one. -/
def permit (s : PlayedNetwork) (record : Nat) : PlayedNetwork :=
  match (holder? s record).bind fun i => s.perform (.letThrough i) with
  | some s => s
  | none => s

def openGate (s : PlayedNetwork) (record : Nat) : PlayedNetwork :=
  { s with world := s.world.mapRecord record fun r => { r with closed := false } }

def releaseKept (s : PlayedNetwork) : PlayedNetwork :=
  { s with storage := s.storage.releaseAll s.kept, kept := [] }

end Rehearsal

end FrameGraph
