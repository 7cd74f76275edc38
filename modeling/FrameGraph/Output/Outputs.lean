import FrameGraph.Output.Console
import FrameGraph.Output.FileWriter

/-!
# The processors at hand

Frames are reported, discarded, or written to files.
-/

namespace FrameGraph

/-- A processor that comes with the library. -/
inductive Output
  | console (c : ConsoleReport)
  | discard (d : Discard)
  | file (w : FileWriter)
  deriving DecidableEq, Repr

namespace Output

/-- Whether frames of a format are taken. -/
def supports : Output → PixelFormat → Bool
  | .file w, f => w.supports f
  | _, _ => true

def configure (o : Output) (p : Params) (files : FileTree) : Result Unit × Output × FileTree :=
  match o with
  | .console c =>
    let (r, c) := c.configure p
    (r.mapError .error, .console c, files)
  | .discard d =>
    let (r, d) := d.configure p
    (r.mapError .error, .discard d, files)
  | .file w =>
    let (r, w, files) := w.configure p files
    (r.mapError .error, .file w, files)

def process (o : Output) (b : FrameBuffer) (files : FileTree) : Result Unit × Output × FileTree :=
  match o with
  | .console c =>
    let (r, c) := c.process b
    (r.mapError .error, .console c, files)
  | .discard d => (.ok (), .discard d, files)
  | .file w =>
    let (r, w, files) := w.process b files
    (r, .file w, files)

instance : Processor FileTree Output where
  supports := supports
  configure o p _ files := o.configure p files
  process := process

end Output

end FrameGraph
