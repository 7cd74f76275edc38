import FrameGraph.Output.Outputs
import FrameGraph.Pattern.Generator
import FrameGraph.Pipeline.Manager

/-!
# The blocks at hand

A source of test patterns and three sinks come with the library. They can be made with any hooks
that have a place for a test pattern and for an output.
-/

namespace FrameGraph

/-- The blocks at hand by the names of their types. -/
def Block.builtins {γ π : Type} (pattern : TestPattern → γ) (output : Output → π) :
    List (String × Block γ π) :=
  let source (type : String) (g : TestPattern) := (type, .source (.new type (pattern g)))
  let sink (type : String) (o : Output) := (type, .sink (.new type (output o)))
  [source "TestPatternSource" {}, sink "ConsoleSink" (.console {}), sink "NullSink" (.discard {}),
    sink "FileSink" (.file {})]

/-- A constructor that always makes the same block. -/
def Constructor.always {σ β : Type} (b : β) : Constructor σ β := fun s => (.ok b, s)

def Registry.builtins : Registry FileTree (Block TestPattern Output) :=
  ({} : Registry FileTree (Block TestPattern Output)).registerAll
    ((Block.builtins id id).map fun (type, b) => (type, .always b))

end FrameGraph
