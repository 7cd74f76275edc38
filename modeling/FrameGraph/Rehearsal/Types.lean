import FrameGraph.Pipeline.Builtins
import FrameGraph.Rehearsal.Hooks

/-!
# The types of rehearsed blocks

The constructors of all blocks that a rehearsed graph may hold, by the names of their types.
-/

namespace FrameGraph.Rehearsal

abbrev BlockConstructor := Constructor Stage PlayedBlock

def source (type : String) (g : PlayedGenerator) : PlayedBlock := .source (.new type g)

def sink (type : String) (p : PlayedProcessor) : PlayedBlock := .sink (.new type p)

def stage (type : String) (isSource isSink : Bool) : PlayedBlock :=
  .stage ⟨{ typeName := type }, isSource, isSink⟩

/-! ### Types -/

/-- The blocks that come with the library. -/
def builtins : List (String × BlockConstructor) :=
  (Block.builtins PlayedGenerator.pattern PlayedProcessor.output).map fun (type, b) =>
    (type, .always b)

/-- Blocks for rehearsals with and without threads. -/
def doubles : List (String × BlockConstructor) :=
  [("ScriptedSource", Constructor.always (source "ScriptedSource" (.script {}))),
   ("RecorderSink", Constructor.always (sink "RecorderSink" (.recorder {}))),
   ("BareSource", Constructor.always (source "BareSource" .bare)),
   ("BareSink", Constructor.always (sink "BareSink" .bare)),
   ("TrackedSource", Constructor.always (stage "TrackedSource" true false)),
   ("TrackedSink", Constructor.always (stage "TrackedSink" false true)),
   ("TrackedFilter", Constructor.always (stage "TrackedFilter" true true)),
   ("TrackedOther", Constructor.always (stage "TrackedOther" false false))]

def refusing : BlockConstructor := fun w => (refuse (.config "missing firmware"), w)

def aborting (p : Panic) : BlockConstructor := fun w => (.error (.panic p), w)

/-- A sink that takes a while for each frame. -/
def slowSink : PlayedBlock := sink "DelaySink" (.output (.discard ⟨1⟩))

def allTypes : Registry Stage PlayedBlock :=
  ({} : Registry Stage PlayedBlock).registerAll
    (builtins ++ doubles ++ [("FailCtor", refusing), ("PanicCtor", aborting (.said "no device"))])

end FrameGraph.Rehearsal
