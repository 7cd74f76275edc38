import FrameGraph.Block.Hooks
import FrameGraph.Sink.Engine

/-!
# Sinks

A sink is a queue whose worker hands the frames to a processor.
-/

namespace FrameGraph

/-- A block that consumes frames. -/
structure SinkBlock (π : Type) where
  engine : SinkEngine
  processor : π
  format : FrameInfo := { width := 640, height := 480, stride := 1920, format := .rgb24 }
  pinned : Option Nat := none

namespace SinkBlock

variable {ω π : Type} [Processor ω π]

def new (type : String) (processor : π) : SinkBlock π :=
  { engine := { core := { typeName := type } }, processor }

def core (s : SinkBlock π) : BlockCore := s.engine.core

def mapCore (f : BlockCore → BlockCore) (s : SinkBlock π) : SinkBlock π :=
  { s with engine := { s.engine with core := f s.engine.core } }

/-! ### Configuration -/

/-- The settings of a sink in its parameters. -/
structure Settings where
  depth : Nat
  policy : Backpressure
  pinned : Option Nat
  deriving DecidableEq, Repr

/-- Read the settings. Their depth is not checked here. -/
def Settings.read (p : Params) : Except Error Settings := do
  let depth ← p.read "queue_depth" Params.word64
  let blocking ← p.readBool "blocking"
  let pinned ← p.read "cpu_core" Params.word64
  return {
    depth := depth.getD SinkEngine.defaultDepth
    policy := if blocking.getD true then .block else .dropOldest
    pinned }

def apply (s : SinkBlock π) (settings : Settings) : Except Error Unit × SinkBlock π :=
  match s.engine.setMaxDepth settings.depth with
  | (.error e, _) => (.error e, s)
  | (.ok (), engine) =>
    (.ok (), { s with engine := engine.setPolicy settings.policy, pinned := settings.pinned })

/-- Read the parameters, configure the processor, and take the settings over. -/
def applyParameters (s : SinkBlock π) (world : ω) : Result Unit × SinkBlock π × ω :=
  match Settings.read s.core.params with
  | .error e => (refuse e, s, world)
  | .ok settings =>
    match Processor.configure s.processor s.core.params s.format world with
    | (.error f, processor, world) => (.error f, { s with processor }, world)
    | (.ok (), processor, world) =>
      let (r, s) := { s with processor }.apply settings
      (r.mapError .error, s, world)

/-- Configure the block. A refusal of its parameters makes the block fail. -/
def configure (s : SinkBlock π) (world : ω) : Result Unit × SinkBlock π × ω × Option Report :=
  match s.core.require "configure" [.uninitialized, .initialized] with
  | .error e => (refuse e, s, world, none)
  | .ok () =>
    match s.applyParameters world with
    | (.ok (), s, world) =>
      (.ok (), s.mapCore fun c => { c with state := .initialized }, world, none)
    | (.error (.error e), s, world) =>
      let (core, report) := s.core.fail e.message
      (refuse e, s.mapCore fun _ => core, world, report)
    | (.error (.panic p), s, world) => (.error (.panic p), s, world, none)

/-! ### Formats -/

/-- Whether frames of a format can be consumed. -/
def supports (s : SinkBlock π) (f : PixelFormat) : Bool := Processor.supports s.processor f

def setFormat (s : SinkBlock π) (info : FrameInfo) : Except Error Unit × SinkBlock π :=
  if s.core.isRunning then (.error (.invalidState "set_input_format" .running), s)
  else if !s.supports info.format then
    (.error (.invalidParameter "format" s!"{info.format.label} not supported"), s)
  else (.ok (), { s with format := info })

end SinkBlock

end FrameGraph
