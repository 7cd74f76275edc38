import FrameGraph.Block.Hooks
import FrameGraph.Source.Engine

/-!
# Sources

A source has a thread that asks a generator for frames and emits them.
-/

namespace FrameGraph

/-- Where the thread of a source is. -/
inductive SourceThread
  | absent
  /-- At the top of its loop. -/
  | checking
  /-- Sleeps until a time, or until it is asked to stop. -/
  | sleeping (wake : Nat)
  /-- Has a frame to emit. -/
  | offering (buffer : FrameBuffer)
  /-- Hands a frame of this size to the sinks still to come; it owns a reference as long as there
  are any. -/
  | delivering (frame : Frame) (targets : List Nat)
  /-- Waits for the answer of a sink; others are still to come. -/
  | submitting (frame : Frame) (targets : List Nat)
  | ended
  deriving DecidableEq, Repr

/-- A block that produces frames. -/
structure SourceBlock (γ : Type) where
  engine : SourceEngine
  generator : γ
  format : FrameInfo := { width := 640, height := 480, stride := 1920, format := .rgb24 }
  pool : Option Nat := none
  pinned : Option Nat := none
  stop : StopSignal := {}
  thread : SourceThread := .absent
  /-- The pool that the thread uses. -/
  lending : Nat := 0

namespace SourceBlock

variable {γ : Type} [Generator γ]

def new (type : String) (generator : γ) : SourceBlock γ :=
  { engine := { core := { typeName := type } }, generator }

def core (s : SourceBlock γ) : BlockCore := s.engine.core

def mapCore (f : BlockCore → BlockCore) (s : SourceBlock γ) : SourceBlock γ :=
  { s with engine := { s.engine with core := f s.engine.core } }

/-! ### Configuration -/

/-- The usual number of regions in the pool. -/
def defaultBuffers : Nat := 3

/-- Read the geometry; what is missing stays as it is. -/
def readFormat (s : SourceBlock γ) (p : Params) : Result FrameInfo := do
  let width ← (p.read "width" Params.word32).mapError .error
  let height ← (p.read "height" Params.word32).mapError .error
  let format ← (p.read "format" (Params.worded PixelFormat.read)).mapError .error
  let info := { s.format with
    width := width.getD s.format.width
    height := height.getD s.format.height
    format := format.getD s.format.format }
  if info.width = 0 ∨ info.height = 0 then
    refuse (.invalidParameter "width/height"
      s!"{info.width.toNat}x{info.height.toNat} is empty")
  let stride ← (info.format.defaultStride info.width).lift
  if !Generator.supports s.generator info.format then
    refuse (.invalidParameter "format"
      s!"{info.format.label} not supported by {s.core.typeName}")
  return { info with stride }

def readRate (p : Params) : Except Error (Option Float) := do
  match ← p.read "fps" Params.float with
  | none => return none
  | some fps =>
    if SourceEngine.isRate fps then return some fps else throw (SourceEngine.rateError fps)

/-- Open the pool with as many regions as the parameters want. -/
def readPool (p : Params) (storage : Storage) : Except Error (Nat × Storage) := do
  let count ← p.read "buffer_count" Params.word64
  storage.openPool (count.getD defaultBuffers)

def applyRate (s : SourceBlock γ) : Option Float → Except Error Unit × SourceBlock γ
  | none => (.ok (), s)
  | some fps =>
    let (r, engine) := s.engine.setRate fps
    (r, { s with engine })

/-- Read the parameters, configure the generator, and take the settings over. -/
def applyParameters (s : SourceBlock γ) (storage : Storage) :
    Result Unit × SourceBlock γ × Storage :=
  let params := s.core.params
  let read : Result (FrameInfo × Option Float × (Nat × Storage) × Option Nat) := do
    let format ← s.readFormat params
    let fps ← (readRate params).mapError .error
    let pool ← (readPool params storage).mapError .error
    let pinned ← (params.read "cpu_core" Params.word64).mapError .error
    return (format, fps, pool, pinned)
  match read with
  | .error f => (.error f, s, storage)
  | .ok (format, fps, (pool, opened), pinned) =>
    match Generator.configure s.generator params format with
    | (.error f, generator) => (.error f, { s with generator }, storage)
    | (.ok (), generator) =>
      match { s with generator }.applyRate fps with
      | (.error e, s) => (refuse e, s, storage)
      | (.ok (), s) => (.ok (), { s with format, pool := some pool, pinned }, opened)

/-- Configure the block. A refusal of its parameters makes the block fail. -/
def configure (s : SourceBlock γ) (storage : Storage) :
    Result Unit × SourceBlock γ × Storage × Option Report :=
  match s.core.require "configure" [.uninitialized, .initialized] with
  | .error e => (refuse e, s, storage, none)
  | .ok () =>
    match s.applyParameters storage with
    | (.ok (), s, storage) =>
      (.ok (), s.mapCore fun c => { c with state := .initialized }, storage, none)
    | (.error (.error e), s, storage) =>
      let (core, report) := s.core.fail e.message
      (refuse e, s.mapCore fun _ => core, storage, report)
    | (.error (.panic p), s, storage) => (.error (.panic p), s, storage, none)

/-! ### Formats -/

/-- Whether frames of a format can be made. -/
def supports (s : SourceBlock γ) (f : PixelFormat) : Bool := Generator.supports s.generator f

def setFormat (s : SourceBlock γ) (info : FrameInfo) : Except Error Unit × SourceBlock γ :=
  if s.core.isRunning then (.error (.invalidState "set_output_format" .running), s)
  else if !s.supports info.format then
    (.error (.invalidParameter "format" s!"{info.format.label} not supported"), s)
  else (.ok (), { s with format := info })

end SourceBlock

end FrameGraph
