import FrameGraph.Block.Core
import FrameGraph.Clock
import FrameGraph.Decimal.Shortest
import FrameGraph.Frame.Storage

/-!
# Emission

A source emits frames at a limited rate. An admitted frame is stamped with the time and with the
next number, and handed to the consumer. A frame that comes too early is dropped, one that nobody
wants is not counted at all.
-/

namespace FrameGraph

/-! ### Consumers -/

/-- Someone who looks at frames as they are emitted: notes them, also keeps them, or is aborted in
some of the calls to come; it notes the frames of the others. -/
inductive Tap
  | notes
  | keeps
  | aborts (calls : List Bool)
  deriving DecidableEq, Repr

/-- A tap that is aborted in one call, counted from one. -/
def Tap.abortsAt : Nat → Tap
  | 0 => .notes
  | n + 1 => .aborts (List.replicate n false ++ [true])

/-- Where emitted frames go: to the sinks with these numbers, one reference each and in this order,
or to a tap. -/
inductive Consumer
  | fanOut (targets : List Nat)
  | tap (t : Tap)
  deriving DecidableEq, Repr

/-! ### State -/

/-- The emitting half of a source. -/
structure SourceEngine where
  core : BlockCore
  consumer : Option Consumer := none
  fps : Float := 30
  interval : Nat := 33333
  lastEmit : Option Nat := none
  sequence : Nat := 0

namespace SourceEngine

/-- The greatest number of frames per second. -/
def maxRate : Float := 1000

def timeLimit : Nat := 0xffffffffffffffff

/-! ### Rate -/

def isRate (fps : Float) : Bool := 0 < fps && fps ≤ maxRate

def rateError (fps : Float) : Error :=
  .invalidParameter "fps"
    s!"{Decimal.showFloat fps} not in (0, {Decimal.showFloat maxRate}]"

/-- The microseconds between two frames, rounded down. -/
def intervalOf (fps : Float) : Nat := (1000000 / fps).toUInt64.toNat

def setRate (e : SourceEngine) (fps : Float) : Except Error Unit × SourceEngine :=
  if isRate fps then (.ok (), { e with fps, interval := intervalOf fps })
  else (.error (rateError fps), e)

/-! ### Admission -/

/-- When the next frame is admitted; zero if it is admitted at any time. -/
def due (e : SourceEngine) : Nat :=
  match e.lastEmit with
  | none => 0
  | some last => min (last + e.interval) timeLimit

def admits (e : SourceEngine) (now : Nat) : Bool := e.due ≤ now

/-- Forget when the last frame was emitted. -/
def resetAdmission (e : SourceEngine) : SourceEngine := { e with lastEmit := none }

/-! ### Emission -/

/-- What becomes of a frame that is to be emitted. -/
inductive Emission
  | unheard
  | early
  | admitted (consumer : Consumer) (buffer : FrameBuffer)
  deriving DecidableEq, Repr

/-- Look for a consumer, check the rate, and stamp the frame. -/
def begin (e : SourceEngine) (b : FrameBuffer) (now : Nat) : Emission × SourceEngine :=
  match e.consumer with
  | none => (.unheard, e)
  | some c =>
    if e.admits now then
      let sequence := e.sequence + 1
      (.admitted c (b.stamp now sequence), { e with sequence, lastEmit := some now })
    else (.early, { e with core := e.core.recordDropped })

/-- The consumer took a frame of this size. -/
def delivered (e : SourceEngine) (bytes : Nat) : Checked Unit × SourceEngine :=
  let (r, core) := e.core.recordProcessed bytes 0
  (r, { e with core })

/-- The consumer was aborted: the block fails. -/
def undelivered (e : SourceEngine) (p : Panic) : Option Report × SourceEngine :=
  let (core, report) := e.core.fail s!"frame consumer panicked: {p.message}"
  (report, { e with core })

end SourceEngine

end FrameGraph
