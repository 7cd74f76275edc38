import FrameGraph.Words

/-!
# Statistics

What a block counts: frames processed and dropped, bytes, a running average of the latency, and the
number of frames waiting.
-/

namespace FrameGraph

/-- The counters of a block. -/
structure Statistics where
  processed : Nat := 0
  dropped : Nat := 0
  bytes : Nat := 0
  latency : Float := 0
  queueDepth : Nat := 0

namespace Statistics

/-- The weight of the old average when a new latency comes in. -/
def smoothing : Float := 0.9

def maxQueueDepth : Nat := 0xffffffff

def seconds (nanos : Nat) : Float :=
  (UInt64.ofNat (nanos / 1000000000)).toFloat
    + (UInt64.ofNat (nanos % 1000000000)).toFloat / 1000000000

/-- Count a processed frame. The frame counts even when the bytes leave their word. -/
def recordProcessed (s : Statistics) (bytes nanos : Nat) : Checked Unit × Statistics :=
  let s := { s with processed := s.processed + 1 }
  match Checked.add Checked.word64 s.bytes bytes with
  | .error p => (.error p, s)
  | .ok bytes =>
    let sample := seconds nanos * 1000
    (.ok (), { s with bytes, latency := s.latency * smoothing + sample * (1 - smoothing) })

def recordDropped (s : Statistics) : Statistics := { s with dropped := s.dropped + 1 }

def recordDrops (s : Statistics) (n : Nat) : Statistics := { s with dropped := s.dropped + n }

def setQueueDepth (s : Statistics) (depth : Nat) : Statistics :=
  { s with queueDepth := min depth maxQueueDepth }

/-- Whether the average number of frames per second is zero: no frame was processed. -/
def rateIsZero (s : Statistics) : Bool := s.processed == 0

end Statistics

end FrameGraph
