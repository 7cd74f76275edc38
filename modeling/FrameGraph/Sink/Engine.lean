import FrameGraph.Block.Core
import FrameGraph.Frame.Storage

/-!
# The queue of a sink

Producers offer frames from their own threads; one worker takes them in the order in which they were
accepted. When the queue is full, a producer waits for room, or the oldest frames are evicted.

Every operation here is atomic: it is what one thread does while it holds the lock of the queue, or
between two such stretches. A producer that waits is notified before it looks again, and so is a
worker. Operations name the frames that left the queue without reaching the worker, so that their
references can be released.
-/

namespace FrameGraph

/-! ### State -/

/-- What happens to an offer when the queue is full. -/
inductive Backpressure
  | block
  | dropOldest
  deriving DecidableEq, Repr

/-- Whoever offers a frame: the thread of a source, or a caller from outside. -/
inductive Producer
  | source (block : Nat)
  | caller (call : Nat)
  deriving DecidableEq, Repr

/-- A frame on its way into a queue. -/
structure Offer where
  producer : Producer
  frame : Frame
  deriving DecidableEq, Repr

/-- Where the thread of a sink is. -/
inductive Worker
  | absent
  /-- About to look at the queue. -/
  | seeking
  /-- Waits for a frame and has not been notified. -/
  | sleeping
  /-- Has taken a frame. -/
  | holding (frame : Frame)
  /-- Runs the processor, or waits until the processor lets the frame through. -/
  | processing (frame : Frame)
  | ended
  deriving DecidableEq, Repr

/-- The queue of a sink with the threads that work on it. -/
structure SinkEngine where
  core : BlockCore
  queue : List Frame := []
  maxDepth : Nat := 10
  policy : Backpressure := .block
  stopping : Bool := false
  /-- Producers that passed the first checks and have not yet come to the queue. -/
  approaching : List Offer := []
  /-- Producers that wait for room and have not been notified. -/
  waiting : List Offer := []
  /-- Producers that were notified and have not yet looked again. -/
  woken : List Offer := []
  worker : Worker := .absent

namespace SinkEngine

def defaultDepth : Nat := 10

def depthLimit : Nat := 1000

/-! ### Offering -/

/-- The first checks on a frame, made before the queue is locked. -/
def precheck (e : SinkEngine) (f : Frame) : Except Error Unit :=
  if !f.buffer.isValid || f.buffer.size == 0 then .error (.rejected "empty frame")
  else if e.core.state != .running then
    .error (.rejected s!"sink '{e.core.name}' is {e.core.state.label}")
  else .ok ()

def approach (e : SinkEngine) (o : Offer) : SinkEngine :=
  { e with approaching := e.approaching ++ [o] }

def wakeWorker (e : SinkEngine) : SinkEngine :=
  if e.worker = .sleeping then { e with worker := .seeking } else e

def push (e : SinkEngine) (f : Frame) : SinkEngine :=
  let queue := e.queue ++ [f]
  { e with queue, core := e.core.setQueueDepth queue.length }.wakeWorker

/-- Evict frames from the front until fewer than `limit` are left: first the evicted ones, then the
others. -/
def makeRoom (limit : Nat) : List Frame → List Frame × List Frame
  | [] => ([], [])
  | f :: rest =>
    if (f :: rest).length < limit then ([], f :: rest)
    else
      let (out, left) := makeRoom limit rest
      (f :: out, left)

/-- What becomes of an offer when its producer looks at the queue. -/
inductive Admission
  | accepted (evicted : List Frame)
  | refused (e : Error)
  | waits
  deriving DecidableEq, Repr

def consider (e : SinkEngine) (o : Offer) : Admission × SinkEngine :=
  if e.stopping then (.refused (.rejected "sink is stopping"), e)
  else if e.queue.length < e.maxDepth then (.accepted [], e.push o.frame)
  else match e.policy with
    | .block => (.waits, { e with waiting := e.waiting ++ [o] })
    | .dropOldest =>
      let (evicted, queue) := makeRoom e.maxDepth e.queue
      (.accepted evicted,
        { e with queue, core := e.core.recordDrops evicted.length }.push o.frame)

/-! ### The worker -/

def notifyProducer (e : SinkEngine) : SinkEngine :=
  match e.waiting with
  | [] => e
  | o :: rest => { e with waiting := rest, woken := e.woken ++ [o] }

def notifyProducers (e : SinkEngine) : SinkEngine :=
  { e with waiting := [], woken := e.woken ++ e.waiting }

/-- The worker looks at the queue: it ends, takes a frame, or falls asleep. -/
def seek (e : SinkEngine) : SinkEngine :=
  if e.stopping then { e with worker := .ended }
  else match e.queue with
    | [] => { e with worker := .sleeping }
    | f :: queue =>
      { e with
        queue
        core := e.core.setQueueDepth queue.length
        worker := .holding f }.notifyProducer

/-- The worker turns to the frame that it took: a block that failed drops it, which gives the frame
back for its release. -/
def begin (e : SinkEngine) (f : Frame) : Option Frame × SinkEngine :=
  if e.core.state = .error then
    (some f, { e with core := e.core.recordDropped, worker := .seeking })
  else (none, { e with worker := .processing f })

/-- The latency of a frame: its age if it has a time stamp. -/
def latency (f : Frame) (now : Nat) : Nat :=
  if f.buffer.info.timestamp = 0 then 0 else (now - f.buffer.info.timestamp) * 1000

/-- The processor is done with a frame. A frame that it refused is dropped; when it was aborted, the
block fails. A counter that leaves its word ends the worker. -/
def finish (e : SinkEngine) (f : Frame) (outcome : Result Unit) (now : Nat) :
    Option Report × SinkEngine :=
  match outcome with
  | .ok () =>
    match e.core.recordProcessed f.buffer.size (latency f now) with
    | (.ok (), core) => (none, { e with core, worker := .seeking })
    | (.error _, core) => (none, { e with core, worker := .ended })
  | .error (.error _) => (none, { e with core := e.core.recordDropped, worker := .seeking })
  | .error (.panic p) =>
    let (core, report) := e.core.recordDropped.fail s!"frame processor panicked: {p.message}"
    (report, { e with core, worker := .seeking })

/-! ### Control -/

/-- Set the depth at which the queue counts as full. -/
def setMaxDepth (e : SinkEngine) (depth : Nat) : Except Error Unit × SinkEngine :=
  if 1 ≤ depth ∧ depth ≤ depthLimit then
    (.ok (), { e with maxDepth := depth }.notifyProducers)
  else
    (.error (.invalidParameter "queue_depth" s!"{depth} not in [1, {depthLimit}]"), e)

/-- Set what happens to offers when the queue is full. -/
def setPolicy (e : SinkEngine) (policy : Backpressure) : SinkEngine :=
  { e with policy }.notifyProducers

def arm (e : SinkEngine) : SinkEngine := { e with stopping := false }

/-- Ask the worker to end, and send all producers away. -/
def halt (e : SinkEngine) : SinkEngine :=
  ({ e with stopping := true }.wakeWorker).notifyProducers

/-- Drop what the worker left in the queue; the frames are given back for their release. -/
def discard (e : SinkEngine) : List Frame × SinkEngine :=
  (e.queue, { e with
    queue := []
    core := (e.core.setQueueDepth 0).recordDrops e.queue.length })

end SinkEngine

end FrameGraph
