import FrameGraph.Frame.Summary
import FrameGraph.Sink.Block
import FrameGraph.Source.Block

/-!
# Networks of blocks

A network is everything that blocks share: a clock, the storage of frames, the blocks themselves
with their threads, whether the system starts threads, the world that processors change, and what
was seen and heard of the blocks from outside. Blocks are known by their position; none is ever
removed.
-/

namespace FrameGraph

/-! ### Blocks -/

/-- A block without a thread of its own. It declares capabilities without having them, notes in a
journal what it is asked to do, and refuses the operation that its parameter `refuse` names. -/
structure StageBlock where
  core : BlockCore
  source : Bool
  sink : Bool

/-- A block. -/
inductive Block (γ π : Type)
  | source (s : SourceBlock γ)
  | sink (s : SinkBlock π)
  | stage (s : StageBlock)

/-- What a block says that it can do; the order in which blocks are started rests on it. -/
structure Capabilities where
  source : Bool
  sink : Bool
  deriving DecidableEq, Repr

namespace Block

variable {γ π : Type}

def core : Block γ π → BlockCore
  | .source s => s.engine.core
  | .sink s => s.engine.core
  | .stage s => s.core

def mapCore (f : BlockCore → BlockCore) : Block γ π → Block γ π
  | .source s => .source (s.mapCore f)
  | .sink s => .sink (s.mapCore f)
  | .stage s => .stage { s with core := f s.core }

/-- The block under another name. -/
def rename (name : String) (b : Block γ π) : Block γ π := b.mapCore fun c => { c with name }

def capabilities : Block γ π → Capabilities
  | .source _ => ⟨true, false⟩
  | .sink _ => ⟨false, true⟩
  | .stage s => ⟨s.source, s.sink⟩

def state (b : Block γ π) : BlockState := b.core.state

def name (b : Block γ π) : String := b.core.name

def hasThread : Block γ π → Bool
  | .source s => s.thread != .absent
  | .sink s => s.engine.worker != .absent
  | .stage _ => false

end Block

/-! ### Networks -/

/-- A frame that a tap noted, with its time stamp. -/
structure Reception where
  summary : Summary
  timestamp : Nat
  deriving DecidableEq, Repr

/-- Blocks and all that they share. -/
structure Network (ω γ π : Type) where
  world : ω
  clock : Nat := 1
  storage : Storage := {}
  /-- Why the system starts no threads at present, if it does not. -/
  denial : Option String := none
  blocks : List (Block γ π) := []
  /-- Whether someone listens for failures, and what they heard: names and messages. -/
  listening : Bool := false
  heard : List (String × String) := []
  /-- What taps noted, and the frames that they keep. -/
  received : List Reception := []
  kept : List Frame := []
  /-- The answers that callers from outside got for the frames they offered. -/
  answers : List (Option (Except Error Unit)) := []
  /-- What blocks without a thread were asked to do. -/
  journal : List String := []

namespace Network

variable {ω γ π : Type}

def block? (s : Network ω γ π) (i : Nat) : Option (Block γ π) := s.blocks[i]?

def source? (s : Network ω γ π) (i : Nat) : Option (SourceBlock γ) :=
  match s.block? i with
  | some (.source b) => some b
  | _ => none

def sink? (s : Network ω γ π) (i : Nat) : Option (SinkBlock π) :=
  match s.block? i with
  | some (.sink b) => some b
  | _ => none

def setBlock (s : Network ω γ π) (i : Nat) (b : Block γ π) : Network ω γ π :=
  { s with blocks := s.blocks.set i b }

def setSource (s : Network ω γ π) (i : Nat) (b : SourceBlock γ) : Network ω γ π :=
  s.setBlock i (.source b)

def setSink (s : Network ω γ π) (i : Nat) (b : SinkBlock π) : Network ω γ π :=
  s.setBlock i (.sink b)

def mapCore (s : Network ω γ π) (i : Nat) (f : BlockCore → BlockCore) : Network ω γ π :=
  match s.block? i with
  | some b => s.setBlock i (b.mapCore f)
  | none => s

def stateOf (s : Network ω γ π) (i : Nat) : BlockState :=
  match s.block? i with
  | some b => b.state
  | none => .uninitialized

def nameOf (s : Network ω γ π) (i : Nat) : String :=
  match s.block? i with
  | some b => b.name
  | none => ""

def add (s : Network ω γ π) (b : Block γ π) : Nat × Network ω γ π :=
  (s.blocks.length, { s with blocks := s.blocks ++ [b] })

def hear (s : Network ω γ π) (report : Option Report) : Network ω γ π :=
  match report with
  | some r => if s.listening then { s with heard := s.heard ++ [(r.block, r.message)] } else s
  | none => s

def fail (s : Network ω γ π) (i : Nat) (message : String) : Network ω γ π :=
  match s.block? i with
  | none => s
  | some b =>
    let (core, report) := b.core.fail message
    (s.setBlock i (b.mapCore fun _ => core)).hear report

def mapStorage (s : Network ω γ π) (f : Storage → Storage) : Network ω γ π :=
  { s with storage := f s.storage }

def release (s : Network ω γ π) (f : Frame) : Network ω γ π := s.mapStorage (·.release f)

def answer (s : Network ω γ π) (p : Producer) (a : Except Error Unit) : Network ω γ π :=
  match p with
  | .caller k => { s with answers := s.answers.set k (some a) }
  | .source i =>
    match s.source? i with
    | some b =>
      match b.thread with
      | .submitting f targets => s.setSource i { b with thread := .delivering f targets }
      | _ => s
    | none => s

def setMaxDepth (s : Network ω γ π) (i : Nat) (depth : Nat) : Except Error Unit × Network ω γ π :=
  match s.sink? i with
  | none => (.ok (), s)
  | some b =>
    let (r, engine) := b.engine.setMaxDepth depth
    (r, s.setSink i { b with engine })

/-- Set what the queue of a sink does when it is full. -/
def setPolicy (s : Network ω γ π) (i : Nat) (policy : Backpressure) : Network ω γ π :=
  match s.sink? i with
  | none => s
  | some b => s.setSink i { b with engine := b.engine.setPolicy policy }

/-- A caller from outside offers a frame to a sink. The result is the answer, or, when the frame
passed the first checks, the number under which the answer will be found. -/
def offer (s : Network ω γ π) (i : Nat) (b : FrameBuffer) :
    Except Error Nat × Network ω γ π :=
  match s.sink? i with
  | none => (.error (.missingCapability (s.nameOf i) "sink"), s.mapStorage (·.dispose b))
  | some sink =>
    let (f, storage) := s.storage.share b
    let s := { s with storage }
    match sink.engine.precheck f with
    | .error e => (.error e, s.release f)
    | .ok () =>
      let k := s.answers.length
      let s := { s with answers := s.answers ++ [none] }
      (.ok k, s.setSink i { sink with engine := sink.engine.approach ⟨.caller k, f⟩ })

end Network

end FrameGraph
