import FrameGraph.Network.Lifecycle
import FrameGraph.Network.Moves

/-!
# A schedule

One order in which the threads of a network are run: workers first, then producers that were
notified, then those that arrive, then sources, and when nobody can go on, the clock is set forward
to the next time for which a source waits. Times that lie too far ahead are not waited for, nor are
sources whose generators rest.
-/

namespace FrameGraph.Network

variable {ω γ π : Type} [Generator γ] [Processor ω π]

/-! ### The next move -/

/-- The moves of workers and producers, in their order of preference. -/
def sinkMoves (s : Network ω γ π) : List Move :=
  let positions := List.range s.blocks.length
  positions.map .worker ++ positions.flatMap fun i => [.retry i 0, .arrive i 0]

def firstOf (s : Network ω γ π) (moves : List Move) : Option (Network ω γ π) :=
  moves.findSome? s.perform

/-- Whether the thread of a source has something to do: it is asked to stop, it has a frame at hand,
or its generator does not rest. -/
def isEager (s : Network ω γ π) (i : Nat) : Bool :=
  match s.source? i with
  | none => false
  | some b =>
    b.stop.raised ||
      match b.thread with
      | .checking | .sleeping _ => !Generator.resting b.generator
      | _ => true

def sourceMoves (s : Network ω γ π) : List Move :=
  ((List.range s.blocks.length).filter s.isEager).map .source

def wakeTime? (s : Network ω γ π) (i : Nat) : Option Nat :=
  match s.source? i with
  | none => none
  | some b =>
    match b.thread with
    | .sleeping wake => some wake
    | _ => none

def wakeTimes (s : Network ω γ π) : List Nat :=
  ((List.range s.blocks.length).filter s.isEager).filterMap s.wakeTime?

/-- Set the clock forward to the next time for which a source waits, unless it lies behind
`horizon`. -/
def skip (s : Network ω γ π) (horizon : Nat) : Option (Network ω γ π) :=
  match s.wakeTimes.min? with
  | some wake => if wake ≤ horizon then s.perform (.tick (wake - s.clock)) else none
  | none => none

def advance (s : Network ω γ π) (horizon : Nat) : Option (Network ω γ π) :=
  s.firstOf s.sinkMoves <|> s.firstOf s.sourceMoves <|> s.skip horizon

/-! ### Running -/

/-- The longest single wait, in microseconds. -/
def patience : Nat := 20000

/-- Run until the state is ready or nobody can go on, `fuel` steps at most. When nobody can go on
otherwise, processors are made to let a frame through if `push` is set. -/
def runUntil (push : Bool) (ready : Network ω γ π → Bool) : (fuel : Nat) → Network ω γ π →
    Network ω γ π
  | 0, s => s
  | fuel + 1, s =>
    if ready s then s
    else
      let forced :=
        if push then s.firstOf ((List.range s.blocks.length).map .letThrough) else none
      match s.advance (s.clock + patience) <|> forced with
      | some s => runUntil push ready fuel s
      | none => s

/-- The number of steps after which a run is given up. -/
def maxSteps : Nat := 1000000

def quiesce (s : Network ω γ π) : Network ω γ π := runUntil false (fun _ => false) maxSteps s

def progress (ready : Network ω γ π → Bool) (s : Network ω γ π) : Network ω γ π :=
  runUntil true ready maxSteps s

/-- Run until a time, or until nobody can go on. -/
def runFor (horizon : Nat) : (fuel : Nat) → Network ω γ π → Network ω γ π
  | 0, s => s
  | fuel + 1, s =>
    match s.advance horizon with
    | some s => runFor horizon fuel s
    | none => { s with clock := max s.clock horizon }

def carryOut {α : Type} (op : Operation ω γ π α) (s : Network ω γ π) : α × Network ω γ π :=
  op.run progress s

end FrameGraph.Network
