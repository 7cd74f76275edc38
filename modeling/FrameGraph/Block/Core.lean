import FrameGraph.Block.Parameters
import FrameGraph.Block.Statistics
import FrameGraph.Text.Quoted

/-!
# The core of a block

What every block has, whatever it does: a type, a name, a state, parameters, statistics, the last
error, and perhaps someone who listens for errors. Each operation on the state is atomic.
-/

namespace FrameGraph

/-- What a listener is told when a block fails. -/
structure Report where
  listener : String
  block : String
  state : BlockState
  message : String
  deriving DecidableEq, Repr

/-- What all blocks have in common. -/
structure BlockCore where
  typeName : String
  name : String := typeName
  state : BlockState := .uninitialized
  params : Params := .empty
  stats : Statistics := {}
  lastError : String := ""
  listener : Option String := none

namespace BlockCore

def isRunning (c : BlockCore) : Bool := c.state == .running

/-! ### States -/

/-- Move to `target` if the current state is one of `sources`; the answer is the state before. -/
def transition (c : BlockCore) (operation : String) (sources : List BlockState)
    (target : BlockState) : Except Error BlockState × BlockCore :=
  if c.state ∈ sources then (.ok c.state, { c with state := target })
  else (.error (.invalidState operation c.state), c)

/-- Refuse unless the current state is one of `allowed`. -/
def require (c : BlockCore) (operation : String) (allowed : List BlockState) :
    Except Error Unit :=
  if c.state ∈ allowed then .ok () else .error (.invalidState operation c.state)

/-- Finish a transition: a state other than `source`, such as an error that came up in the
meantime, stays. -/
def settle (c : BlockCore) (source target : BlockState) : BlockCore :=
  if c.state = source then { c with state := target } else c

/-- Leave every state in which the block counts as active. -/
def settleStopped (c : BlockCore) : BlockCore :=
  ((c.settle .starting .stopped).settle .running .stopped).settle .stopping .stopped

/-- Enter the error state; the listener gets a report. -/
def fail (c : BlockCore) (message : String) : BlockCore × Option Report :=
  let c := { c with lastError := message, state := .error }
  (c, c.listener.map fun l => ⟨l, c.name, c.state, message⟩)

/-! ### Statistics -/

def recordProcessed (c : BlockCore) (bytes nanos : Nat) : Checked Unit × BlockCore :=
  let (r, stats) := c.stats.recordProcessed bytes nanos
  (r, { c with stats })

def recordDropped (c : BlockCore) : BlockCore := { c with stats := c.stats.recordDropped }

def recordDrops (c : BlockCore) (n : Nat) : BlockCore := { c with stats := c.stats.recordDrops n }

def setQueueDepth (c : BlockCore) (depth : Nat) : BlockCore :=
  { c with stats := c.stats.setQueueDepth depth }

def resetStats (c : BlockCore) : BlockCore := { c with stats := {} }

/-! ### Texts -/

def describe (c : BlockCore) : String :=
  "BlockCore \x7b type: " ++ Text.quoted c.typeName ++ ", name: " ++ Text.quoted c.name
    ++ ", state: " ++ c.state.name ++ " \x7d"

def describeBlock (c : BlockCore) : String :=
  "Block \x7b name: " ++ Text.quoted c.name ++ ", type: " ++ Text.quoted c.typeName
    ++ ", state: " ++ c.state.name ++ " \x7d"

end BlockCore

end FrameGraph
