import FrameGraph.Words

/-!
# Errors

One type names the causes for which an operation on frames, blocks or pipelines is refused, and one
function gives their wording. A fault is either an error or an abort.
-/

namespace FrameGraph

/-! ### Phases of a block -/

/-- Where a block is in its life. -/
inductive BlockState
  | uninitialized
  | initialized
  | starting
  | running
  | stopping
  | stopped
  | error
  deriving DecidableEq, Repr

def BlockState.label : BlockState → String
  | .uninitialized => "UNINITIALIZED"
  | .initialized => "INITIALIZED"
  | .starting => "STARTING"
  | .running => "RUNNING"
  | .stopping => "STOPPING"
  | .stopped => "STOPPED"
  | .error => "ERROR"

def BlockState.name : BlockState → String
  | .uninitialized => "Uninitialized"
  | .initialized => "Initialized"
  | .starting => "Starting"
  | .running => "Running"
  | .stopping => "Stopping"
  | .stopped => "Stopped"
  | .error => "Error"

/-! ### Causes -/

/-- Why an operation is refused. -/
inductive Error
  | config (text : String)
  | invalidParameter (key reason : String)
  | invalidState (operation : String) (state : BlockState)
  | allocation (bytes : Nat)
  | bufferUnavailable (limit : Nat)
  | capacityExceeded (needed capacity : Nat)
  | unknownBlockType (type : String)
  | blockNotFound (name : String)
  | missingCapability (block capability : String)
  | rejected (reason : String)
  | frame (reason : String)
  | block (block reason : String)
  | thread (reason : String)
  deriving DecidableEq, Repr

namespace Error

def message : Error → String
  | .config text => s!"configuration error: {text}"
  | .invalidParameter key reason => s!"invalid parameter '{key}': {reason}"
  | .invalidState operation state => s!"operation '{operation}' not allowed in state {state.label}"
  | .allocation bytes => s!"failed to allocate {bytes} bytes"
  | .bufferUnavailable limit => s!"no free buffer in pool (limit {limit})"
  | .capacityExceeded needed capacity =>
    s!"payload of {needed} bytes exceeds capacity of {capacity} bytes"
  | .unknownBlockType type => s!"block type '{type}' is not registered"
  | .blockNotFound name => s!"block '{name}' not found"
  | .missingCapability name capability => s!"block '{name}' lacks {capability} capability"
  | .rejected reason => s!"frame rejected: {reason}"
  | .frame reason => s!"frame processing failed: {reason}"
  | .block name reason => s!"block '{name}' failed: {reason}"
  | .thread reason => s!"failed to spawn thread: {reason}"

/-- Whether an error says that a resource is exhausted for good. Such an error ends the work of a
block; any other error that arises for a single frame costs this frame only. -/
def isResource : Error → Bool
  | .allocation _ => true
  | _ => false

end Error

/-! ### Faults -/

/-- How an operation can end without a value. -/
inductive Fault
  | error (e : Error)
  | panic (p : Panic)
  deriving DecidableEq, Repr

/-- The value of an operation, or why there is none. -/
abbrev Result (α : Type) := Except Fault α

def refuse {α : Type} (e : Error) : Result α := .error (.error e)

/-- An aborted computation aborts the operation that needs it. -/
def Checked.lift {α : Type} : Checked α → Result α
  | .ok a => .ok a
  | .error p => .error (.panic p)

end FrameGraph
