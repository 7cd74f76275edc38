import FrameGraph.Routine
import FrameGraph.Network.Basic

/-!
# The life of a block

A block is configured, started, stopped and shut down from outside. Configuring is one step. The
other operations take several: others may act between a change of the state, the start of a thread,
the request to stop and the end of the thread.
-/

namespace FrameGraph

namespace Network

variable {ω γ π : Type}

abbrev Operation (ω γ π α : Type) := Routine (Network ω γ π) α

/-! ### Steps -/

def transition (i : Nat) (operation : String) (sources : List BlockState) (target : BlockState) :
    Operation ω γ π (Except Error BlockState) :=
  .modifyGet fun s =>
    match s.block? i with
    | none => (.error (.blockNotFound ""), s)
    | some b =>
      let (r, core) := b.core.transition operation sources target
      (r, s.setBlock i (b.mapCore fun _ => core))

def settle (i : Nat) (source target : BlockState) : Operation ω γ π Unit :=
  .modify fun s => s.mapCore i fun c => c.settle source target

/-- Leave the states in which a block counts as active. -/
def settleStopped (i : Nat) : Operation ω γ π Unit :=
  .modify fun s => s.mapCore i BlockCore.settleStopped

def mapSource (s : Network ω γ π) (i : Nat) (f : SourceBlock γ → SourceBlock γ) : Network ω γ π :=
  match s.source? i with
  | some b => s.setSource i (f b)
  | none => s

def mapEngine (s : Network ω γ π) (i : Nat) (f : SinkEngine → SinkEngine) : Network ω γ π :=
  match s.sink? i with
  | some b => s.setSink i { b with engine := f b.engine }
  | none => s

/-- Whether the thread of a block has come to its end, or there is none. -/
def threadEnded (i : Nat) (s : Network ω γ π) : Bool :=
  match s.block? i with
  | some (.source b) => b.thread == .absent || b.thread == .ended
  | some (.sink b) => b.engine.worker == .absent || b.engine.worker == .ended
  | _ => true

def forgetThread (i : Nat) (s : Network ω γ π) : Network ω γ π :=
  match s.block? i with
  | some (.source b) => s.setSource i { b with thread := .absent }
  | some (.sink b) => s.setSink i { b with engine := { b.engine with worker := .absent } }
  | _ => s

/-- Wait for the thread of a block to end. -/
def join (i : Nat) : Operation ω γ π Unit := do
  Routine.waitFor (threadEnded i)
  Routine.modify (forgetThread i)

/-! ### Sources -/

/-- Start the thread of a source, unless the system refuses. Without a configured pool a usual one
is opened. -/
def spawnSource [Generator γ] (i : Nat) (s : Network ω γ π) : Except Error Unit × Network ω γ π :=
  match s.source? i with
  | none => (.ok (), s)
  | some b =>
    let pool : Except Error (Nat × Storage) :=
      match b.pool with
      | some n => .ok (n, s.storage)
      | none => s.storage.openPool SourceBlock.defaultBuffers
    match pool with
    | .error e => (.error e, s)
    | .ok (lending, storage) =>
      let b := { b with stop := b.stop.reset, engine := b.engine.resetAdmission }
      match s.denial with
      | some reason => (.error (.thread reason), s.setSource i b)
      | none =>
        (.ok (), { s with storage }.setSource i { b with
          generator := Generator.opened b.generator
          thread := .checking
          lending })

def signalStop (i : Nat) : Operation ω γ π Unit :=
  .modify fun s => s.mapSource i fun b => { b with stop := b.stop.stop }

def startSource [Generator γ] (i : Nat) : Operation ω γ π (Except Error Unit) := do
  match ← transition i "start" [.initialized, .stopped] .starting with
  | .error e => return .error e
  | .ok source =>
    match ← Routine.modifyGet (spawnSource i) with
    | .error e =>
      settle i .starting source
      return .error e
    | .ok () =>
      settle i .starting .running
      return .ok ()

def stopSource (i : Nat) : Operation ω γ π (Except Error Unit) := do
  match ← transition i "stop" [.running] .stopping with
  | .error e => return .error e
  | .ok _ =>
    signalStop i
    join i
    settle i .stopping .stopped
    return .ok ()

def clearConsumer (i : Nat) : Operation ω γ π Unit :=
  .modify fun s => s.mapSource i fun b => { b with engine := { b.engine with consumer := none } }

def shutdownSource (i : Nat) : Operation ω γ π Unit := do
  signalStop i
  join i
  settleStopped i
  clearConsumer i

/-! ### Sinks -/

/-- Start the worker of a sink, unless the system refuses. -/
def spawnSink (i : Nat) (s : Network ω γ π) : Except Error Unit × Network ω γ π :=
  match s.denial with
  | some reason => (.error (.thread reason), s)
  | none => (.ok (), s.mapEngine i fun e => { e with worker := .seeking })

def startSink (i : Nat) : Operation ω γ π (Except Error Unit) := do
  match ← transition i "start" [.initialized, .stopped] .starting with
  | .error e => return .error e
  | .ok source =>
    Routine.modify fun s => s.mapEngine i SinkEngine.arm
    match ← Routine.modifyGet (spawnSink i) with
    | .error e =>
      settle i .starting source
      return .error e
    | .ok () =>
      settle i .starting .running
      return .ok ()

/-- Drop what a worker left in its queue. -/
def discard (i : Nat) (s : Network ω γ π) : Network ω γ π :=
  match s.sink? i with
  | none => s
  | some b =>
    let (residue, engine) := b.engine.discard
    (s.setSink i { b with engine }).mapStorage (·.releaseAll residue)

def haltWorker (i : Nat) : Operation ω γ π Unit := do
  Routine.modify fun s => s.mapEngine i SinkEngine.halt
  join i
  Routine.modify (discard i)

def stopSink (i : Nat) : Operation ω γ π (Except Error Unit) := do
  match ← transition i "stop" [.running] .stopping with
  | .error e => return .error e
  | .ok _ =>
    haltWorker i
    settle i .stopping .stopped
    return .ok ()

def shutdownSink (i : Nat) : Operation ω γ π Unit := do
  haltWorker i
  settleStopped i

/-! ### Stages -/

/-- Note in the journal what a stage is asked to do, unless it refuses. -/
def request (i : Nat) (operation : String) : Operation ω γ π (Except Error Unit) :=
  .modifyGet fun s =>
    match s.block? i with
    | none => (.error (.blockNotFound ""), s)
    | some b =>
      if b.core.params.text "refuse" == operation then
        (.error (.block b.name s!"refused to {operation}"), s)
      else (.ok (), { s with journal := s.journal ++ [s!"{operation}:{b.name}"] })

def moveStage (i : Nat) (operation : String) (sources : List BlockState) (target : BlockState) :
    Operation ω γ π (Except Error Unit) := do
  match ← request i operation with
  | .error e => return .error e
  | .ok () => return (← transition i operation sources target).map fun _ => ()

def configureStage (i : Nat) (core : BlockCore) : Operation ω γ π (Except Error Unit) := do
  match core.require "configure" [.uninitialized, .initialized] with
  | .error e => return .error e
  | .ok () =>
    match ← request i "configure" with
    | .error e => return .error e
    | .ok () =>
      Routine.modify fun s => s.mapCore i fun c => { c with state := .initialized }
      return .ok ()

def shutdownStage (i : Nat) : Operation ω γ π Unit :=
  .modify fun s =>
    let s := { s with journal := s.journal ++ [s!"shutdown:{s.nameOf i}"] }
    s.mapCore i fun c => c.settle .running .stopped

/-! ### Blocks -/

def configureEngine [Generator γ] [Processor ω π] (i : Nat) (s : Network ω γ π) :
    Result Unit × Network ω γ π :=
  match s.block? i with
  | some (.source b) =>
    let (r, b, storage, report) := b.configure s.storage
    (r, ({ s with storage }.setSource i b).hear report)
  | some (.sink b) =>
    let (r, b, world, report) := b.configure s.world
    (r, ({ s with world }.setSink i b).hear report)
  | _ => (.ok (), s)

def configure [Generator γ] [Processor ω π] (i : Nat) : Operation ω γ π (Result Unit) := do
  match ← Routine.get fun s => s.block? i with
  | some (.stage b) => return (← configureStage i b.core).mapError .error
  | some _ => Routine.modifyGet (configureEngine i)
  | none => return refuse (.blockNotFound "")

def start [Generator γ] (i : Nat) : Operation ω γ π (Except Error Unit) := do
  match ← Routine.get fun s => s.block? i with
  | some (.source _) => startSource i
  | some (.sink _) => startSink i
  | some (.stage _) => moveStage i "start" [.initialized, .stopped] .running
  | none => return .error (.blockNotFound "")

def stop (i : Nat) : Operation ω γ π (Except Error Unit) := do
  match ← Routine.get fun s => s.block? i with
  | some (.source _) => stopSource i
  | some (.sink _) => stopSink i
  | some (.stage _) => moveStage i "stop" [.running] .stopped
  | none => return .error (.blockNotFound "")

def shutdown (i : Nat) : Operation ω γ π Unit := do
  match ← Routine.get fun s => s.block? i with
  | some (.source _) => shutdownSource i
  | some (.sink _) => shutdownSink i
  | some (.stage _) => shutdownStage i
  | none => return ()

/-- Stop a block that runs, shut down one that failed, and leave all others alone. -/
def halt (i : Nat) : Operation ω γ π Unit := do
  match ← Routine.get fun s => s.stateOf i with
  | .running =>
    match ← stop i with
    | .ok () => return ()
    | .error _ => shutdown i
  | .error => shutdown i
  | _ => return ()

end Network

end FrameGraph
