import FrameGraph.Pipeline.ConfigText
import FrameGraph.Pipeline.Registry
import FrameGraph.Network.Lifecycle

/-!
# Pipelines

A pipeline is built from the description of a graph: its blocks are made, configured and connected,
in this order, and the first failure takes everything down again. It is started and stopped as a
whole. Sinks are started first and sources last, and they are stopped in the opposite order, so
that no frame meets a sink that does not run. Operations are routines on the pipeline: others may
act between their steps.
-/

namespace FrameGraph

/-- A graph of blocks, as it was described and as it is. -/
structure Pipeline (ω γ π : Type) where
  network : Network ω γ π
  registry : Registry ω (Block γ π)
  config : GraphConfig := {}
  /-- The blocks of the graph: their names in the description, and where they are. -/
  entries : List (String × Nat) := []
  running : Bool := false
  lastError : String := ""

namespace Pipeline

variable {ω γ π : Type}

def new (registry : Registry ω (Block γ π)) (world : ω) : Pipeline ω γ π :=
  { network := { world }, registry }

abbrev Operation (ω γ π α : Type) := Routine (Pipeline ω γ π) α

/-! ### Looking -/

/-- The position of a block of the graph. -/
def find? (p : Pipeline ω γ π) (name : String) : Option Nat := p.entries.lookup name

def blockNames (p : Pipeline ω γ π) : List String := p.entries.map (·.1)

/-- The blocks of the graph with their names. -/
def blocks (p : Pipeline ω γ π) : List (String × Block γ π) :=
  p.entries.filterMap fun (name, i) => (p.network.block? i).map (name, ·)

/-- The positions of blocks that declare what `wanted` asks for. -/
def positions (p : Pipeline ω γ π) (wanted : Capabilities → Bool) : List Nat :=
  (p.entries.map (·.2)).filter fun i =>
    match p.network.block? i with
    | some b => wanted b.capabilities
    | none => false

/-- The order in which blocks are started: all that declare to be sinks, then those that declare
nothing, then the others. -/
def startOrder (p : Pipeline ω γ π) : List Nat :=
  p.positions (·.sink) ++ p.positions (fun c => !c.sink && !c.source)
    ++ p.positions (fun c => !c.sink && c.source)

def statusLine (entry : String × Block γ π) : String :=
  s!"  {entry.1} [{entry.2.core.typeName}] - {entry.2.state.label}\n"

/-- A report on the pipeline and its blocks. -/
def status (p : Pipeline ω γ π) : String :=
  let state := if p.running then "RUNNING" else "STOPPED"
  s!"Pipeline: {p.config.name}\nState: {state}\nBlocks: {p.entries.length}\n"
    ++ String.join (p.blocks.map statusLine)

def describe (p : Pipeline ω γ π) : String :=
  "PipelineManager \x7b blocks: " ++ Text.quotedList p.blockNames
    ++ s!", running: {p.running}" ++ " \x7d"

def resetStats (p : Pipeline ω γ π) : Pipeline ω γ π :=
  { p with network := p.entries.foldl (fun s e => s.mapCore e.2 BlockCore.resetStats) p.network }

/-! ### Steps -/

def mapNetwork (p : Pipeline ω γ π) (f : Network ω γ π → Network ω γ π) : Pipeline ω γ π :=
  { p with network := f p.network }

def lift {α : Type} (op : Network.Operation ω γ π α) : Operation ω γ π α :=
  op.on (·.network) fun p s => { p with network := s }

def networkStep {α : Type} (f : Network ω γ π → α × Network ω γ π) : Operation ω γ π α :=
  lift (.modifyGet f)

def failWith {α : Type} (e : Error) : Operation ω γ π (Result α) := do
  Routine.modify fun p => { p with lastError := e.message }
  return refuse e

/-! ### Taking down -/

def teardownBlock (i : Nat) : Operation ω γ π Unit := do
  lift (.modify fun s => s.mapCore i fun c => { c with listener := none })
  lift (Network.shutdown i)
  lift (Network.clearConsumer i)

/-- Take all blocks down and forget them. -/
def teardown : Operation ω γ π Unit := do
  let entries ← Routine.get (·.entries)
  Routine.each (fun e => teardownBlock e.2) entries
  Routine.modify fun p => { p with entries := [] }

/-! ### Building -/

/-- Make a block under a name; its failures are heard. -/
def make (d : BlockDef) (p : Pipeline ω γ π) : Result Unit × Pipeline ω γ π :=
  match p.registry.create d.type p.network.world with
  | (.error e, world) =>
    (refuse (.config s!"failed to create block '{d.name}' of type '{d.type}': {e.message}"),
      p.mapNetwork fun s => { s with world })
  | (.ok b, world) =>
    let b := b.mapCore fun c => { c with name := d.name, listener := some "" }
    let (i, network) := { p.network with world }.add b
    (.ok (), { p with network, entries := p.entries ++ [(d.name, i)] })

/-- Make a block unless its name was used before. -/
def makeNew (d : BlockDef) (p : Pipeline ω γ π) : Result Unit × Pipeline ω γ π :=
  if (p.find? d.name).isSome then (refuse (.config s!"duplicate block name '{d.name}'"), p)
  else p.make d

def createBlocks (defs : List BlockDef) : Operation ω γ π (Result Unit) :=
  Routine.eachUntil (fun d => .modifyGet (makeNew d)) defs

def configureBlock [Generator γ] [Processor ω π] (d : BlockDef) :
    Operation ω γ π (Result Unit) := do
  match ← Routine.get (·.find? d.name) with
  | none => return refuse (.blockNotFound d.name)
  | some i =>
    lift (.modify fun s => s.mapCore i fun c => { c with params := c.params.extend d.parameters })
    match ← lift (Network.configure i) with
    | .error (.error e) =>
      return refuse (.config s!"failed to configure block '{d.name}': {e.message}")
    | r => return r

def configureBlocks [Generator γ] [Processor ω π] (defs : List BlockDef) :
    Operation ω γ π (Result Unit) :=
  Routine.eachUntil configureBlock defs

/-! ### Connecting -/

/-- The sinks of each source, in the order in which the sources came first. -/
abbrev Routes := List (Nat × List Nat)

def addRoute (source sink : Nat) : Routes → Routes
  | [] => [(source, [sink])]
  | (i, sinks) :: rest =>
    if i = source then (i, sinks ++ [sink]) :: rest else (i, sinks) :: addRoute source sink rest

def sourceAt (s : Network ω γ π) (i : Nat) : Result (SourceBlock γ) :=
  match s.source? i with
  | some b => .ok b
  | none => refuse (.missingCapability (s.nameOf i) "source")

def sinkAt (s : Network ω γ π) (i : Nat) : Result (SinkBlock π) :=
  match s.sink? i with
  | some b => .ok b
  | none => refuse (.missingCapability (s.nameOf i) "sink")

/-- The position of a block that must be there. -/
def positionOf (p : Pipeline ω γ π) (name : String) : Result Nat :=
  match p.find? name with
  | some i => .ok i
  | none => refuse (.blockNotFound name)

/-- Tell the sink of a connection the format of its source, if it supports it, and note the route.
-/
def connectOne [Processor ω π] (c : Connection) (routes : Routes) (p : Pipeline ω γ π) :
    Result (Routes × Pipeline ω γ π) := do
  let i ← p.positionOf c.source
  let k ← p.positionOf c.sink
  let source ← sourceAt p.network i
  let sink ← sinkAt p.network k
  let p := if sink.supports source.format.format then
      p.mapNetwork fun s => s.setSink k (sink.setFormat source.format).2
    else p
  return (addRoute i k routes, p)

/-- Make all connections. What was told to sinks before a failure stays. -/
def connectAll [Processor ω π] : List Connection → Routes → Pipeline ω γ π →
    Result Routes × Pipeline ω γ π
  | [], routes, p => (.ok routes, p)
  | c :: rest, routes, p =>
    match connectOne c routes p with
    | .ok (routes, p) => connectAll rest routes p
    | .error f => (.error f, p)

def install (p : Pipeline ω γ π) (route : Nat × List Nat) : Pipeline ω γ π :=
  p.mapNetwork fun s => s.mapSource route.1 fun b =>
    { b with engine := { b.engine with consumer := some (.fanOut route.2) } }

def connectBlocks [Processor ω π] (connections : List Connection) : Operation ω γ π (Result Unit) :=
  .modifyGet fun p =>
    match connectAll connections [] p with
    | (.ok routes, p) => (.ok (), routes.foldl install p)
    | (.error f, p) => (.error f, p)

/-- Make, configure and connect the blocks of a description. -/
def build [Generator γ] [Processor ω π] (config : GraphConfig) : Operation ω γ π (Result Unit) := do
  match ← createBlocks config.blocks with
  | .error f => return .error f
  | .ok () =>
    match ← configureBlocks config.blocks with
    | .error f => return .error f
    | .ok () => connectBlocks config.connections

/-- Build a graph in place of the one that is there. An error takes it down again. -/
def load [Generator γ] [Processor ω π] (config : GraphConfig) :
    Operation ω γ π (Result Unit) := do
  if ← Routine.get (·.running) then
    failWith (.config "cannot initialize while the pipeline is running")
  else
    teardown
    Routine.modify fun p => { p with config }
    match ← build config with
    | .error (.error e) =>
      teardown
      failWith e
    | r => return r

/-- Build the graph that a text or a file describes, if it describes one. -/
def loadResult [Generator γ] [Processor ω π] : Result GraphConfig → Operation ω γ π (Result Unit)
  | .ok config => load config
  | .error (.error e) => failWith e
  | .error f => return .error f

/-- Build the graph that a text describes. -/
def loadText [Generator γ] [Processor ω π] (text : String) (format : ConfigFormat) :
    Operation ω γ π (Result Unit) :=
  loadResult (GraphConfig.ofText text format)

/-! ### Running -/

/-- Start blocks in order; a refusal halts those that were started, in the opposite order. -/
def startAll [Generator γ] : (started waiting : List Nat) → Operation ω γ π (Except Error Unit)
  | _, [] => return .ok ()
  | started, i :: waiting => do
    match ← lift (Network.start i) with
    | .ok () => startAll (i :: started) waiting
    | .error e =>
      let name ← Routine.get fun p => p.network.nameOf i
      Routine.each (fun i => lift (Network.halt i)) started
      return .error (.block name s!"failed to start: {e.message}")

def start [Generator γ] : Operation ω γ π (Result Unit) := do
  if (← Routine.get (·.entries)).isEmpty then
    failWith (.config "no blocks to start; initialize the pipeline first")
  else if ← Routine.get (·.running) then return .ok ()
  else
    match ← startAll [] (← Routine.get startOrder) with
    | .ok () =>
      Routine.modify fun p => { p with running := true }
      return .ok ()
    | .error e => failWith e

/-- Stop the pipeline: every block is halted, in the order opposite to that of starting. -/
def stop : Operation ω γ π Unit := do
  let wasRunning ← Routine.modifyGet fun p => (p.running, { p with running := false })
  if wasRunning then
    Routine.each (fun i => lift (Network.halt i)) (← Routine.get startOrder).reverse
  else return ()

/-- Stop the pipeline and forget its graph. -/
def shutdown : Operation ω γ π Unit := do
  stop
  if (← Routine.get (·.entries)).isEmpty then return ()
  else
    teardown
    Routine.modify fun p => { p with config := {} }

/-! ### Carrying out -/

/-- Run the network of a pipeline while an operation waits. -/
def progressWith (progress : (Network ω γ π → Bool) → Network ω γ π → Network ω γ π)
    (ready : Pipeline ω γ π → Bool) (p : Pipeline ω γ π) : Pipeline ω γ π :=
  { p with network := progress (fun s => ready { p with network := s }) p.network }

def carryOut {α : Type} (progress : (Network ω γ π → Bool) → Network ω γ π → Network ω γ π)
    (op : Operation ω γ π α) (p : Pipeline ω γ π) : α × Pipeline ω γ π :=
  op.run (progressWith progress) p

end Pipeline

end FrameGraph
