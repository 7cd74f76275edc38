import FrameGraph.Pipeline.Manager
import FrameGraph.Rehearsal.Answer.Frames

/-!
# Answers about blocks and pipelines
-/

namespace FrameGraph.Answer

variable {ω γ π : Type}

def state (s : BlockState) : Json := .string s.label

def dict (d : Dict String) : Json := .object (d.entries.map fun (k, v) => (k, .string v))

/-- Statistics, except for averages over time. -/
def statistics (s : Statistics) (more : List (String × Json)) : Json :=
  .object ([("processed", nat s.processed), ("dropped", nat s.dropped), ("bytes", nat s.bytes),
    ("queue_depth", nat s.queueDepth), ("fps_is_zero", .bool s.rateIsZero)] ++ more)

def report (r : Report) : Json :=
  .array [.string r.listener, .string r.block, state r.state, .string r.message]

/-- What a block is, says that it can do, and can do. -/
def block (b : Block γ π) : Json :=
  let caps := b.capabilities
  let roles := match b with
    | .source _ => [true, false]
    | .sink _ => [false, true]
    | .stage _ => [false, false]
  .object [("name", .string b.name), ("type", .string b.core.typeName), ("state", state b.state),
    ("caps", .array [.bool caps.source, .bool caps.sink]), ("roles", .array (roles.map .bool)),
    ("debug", .string b.core.describeBlock)]

def source (b : SourceBlock γ) : Json :=
  .object [("format", info b.format), ("fps", double b.engine.fps),
    ("has_consumer", .bool b.engine.consumer.isSome)]

def policy : Backpressure → Json
  | .block => .string "block"
  | .dropOldest => .string "drop_oldest"

def sink (b : SinkBlock π) : Json :=
  .object [("format", info b.format), ("depth", nat b.engine.queue.length),
    ("max", nat b.engine.maxDepth), ("policy", policy b.engine.policy)]

/-- The queue of a sink with the frames that wait for room in it. -/
def queue (e : SinkEngine) : Json :=
  .object [("depth", nat e.queue.length), ("max", nat e.maxDepth), ("policy", policy e.policy),
    ("queued", .array ((e.queue ++ e.waiting.map (·.frame)).map fun f => tag f.buffer.data.head?)),
    ("stats", statistics e.core.stats [])]

def call (s : Network ω γ π) (k : Nat) : Json :=
  match s.answers[k]? with
  | some (some (.ok ())) => .string "ok"
  | some (some (.error e)) => error e []
  | _ => .string "blocked"

/-! ### Graphs -/

def connection (c : Connection) : Json :=
  .object [("source", .string c.source), ("source_output", .string c.sourceOutput),
    ("sink", .string c.sink), ("sink_input", .string c.sinkInput)]

def blockDef (b : BlockDef) : Json :=
  .object [("name", .string b.name), ("type", .string b.type), ("parameters", dict b.parameters)]

def config (c : GraphConfig) : Json :=
  .object [
    ("pipeline", .object [("name", .string c.name), ("platform", .string c.platform)]),
    ("blocks", .array (c.blocks.map blockDef)),
    ("connections", .array (c.connections.map connection)),
    ("settings", dict c.settings)]

/-- Whether a pipeline runs, and the number of its blocks. -/
def running (p : Pipeline ω γ π) : Json :=
  .object [("running", .bool p.running), ("blocks", nat p.entries.length)]

def states (p : Pipeline ω γ π) : Json :=
  .array (p.blocks.map fun (_, b) => .array [.string b.name, state b.state])

def statisticsOf (p : Pipeline ω γ π) : Json :=
  .object (p.blocks.map fun (name, b) => (name, statistics b.core.stats []))

end FrameGraph.Answer
