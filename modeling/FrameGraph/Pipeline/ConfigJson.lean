import FrameGraph.Decimal.Shortest
import FrameGraph.Json.Access
import FrameGraph.Pipeline.Config

/-!
# Graphs as JSON values

`GraphConfig.toJson` writes the description of a graph as a JSON value and `GraphConfig.ofJson?`
reads it. A record is an object with the names of its fields as keys; a reader also takes an array
of the fields in their order. A strict reader wants texts where texts are meant and no surplus
items; a lenient one takes numbers and truth values for texts, too, and ignores surplus items.
Members with other keys are ignored by both.
-/

namespace FrameGraph

/-! ### Writing -/

def Dict.toJson (d : Dict String) : Json := .object (d.entries.map fun (k, v) => (k, .string v))

def BlockDef.toJson (b : BlockDef) : Json :=
  .object [("name", .string b.name), ("parameters", b.parameters.toJson), ("type", .string b.type)]

def Connection.toJson (c : Connection) : Json :=
  .object [("sink", .string c.sink), ("sink_input", .string c.sinkInput),
    ("source", .string c.source), ("source_output", .string c.sourceOutput)]

/-- The written form of the names of a pipeline. -/
def PipelineInfo.toJson (p : PipelineInfo) : Json :=
  .object [("name", .string p.name), ("platform", .string p.platform)]

def GraphConfig.toJson (c : GraphConfig) : Json :=
  .object [("blocks", .array (c.blocks.map BlockDef.toJson)),
    ("connections", .array (c.connections.map Connection.toJson)),
    ("pipeline", c.pipeline.toJson), ("settings", c.settings.toJson)]

/-! ### Readers -/

/-- How strictly values are read. -/
structure ConfigReader where
  /-- The text that a value stands for. -/
  text? : Json → Option String
  /-- Whether surplus items of an array are ignored. -/
  ignoresSurplus : Bool

namespace ConfigReader

def plainText? : Json → Option String
  | .string s => some s
  | _ => none

/-- The text of a text, a truth value, or a number. Integers beyond 64 bits with a sign are taken
for doubles. -/
def scalarText? : Json → Option String
  | .string s => some s
  | .bool b => some (toString b)
  | .integer n =>
    some (if n < 0x8000000000000000 then toString n
      else Decimal.showFloat (UInt64.ofNat n.toNat).toFloat)
  | .double x => some (Decimal.showFloat x)
  | _ => none

/-- A reader that wants everything as it is written. -/
def strict : ConfigReader := ⟨plainText?, false⟩

/-- A reader of documents that people write. -/
def lenient : ConfigReader := ⟨scalarText?, true⟩

/-! ### Fields -/

/-- The fields of a record, from an object or from an array. -/
def fields? (r : ConfigReader) (names : List String) : Json → Option (List (Option Json))
  | .object members => some (names.map fun name => members.lookup name)
  | .array items =>
    if r.ignoresSurplus || items.length ≤ names.length then
      some ((items.take names.length).map some ++
        List.replicate (names.length - items.length) none)
    else none
  | _ => none

def optional {α : Type} (read : Json → Option α) (usual : α) : Option Json → Option α
  | some j => read j
  | none => some usual

def list? {α : Type} (read : Json → Option α) : Json → Option (List α)
  | .array items => items.mapM read
  | _ => none

def dict? (r : ConfigReader) : Json → Option (Dict String)
  | .object members => do
    return Dict.ofList (← members.mapM fun (k, v) => (r.text? v).map (k, ·))
  | _ => none

/-! ### Records -/

def pipelineInfo? (r : ConfigReader) (j : Json) : Option PipelineInfo := do
  let [name, platform] ← r.fields? ["name", "platform"] j | none
  return {
    name := ← optional r.text? "unnamed" name
    platform := ← optional r.text? "generic" platform }

/-- The parameters of a block have two names, of which at most one may be used. -/
def parameters? : (full short : Option Json) → Option (Option Json)
  | some _, some _ => none
  | some j, none => some (some j)
  | none, j => some j

def blockDef? (r : ConfigReader) (j : Json) : Option BlockDef := do
  let [name, type, parameters] ← r.fields? ["name", "type", "parameters"] j | none
  let parameters ← parameters? parameters (j.member? "params")
  return {
    name := ← r.text? (← name)
    type := ← r.text? (← type)
    parameters := ← optional r.dict? .empty parameters }

/-- A connection: two endpoints, or an object with its parts. -/
def connection? : Json → Option Connection
  | .array [.string source, .string sink] => some (.parse source sink)
  | .object members => do
    return {
      source := ← plainText? (← members.lookup "source")
      sourceOutput :=
        ← optional plainText? Connection.defaultOutput (members.lookup "source_output")
      sink := ← plainText? (← members.lookup "sink")
      sinkInput := ← optional plainText? Connection.defaultInput (members.lookup "sink_input") }
  | _ => none

def graph? (r : ConfigReader) (j : Json) : Option GraphConfig := do
  let [pipeline, blocks, connections, settings] ←
    r.fields? ["pipeline", "blocks", "connections", "settings"] j | none
  return {
    pipeline := ← optional r.pipelineInfo? {} pipeline
    blocks := ← optional (list? r.blockDef?) [] blocks
    connections := ← optional (list? connection?) [] connections
    settings := ← optional r.dict? .empty settings }

end ConfigReader

def GraphConfig.ofJson? (j : Json) : Option GraphConfig := ConfigReader.strict.graph? j

end FrameGraph
