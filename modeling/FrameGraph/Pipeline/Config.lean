import FrameGraph.Block.Parameters
import FrameGraph.Files.Path
import FrameGraph.Text.Split

/-!
# Descriptions of graphs

A graph is described by its name, its blocks with their parameters, the connections between them,
and settings that are free to use. An endpoint of a connection is a block with a label, written
with a dot between them; only the first dot counts, and a label that is missing takes its usual
value.
-/

namespace FrameGraph

/-! ### Parts -/

/-- The name of a pipeline and of the platform it is meant for. -/
structure PipelineInfo where
  name : String := "unnamed"
  platform : String := "generic"
  deriving DecidableEq, Repr

/-- A block of a graph. -/
structure BlockDef where
  name : String
  type : String
  parameters : Params := .empty
  deriving DecidableEq

/-- A directed edge of a graph. -/
structure Connection where
  source : String
  sourceOutput : String
  sink : String
  sinkInput : String
  deriving DecidableEq, Repr

namespace Connection

def defaultOutput : String := "output"

def defaultInput : String := "input"

/-- The edge between two blocks with the usual labels. -/
def between (source sink : String) : Connection := ⟨source, defaultOutput, sink, defaultInput⟩

/-- The block and the label of an endpoint. -/
def splitEndpoint (endpoint usual : String) : String × String :=
  match Text.splitOnce? '.' endpoint.toList with
  | some (block, label) =>
    (String.ofList block, if label.isEmpty then usual else String.ofList label)
  | none => (endpoint, usual)

def parse (source sink : String) : Connection :=
  let (source, sourceOutput) := splitEndpoint source defaultOutput
  let (sink, sinkInput) := splitEndpoint sink defaultInput
  { source, sourceOutput, sink, sinkInput }

def sourceEndpoint (c : Connection) : String := c.source ++ "." ++ c.sourceOutput

def sinkEndpoint (c : Connection) : String := c.sink ++ "." ++ c.sinkInput

def display (c : Connection) : String := c.sourceEndpoint ++ " -> " ++ c.sinkEndpoint

end Connection

/-! ### Graphs -/

/-- The description of a graph. -/
structure GraphConfig where
  pipeline : PipelineInfo := {}
  blocks : List BlockDef := []
  connections : List Connection := []
  settings : Dict String := .empty
  deriving DecidableEq

namespace GraphConfig

def named (name : String) : GraphConfig := { pipeline := { name } }

def name (c : GraphConfig) : String := c.pipeline.name

def platform (c : GraphConfig) : String := c.pipeline.platform

def withPlatform (c : GraphConfig) (platform : String) : GraphConfig :=
  { c with pipeline := { c.pipeline with platform } }

/-- A setting; the case of ASCII letters in its key does not matter. -/
def setting? (c : GraphConfig) (key : String) : Option String :=
  c.settings.get? (Text.asciiLower key)

def withSetting (c : GraphConfig) (key value : String) : GraphConfig :=
  { c with settings := c.settings.insert (Text.asciiLower key) value }

def withBlock (c : GraphConfig) (b : BlockDef) : GraphConfig := { c with blocks := c.blocks ++ [b] }

/-- Add the connection between two endpoints. -/
def connect (c : GraphConfig) (source sink : String) : GraphConfig :=
  { c with connections := c.connections ++ [.parse source sink] }

end GraphConfig

/-! ### Notations -/

/-- How a description is written. -/
inductive ConfigFormat
  | toml
  | json
  deriving DecidableEq, Repr

namespace ConfigFormat

/-- The name of a notation in descriptions of values. -/
def name : ConfigFormat → String
  | .toml => "Toml"
  | .json => "Json"

/-- Read the name of a notation; the case of ASCII letters does not matter. -/
def read (s : String) : Except Error ConfigFormat :=
  match Text.asciiLower s with
  | "toml" => .ok .toml
  | "json" => .ok .json
  | other => .error (.config s!"unsupported configuration format '{other}'")

/-- The notation of the file at a path, told by its extension. -/
def ofPath (path : String) : ConfigFormat :=
  if (Path.extension? path).map Text.asciiLower = some "json" then .json else .toml

end ConfigFormat

end FrameGraph
