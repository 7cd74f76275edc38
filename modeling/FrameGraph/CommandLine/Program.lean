import FrameGraph.CommandLine.Arguments
import FrameGraph.CommandLine.LogFilter
import FrameGraph.Network.Schedule
import FrameGraph.Pipeline.Builtins

/-!
# The program

The program builds the pipeline that a file describes, or one for demonstration, starts it, shows
its status, runs it for a while, and takes it down. Files are kept in a tree.
-/

namespace FrameGraph.CommandLine

abbrev BuiltinPipeline := Pipeline FileTree TestPattern Output

/-- How the program ended. -/
structure Exit where
  code : Nat
  output : String := ""
  /-- The report on an error. -/
  message : Option String := none

/-- The program after its start. -/
inductive Launch
  | ended (e : Exit) (files : FileTree)
  /-- A pipeline runs. -/
  | running (output : String) (p : BuiltinPipeline)

def Exit.failed (message : String) : Exit := { code := 1, message }

/-- The end of a program that was given wrong arguments. -/
def Exit.misused : Exit := { code := 2 }

/-- The end of a program that was aborted. -/
def Exit.aborted : Exit := { code := 101 }

def demoGraph : GraphConfig :=
  ((((GraphConfig.named "demo").withBlock
    { name := "pattern", type := "TestPatternSource",
      parameters := .ofList [("width", "320"), ("height", "240"), ("fps", "15"),
        ("pattern", "moving_box"), ("use_pool", "true"), ("buffer_count", "8")] }).withBlock
    { name := "console", type := "ConsoleSink",
      parameters := .ofList [("queue_depth", "4")] }).withBlock
    { name := "discard", type := "NullSink",
      parameters := .ofList [("blocking", "false"), ("delay_ms", "5")] }).connect
    "pattern.output" "console.input" |>.connect "pattern.output" "discard.input"

/-- The graph that the program is to run. -/
def graphOf (a : Arguments) (files : FileTree) : Result GraphConfig :=
  match a.config with
  | some path => GraphConfig.ofFile files path
  | none => .ok demoGraph

def usage : String :=
  "Usage: [--config FILE] [--duration SECONDS] [--stats-interval SECONDS] [--log-filter FILTER] "
    ++ "[--list-types]\n"

def carryOut {α : Type} (op : Pipeline.Operation FileTree TestPattern Output α)
    (p : BuiltinPipeline) : α × BuiltinPipeline :=
  Pipeline.carryOut Network.progress op p

def startPipeline (a : Arguments) (files : FileTree) : Launch :=
  let (built, p) := carryOut (Pipeline.loadResult (graphOf a files)) (.new .builtins files)
  match built with
  | .error (.error e) => .ended (.failed s!"failed to build pipeline: {e.message}") p.network.world
  | .error (.panic _) => .ended .aborted p.network.world
  | .ok () =>
    let (started, p) := carryOut Pipeline.start p
    match started with
    | .error (.error e) =>
      .ended (.failed s!"failed to start pipeline: {e.message}") p.network.world
    | .error (.panic _) => .ended .aborted p.network.world
    | .ok () => .running p.status p

def launch (args : List String) (files : FileTree) : Launch :=
  match read args with
  | none => .ended .misused files
  | some .help => .ended { code := 0, output := usage } files
  | some (.run a) =>
    if !LogFilter.isValid (a.logFilter.getD "info") then
      .ended (.failed "invalid filter directive") files
    else if a.listTypes then
      let types := (Registry.builtins).types.map (· ++ "\n")
      .ended { code := 0, output := String.join types } files
    else startPipeline a files

/-- The time for which the arguments let the program run, in microseconds, if it is to end at all.
-/
def runTime? (args : List String) : Option Nat :=
  match read args with
  | some (.run { duration := some seconds, .. }) =>
    if seconds = 0 then none else some (seconds * 1000000)
  | _ => none

/-- The paths at which the description of the graph may be found. -/
def configPaths (args : List String) : List String :=
  match read args with
  | some (.run { config := some path, .. }) =>
    [path, path ++ "." ++ GraphConfig.extensionOf (.ofPath path)]
  | _ => []

/-- Let a pipeline run for some microseconds. -/
def advance (time : Nat) (p : BuiltinPipeline) : BuiltinPipeline :=
  p.mapNetwork fun s => s.runFor (s.clock + time) Network.maxSteps

def finish (p : BuiltinPipeline) : BuiltinPipeline :=
  (carryOut Pipeline.shutdown (carryOut Pipeline.stop p).2).2

/-- Run the program from its start to its end, at most for some microseconds. The result is how it
ended and the files it leaves. -/
def run (args : List String) (time : Nat) (files : FileTree) : Exit × FileTree :=
  match launch args files with
  | .ended e files => (e, files)
  | .running output p =>
    let p := finish (advance (min time ((runTime? args).getD time)) p)
    ({ code := 0, output }, p.network.world)

end FrameGraph.CommandLine
