import FrameGraph.CommandLine.Program

/-!
# The entry point

The program keeps its files in a tree in memory. Before it starts, the directories on the way to the
current one and the description of the graph are read into the tree; files that the pipeline has
written since are saved now and then. The pipeline's clock follows the real one.
-/

namespace FrameGraph.Main

def pathOf (place : List String) : String := "/" ++ "/".intercalate place

/-- A tree with the current directory and the directories above it. -/
def treeAt (home : List String) : FileTree :=
  { home, nodes := (List.range home.length).map fun n => (home.take (n + 1), .directory) }

def withFile (t : FileTree) (path : String) (bytes : List UInt8) : FileTree :=
  let t := (t.makePath ((Path.parent? path).getD "")).2
  match t.createFile path with
  | .ok (place, t) => t.put place (.file bytes)
  | .error _ => t

def newFiles (old new : FileTree) : List (String × List UInt8) :=
  (new.nodes.filter fun n => !old.nodes.contains n).filterMap fun
    | (place, .file bytes) => some (pathOf place, bytes)
    | (_, .directory) => none

def loadFiles (args : List String) : IO FileTree := do
  let home := Path.parts (← IO.currentDir).toString
  (CommandLine.configPaths args).foldlM (fun t (path : String) => do
    match ← (IO.FS.readBinFile path).toBaseIO with
    | .ok bytes => return withFile t path bytes.toList
    | .error _ => return t) (treeAt home)

def saveFiles (old new : FileTree) : IO Unit :=
  (newFiles old new).forM fun (path, bytes) => do
    IO.FS.createDirAll ((Path.parent? path).getD "/")
    IO.FS.writeBinFile path ⟨bytes.toArray⟩

/-- The time between two looks at the clock, in milliseconds. -/
def slice : Nat := 100

/-- Let a pipeline run until its time is over, if it is to end at all. -/
partial def follow (time : Option Nat) (p : CommandLine.BuiltinPipeline) :
    IO CommandLine.BuiltinPipeline := do
  if time = some 0 then return p
  IO.sleep slice.toUInt32
  let step := min (slice * 1000) (time.getD (slice * 1000))
  let next := CommandLine.advance step p
  saveFiles p.network.world next.network.world
  follow (time.map (· - step)) next

end FrameGraph.Main

open FrameGraph in
def main (args : List String) : IO UInt32 := do
  let files ← Main.loadFiles args
  match CommandLine.launch args files with
  | .ended e left =>
    Main.saveFiles files left
    IO.print e.output
    e.message.forM fun message => IO.eprintln message
    return e.code.toUInt32
  | .running output p =>
    IO.print output
    Main.saveFiles files p.network.world
    let p ← Main.follow (CommandLine.runTime? args) p
    let last := CommandLine.finish p
    Main.saveFiles p.network.world last.network.world
    return 0
