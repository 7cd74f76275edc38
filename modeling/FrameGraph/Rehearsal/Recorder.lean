import FrameGraph.Frame.Summary
import FrameGraph.Output.Outputs
import FrameGraph.Rehearsal.Script

/-!
# Recording sinks

For rehearsing a graph, a processor notes the frames that it gets in a record outside the graph,
which is found under a name. The record may have a gate: as long as it is closed, frames are held
back. Two first bytes are special: one makes the processor refuse the frame, the other makes it
abort.
-/

namespace FrameGraph

/-- The frames that a recorder noted, and whether its gate is closed. -/
structure Record where
  notes : List Summary := []
  closed : Bool := false
  deriving DecidableEq, Repr

/-- The files and records around a rehearsed graph. -/
structure Stage where
  files : FileTree := {}
  records : List Record := []
  names : Dict Nat := .empty

namespace Stage

def record? (w : Stage) (name : String) : Option (Nat × Record) := do
  let n ← w.names.get? name
  return (n, ← w.records[n]?)

def mapRecord (w : Stage) (n : Nat) (f : Record → Record) : Stage :=
  { w with records := w.records.modify n f }

end Stage

/-- A processor that notes frames in the record with its number. -/
structure Recorder where
  formats : Option (List PixelFormat) := none
  number : Option Nat := none
  deriving DecidableEq, Repr

namespace Recorder

/-- The record of a recorder, made when it is first wanted. -/
def own (r : Recorder) (w : Stage) : Nat × Stage :=
  match r.number with
  | some n => (n, w)
  | none => (w.records.length, { w with records := w.records ++ [{}] })

/-- Read the parameters, and put the record under its name. -/
def configure (r : Recorder) (p : Params) (w : Stage) : Except Error Unit × Recorder × Stage :=
  match wantedRefusal p with
  | .error e => (.error e, r, w)
  | .ok () =>
    let r := { r with formats := readFormats p }
    match p.readBool "gated" with
    | .error e => (.error e, r, w)
    | .ok gated =>
      let (n, w) := r.own w
      let w := w.mapRecord n fun x => { x with closed := gated.getD x.closed }
      (.ok (), { r with number := some n }, { w with names := w.names.insert (p.text "id") n })

def admits (r : Recorder) (w : Stage) : Bool :=
  match r.number.bind (w.records[·]?) with
  | some x => !x.closed
  | none => true

def process (r : Recorder) (b : FrameBuffer) (w : Stage) : Result Unit × Stage :=
  let note := b.summary
  if note.tag = some 250 then (refuse (.frame "tag 250"), w)
  else if note.tag = some 251 then (.error (.panic (.said "processor crashed")), w)
  else
    (.ok (), match r.number with
      | some n => w.mapRecord n fun x => { x with notes := x.notes ++ [note] }
      | none => w)

end Recorder

end FrameGraph
