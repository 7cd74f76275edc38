import FrameGraph.Network.Emission
import FrameGraph.Pipeline.Manager
import FrameGraph.Rehearsal.Types

/-!
# Rehearsals

A rehearsal runs a pipeline under control: after each operation from outside, its threads go on
until none of them can do anything more. A call from outside that waits for room in a queue is kept
in mind until its answer was asked for.
-/

namespace FrameGraph

/-- A pipeline that is rehearsed. -/
structure Rehearsal where
  pipeline : Pipeline Stage PlayedGenerator PlayedProcessor
  /-- The calls whose answers were still missing when they were last asked for. -/
  blocked : List Nat := []
  /-- How much of the journal was told. -/
  told : Nat := 0

namespace Rehearsal

def ofBlock (b : PlayedBlock) (files : FileTree) : Rehearsal :=
  { pipeline := { network := { world := { files }, blocks := [b] }, registry := {} } }

def ofFiles (files : FileTree) : Rehearsal := { pipeline := .new allTypes { files } }

def network (r : Rehearsal) : PlayedNetwork := r.pipeline.network

def put (r : Rehearsal) (s : PlayedNetwork) : Rehearsal :=
  { r with pipeline := { r.pipeline with network := s } }

def settle (r : Rehearsal) : Rehearsal := r.put r.network.quiesce

def change (r : Rehearsal) (f : PlayedNetwork → PlayedNetwork) : Rehearsal :=
  (r.put (f r.network)).settle

def carry {α : Type} (op : Network.Operation Stage PlayedGenerator PlayedProcessor α)
    (r : Rehearsal) : α × Rehearsal :=
  let (a, s) := Network.carryOut op r.network
  (a, (r.put s).settle)

def manage {α : Type} (op : Pipeline.Operation Stage PlayedGenerator PlayedProcessor α)
    (r : Rehearsal) : α × Rehearsal :=
  let (a, pipeline) := Pipeline.carryOut Network.progress op r.pipeline
  (a, { r with pipeline }.settle)

/-- Offer a frame to a sink; the result is the number of the call, if it passed the first checks. -/
def submit (r : Rehearsal) (i : Nat) (b : FrameBuffer) : Except Error Nat × Rehearsal :=
  match r.network.offer i b with
  | (.error e, s) => (.error e, r.put s)
  | (.ok k, s) =>
    let r := (r.put s).settle
    (.ok k, if Network.answered k r.network then r else { r with blocked := r.blocked ++ [k] })

/-- The numbers of the calls that were blocked; those that have an answer by now are forgotten. -/
def takeBlocked (r : Rehearsal) : List Nat × Rehearsal :=
  (r.blocked, { r with blocked := r.blocked.filter fun k => !Network.answered k r.network })

/-- The part of the journal that was not told yet. -/
def takeJournal (r : Rehearsal) : List String × Rehearsal :=
  (r.network.journal.drop r.told, { r with told := r.network.journal.length })

end Rehearsal

end FrameGraph
