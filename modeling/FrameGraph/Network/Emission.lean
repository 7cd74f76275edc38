import FrameGraph.Network.Lifecycle
import FrameGraph.Network.Moves

/-!
# Emission from outside

A frame that was not made by the thread of a source can be emitted through the source by any
caller. A caller takes the same steps as the thread: it hands a reference to each sink in turn and
waits for the answers.
-/

namespace FrameGraph.Network

variable {ω γ π : Type}

/-- How far an emission has come: nobody took the frame, a tap did, or sinks are to get it. -/
inductive Handover
  | untaken
  | taken
  | underway (frame : Frame) (targets : List Nat)

/-- Check the rate, stamp the frame, and hand it to a tap. -/
def beginOutside (i : Nat) (buffer : FrameBuffer) (s : Network ω γ π) : Handover × Network ω γ π :=
  match s.source? i with
  | none => (.untaken, s.mapStorage (·.dispose buffer))
  | some b =>
    match b.engine.begin buffer s.clock with
    | (.unheard, engine) | (.early, engine) =>
      (.untaken, (s.mapStorage (·.dispose buffer)).setSource i { b with engine })
    | (.admitted c stamped, engine) =>
      let (f, storage) := s.storage.share stamped
      let s := { s with storage }
      match c with
      | .fanOut targets => (.underway f targets, s.setSource i { b with engine })
      | .tap t =>
        let ((taken, t), s) := s.tapFrame t f
        let engine := { engine with consumer := some (.tap t) }
        if taken then
          (.taken, s.setSource i { b with engine := (engine.delivered f.buffer.size).2 })
        else
          let (report, engine) := engine.undelivered tapAbort
          (.untaken, (s.setSource i { b with engine }).hear report)

/-- Offer a reference to a sink; the result is the number of the call when there is an answer to
wait for. -/
def offerFrame (f : Frame) (target : Nat) (s : Network ω γ π) : Option Nat × Network ω γ π :=
  match s.sink? target with
  | none => (none, s)
  | some sink =>
    match sink.engine.precheck f with
    | .error _ => (none, s)
    | .ok () =>
      let k := s.answers.length
      let s := { s with answers := s.answers ++ [none] }.mapStorage (·.retain f)
      (some k, s.setSink target { sink with engine := sink.engine.approach ⟨.caller k, f⟩ })

def answered (k : Nat) (s : Network ω γ π) : Bool :=
  match s.answers[k]? with
  | some a => a.isSome
  | none => true

/-- Hand a frame to a sink and wait for its answer. -/
def submitFrame (f : Frame) (target : Nat) : Operation ω γ π Unit := do
  match ← Routine.modifyGet (offerFrame f target) with
  | none => return ()
  | some k => Routine.waitFor (answered k)

def countOutside (i : Nat) (f : Frame) (s : Network ω γ π) : Network ω γ π :=
  (s.release f).mapSource i fun b => { b with engine := (b.engine.delivered f.buffer.size).2 }

/-- Emit a frame through a source; the result tells whether the consumer got it. -/
def emitOutside (i : Nat) (buffer : FrameBuffer) : Operation ω γ π Bool := do
  match ← Routine.modifyGet (beginOutside i buffer) with
  | .untaken => return false
  | .taken => return true
  | .underway f targets =>
    Routine.each (submitFrame f) targets
    Routine.modify (countOutside i f)
    return true

end FrameGraph.Network
