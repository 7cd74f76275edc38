import FrameGraph.Network.Basic

/-!
# Moves

A move is one atomic step of one thread, or the passing of time. What threads do next depends only
on where they are, so a run of a network is given by the moves that were made. A move that is not
possible in a state has no result.
-/

namespace FrameGraph

/-- One step. -/
inductive Move
  /-- Time passes, in microseconds. -/
  | tick (span : Nat)
  /-- The system refuses to start threads for this reason from now on, or starts them again. -/
  | deny (reason : Option String)
  /-- The thread of a source goes on. -/
  | source (i : Nat)
  /-- The worker of a sink goes on. -/
  | worker (i : Nat)
  /-- A processor that holds a frame back lets it through. -/
  | letThrough (i : Nat)
  /-- A producer that passed the first checks comes to the queue of a sink. -/
  | arrive (i k : Nat)
  /-- A producer that was notified looks at the queue of a sink again. -/
  | retry (i k : Nat)
  deriving DecidableEq, Repr

namespace Network

variable {ω γ π : Type} [Generator γ] [Processor ω π]

/-! ### Sources -/

/-- The thread of a source got something from its generator. -/
def takeGenerated (s : Network ω γ π) (i : Nat) (b : SourceBlock γ)
    (outcome : Result (Option FrameBuffer)) : Network ω γ π :=
  let engine := b.engine
  match outcome with
  | .ok (some buffer) => s.setSource i { b with thread := .offering buffer }
  | .ok none => s.setSource i { b with thread := .sleeping (s.clock + engine.interval / 4) }
  | .error (.error e) =>
    if e.isResource then
      (s.setSource i { b with thread := .ended }).fail i s!"frame generation failed: {e.message}"
    else
      s.setSource i { b with
        engine := { engine with core := engine.core.recordDropped }
        thread := .sleeping (s.clock + engine.interval) }
  | .error (.panic p) =>
    (s.setSource i { b with thread := .ended }).fail i s!"generator panicked: {p.message}"

/-- The thread of a source is at the top of its loop: it ends, sleeps until a frame is admitted, or
asks for one. -/
def check (s : Network ω γ π) (i : Nat) (b : SourceBlock γ) : Network ω γ π :=
  if b.stop.raised then s.setSource i { b with thread := .ended }
  else if !b.engine.admits s.clock then
    s.setSource i { b with thread := .sleeping b.engine.due }
  else match s.storage.pool? b.lending with
    | none => s.setSource i { b with thread := .ended }
    | some pool =>
      let made := Generator.generate b.generator b.format pool
      (s.mapStorage (·.setPool made.pool)).takeGenerated i { b with generator := made.generator }
        made.outcome

/-- A frame was not emitted: a block that failed is left, otherwise there is a pause. -/
def pauseAfter (s : Network ω γ π) (i : Nat) (b : SourceBlock γ) : Network ω γ π :=
  s.setSource i { b with
    thread := if b.core.state = .error then .ended
      else .sleeping (s.clock + b.engine.interval) }

/-- A frame was taken by the consumer. A counter that leaves its word ends the thread. -/
def countDelivered (s : Network ω γ π) (i : Nat) (b : SourceBlock γ) (bytes : Nat) :
    Network ω γ π :=
  match b.engine.delivered bytes with
  | (.ok (), engine) => s.setSource i { b with engine, thread := .checking }
  | (.error _, engine) => s.setSource i { b with engine, thread := .ended }

/-- A tap looks at a frame; the result is the tap afterwards, and whether it was not aborted. -/
def tapFrame (s : Network ω γ π) (t : Tap) (f : Frame) : (Bool × Tap) × Network ω γ π :=
  let noted : Network ω γ π :=
    { s with received := s.received ++ [⟨f.buffer.summary, f.buffer.info.timestamp⟩] }
  match t with
  | .notes => ((true, .notes), noted.release f)
  | .keeps => ((true, .keeps), { noted with kept := noted.kept ++ [f] })
  | .aborts (true :: calls) => ((false, .aborts calls), s.release f)
  | .aborts calls => ((true, .aborts calls.tail), noted.release f)

def tapAbort : Panic := .said "downstream exploded"

/-- Emit a frame to whoever is there. The result tells whether a tap took it; frames for sinks are
still on their way. -/
def emitTo (s : Network ω γ π) (i : Nat) (b : SourceBlock γ) (c : Consumer) (buffer : FrameBuffer) :
    Network ω γ π :=
  let (f, storage) := s.storage.share buffer
  let s := { s with storage }
  match c with
  | .fanOut [] => (s.release f).setSource i { b with thread := .delivering f [] }
  | .fanOut targets => s.setSource i { b with thread := .delivering f targets }
  | .tap t =>
    let ((taken, t), s) := s.tapFrame t f
    let b := { b with engine := { b.engine with consumer := some (.tap t) } }
    if taken then s.countDelivered i b f.buffer.size
    else
      let (report, engine) := b.engine.undelivered tapAbort
      (s.setSource i { b with engine, thread := .ended }).hear report

def emit (s : Network ω γ π) (i : Nat) (b : SourceBlock γ) (buffer : FrameBuffer) : Network ω γ π :=
  match b.engine.begin buffer s.clock with
  | (.unheard, engine) => (s.mapStorage (·.dispose buffer)).pauseAfter i { b with engine }
  | (.early, engine) => (s.mapStorage (·.dispose buffer)).pauseAfter i { b with engine }
  | (.admitted c buffer, engine) => s.emitTo i { b with engine } c buffer

/-- Hand a frame to the next sink. Each sink gets a reference of its own, the last one that of the
thread. -/
def deliver (s : Network ω γ π) (i : Nat) (b : SourceBlock γ) (f : Frame) (target : Nat)
    (rest : List Nat) : Network ω γ π :=
  let s := if rest.isEmpty then s else s.mapStorage (·.retain f)
  match s.sink? target with
  | none => (s.release f).setSource i { b with thread := .delivering f rest }
  | some sink =>
    match sink.engine.precheck f with
    | .error _ => (s.release f).setSource i { b with thread := .delivering f rest }
    | .ok () =>
      (s.setSink target { sink with engine := sink.engine.approach ⟨.source i, f⟩ }).setSource i
        { b with thread := .submitting f rest }

/-- The thread of a source goes on, if it can. -/
def moveSource (s : Network ω γ π) (i : Nat) : Option (Network ω γ π) :=
  match s.source? i with
  | none => none
  | some b =>
    match b.thread with
    | .absent | .ended | .submitting .. => none
    | .checking => some (s.check i b)
    | .sleeping wake =>
      if b.stop.raised || wake ≤ s.clock then some (s.setSource i { b with thread := .checking })
      else none
    | .offering buffer => some (s.emit i b buffer)
    | .delivering f [] => some (s.countDelivered i b f.buffer.size)
    | .delivering f (target :: rest) => some (s.deliver i b f target rest)

/-! ### Sinks -/

def process (s : Network ω γ π) (i : Nat) (b : SinkBlock π) (f : Frame) : Network ω γ π :=
  let (outcome, processor, world) := Processor.process b.processor f.buffer s.world
  let (report, engine) := b.engine.finish f outcome s.clock
  ((({ s with world }.setSink i { b with processor, engine }).release f).hear report)

/-- The worker of a sink goes on, if it can. -/
def moveWorker (s : Network ω γ π) (i : Nat) : Option (Network ω γ π) :=
  match s.sink? i with
  | none => none
  | some b =>
    match b.engine.worker with
    | .absent | .sleeping | .ended => none
    | .seeking => some (s.setSink i { b with engine := b.engine.seek })
    | .holding f =>
      let (dropped, engine) := b.engine.begin f
      let s := s.setSink i { b with engine }
      some (dropped.elim s s.release)
    | .processing f =>
      if Processor.admits b.processor s.world then some (s.process i b f) else none

/-- A frame that is held back is let through. -/
def moveThrough (s : Network ω γ π) (i : Nat) : Option (Network ω γ π) :=
  match s.sink? i with
  | none => none
  | some b =>
    match b.engine.worker with
    | .processing f => some (s.process i b f)
    | _ => none

/-! ### Producers -/

def look (s : Network ω γ π) (i : Nat) (b : SinkBlock π) (o : Offer) : Network ω γ π :=
  let (admission, engine) := b.engine.consider o
  let s := s.setSink i { b with engine }
  match admission with
  | .accepted evicted => (s.mapStorage (·.releaseAll evicted)).answer o.producer (.ok ())
  | .refused e => (s.release o.frame).answer o.producer (.error e)
  | .waits => s

/-- A producer comes to the queue of a sink. -/
def moveArrival (s : Network ω γ π) (i k : Nat) : Option (Network ω γ π) :=
  match s.sink? i with
  | none => none
  | some b =>
    match b.engine.approaching[k]? with
    | none => none
    | some o =>
      let engine := { b.engine with approaching := b.engine.approaching.eraseIdx k }
      some (s.look i { b with engine } o)

/-- A producer that was notified looks again. -/
def moveRetry (s : Network ω γ π) (i k : Nat) : Option (Network ω γ π) :=
  match s.sink? i with
  | none => none
  | some b =>
    match b.engine.woken[k]? with
    | none => none
    | some o =>
      let engine := { b.engine with woken := b.engine.woken.eraseIdx k }
      some (s.look i { b with engine } o)

def perform (s : Network ω γ π) : Move → Option (Network ω γ π)
  | .tick span => some { s with clock := s.clock + span }
  | .deny reason => some { s with denial := reason }
  | .source i => s.moveSource i
  | .worker i => s.moveWorker i
  | .letThrough i => s.moveThrough i
  | .arrive i k => s.moveArrival i k
  | .retry i k => s.moveRetry i k

end Network

end FrameGraph
