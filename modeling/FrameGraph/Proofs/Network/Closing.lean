import FrameGraph.Proofs.Network.Lifecycle

/-!
# Taking a block down

A block that is stopped, shut down or halted is taken down in a few kinds of steps, whatever state
they find. Everything that holds of all such steps follows from this list.
-/

namespace FrameGraph

/-- The state may change, unless the block has failed; a change of state is no failure. -/
inductive BlockCore.Passes (c : BlockCore) : BlockCore → Prop
  | stays : Passes c c
  | enters {state : BlockState} (h : c.state ≠ .error) (h' : state ≠ .error) :
    Passes c { c with state }

namespace BlockCore

variable {c c' c'' : BlockCore} {source target : BlockState}

lemma Passes.name (h : c.Passes c') : c'.name = c.name := by cases h <;> rfl

lemma Passes.lastError (h : c.Passes c') : c'.lastError = c.lastError := by cases h <;> rfl

lemma Passes.listener (h : c.Passes c') : c'.listener = c.listener := by cases h <;> rfl

lemma Passes.error_iff (h : c.Passes c') : c'.state = .error ↔ c.state = .error := by
  cases h with
  | stays => exact .rfl
  | enters h h' => exact iff_of_false h' h

lemma Passes.trans (h : c.Passes c') (h' : c'.Passes c'') : c.Passes c'' := by
  cases h with
  | stays => exact h'
  | enters h hstate =>
    cases h' with
    | stays => exact .enters h hstate
    | enters _ hstate' => exact .enters h hstate'

lemma passes_settle (h : source ≠ .error) (h' : target ≠ .error) (c : BlockCore) :
    c.Passes (c.settle source target) := by
  unfold settle
  split
  · rename_i hstate
    exact .enters (hstate ▸ h) h'
  · exact .stays

lemma passes_settleStopped (c : BlockCore) : c.Passes c.settleStopped :=
  ((passes_settle (by decide) (by decide) c).trans (passes_settle (by decide) (by decide) _)).trans
    (passes_settle (by decide) (by decide) _)

lemma passes_transition {sources : List BlockState} (h : .error ∉ sources) (h' : target ≠ .error)
    (operation : String) (c : BlockCore) : c.Passes (c.transition operation sources target).2 := by
  unfold transition
  split
  · rename_i hmem
    exact .enters (fun hstate => h (hstate ▸ hmem)) h'
  · exact .stays

end BlockCore

namespace Network

variable {ω γ π α : Type} {i : Nat}

/-- One step in which the block `i` is taken down. -/
inductive ClosesAt (i : Nat) (s : Network ω γ π) : Network ω γ π → Prop
  | looks : ClosesAt i s s
  | notes (journal : List String) : ClosesAt i s { s with journal }
  /-- The state changes; a stage notes it. -/
  | passes (journal : List String) {f : BlockCore → BlockCore}
    (h : ∀ c : BlockCore, c.Passes (f c)) : ClosesAt i s ({ s with journal }.mapCore i f)
  | signals : ClosesAt i s (s.mapSource i fun x => { x with stop := x.stop.stop })
  | clears :
    ClosesAt i s (s.mapSource i fun x => { x with engine := { x.engine with consumer := none } })
  | halts : ClosesAt i s (s.mapEngine i SinkEngine.halt)
  | forgets : ClosesAt i s (forgetThread i s)
  | discards : ClosesAt i s (discard i s)

/-- Each step of an operation is one in which the block `i` is taken down. -/
abbrev Closing (i : Nat) (op : Operation ω γ π α) : Prop := op.Always (ClosesAt i)

lemma closing_mapCore {f : BlockCore → BlockCore} (h : ∀ c : BlockCore, c.Passes (f c)) :
    Closing i (.modify fun s : Network ω γ π => s.mapCore i f) :=
  Routine.always_modify fun s => .passes s.journal h

lemma closing_transition {sources : List BlockState} {target : BlockState}
    (h : .error ∉ sources) (h' : target ≠ .error) (operation : String) :
    Closing i (transition i operation sources target : Operation ω γ π _) := by
  refine Routine.always_modifyGet fun s => ?_
  split
  · exact .looks
  · rename_i b hb
    have hcore : s.mapCore i (fun c => (c.transition operation sources target).2) =
        s.setBlock i (b.mapCore fun _ => (b.core.transition operation sources target).2) := by
      simp only [mapCore, hb]
      exact congrArg (s.setBlock i) (Block.mapCore_congr rfl)
    change ClosesAt i s (s.setBlock i (b.mapCore fun _ =>
      (b.core.transition operation sources target).2))
    rw [← hcore]
    exact .passes s.journal (BlockCore.passes_transition h h' operation)

lemma closing_settle {source target : BlockState} (h : source ≠ .error) (h' : target ≠ .error) :
    Closing i (settle i source target : Operation ω γ π Unit) :=
  closing_mapCore (BlockCore.passes_settle h h')

lemma closing_settleStopped : Closing i (settleStopped i : Operation ω γ π Unit) :=
  closing_mapCore BlockCore.passes_settleStopped

lemma closing_signalStop : Closing i (signalStop i : Operation ω γ π Unit) :=
  Routine.always_modify fun _ => .signals

lemma closing_clearConsumer : Closing i (clearConsumer i : Operation ω γ π Unit) :=
  Routine.always_modify fun _ => .clears

lemma closing_join : Closing i (join i : Operation ω γ π Unit) :=
  (Routine.always_waitFor _).bind fun _ => Routine.always_modify fun _ => .forgets

lemma closing_haltWorker : Closing i (haltWorker i : Operation ω γ π Unit) :=
  .bind (Routine.always_modify fun _ => .halts) fun _ => closing_join.bind fun _ =>
    Routine.always_modify fun _ => .discards

lemma closing_request (operation : String) :
    Closing i (request i operation : Operation ω γ π _) := by
  refine Routine.always_modifyGet fun s => ?_
  split
  · exact .looks
  split
  · exact .looks
  · exact .notes _

lemma closing_moveStage {sources : List BlockState} {target : BlockState}
    (h : .error ∉ sources) (h' : target ≠ .error) (operation : String) :
    Closing i (moveStage i operation sources target : Operation ω γ π _) := by
  refine (closing_request operation).bind fun r => ?_
  cases r with
  | error e => exact Routine.always_pure _
  | ok _ => exact (closing_transition h h' operation).bind fun _ => Routine.always_pure _

/-- What follows once the state was changed, or the stop refused. -/
lemma closing_stopping {op : Operation ω γ π Unit} (hop : Closing i op) :
    Closing i (do match ← transition i "stop" [.running] .stopping with
      | .error e => return .error e
      | .ok _ =>
        op
        settle i .stopping .stopped
        return .ok () : Operation ω γ π (Except Error Unit)) := by
  refine (closing_transition (by simp) (by simp) "stop").bind fun r => ?_
  cases r with
  | error e => exact Routine.always_pure _
  | ok _ =>
    exact hop.bind fun _ => (closing_settle (by simp) (by simp)).bind fun _ =>
      Routine.always_pure _

theorem closing_stop : Closing i (stop i : Operation ω γ π _) := by
  refine Routine.always_get (fun _ => .looks) fun b => ?_
  match b with
  | some (.source x) =>
    have hstops : Closing i (signalStop i >>= fun _ => join i : Operation ω γ π Unit) :=
      closing_signalStop.bind fun _ => closing_join
    exact closing_stopping hstops
  | some (.sink y) => exact closing_stopping closing_haltWorker
  | some (.stage z) => exact closing_moveStage (by simp) (by simp) "stop"
  | none => exact Routine.always_pure _

theorem closing_shutdown : Closing i (shutdown i : Operation ω γ π Unit) := by
  refine Routine.always_get (fun _ => .looks) fun b => ?_
  match b with
  | some (.source x) =>
    exact closing_signalStop.bind fun _ => closing_join.bind fun _ =>
      closing_settleStopped.bind fun _ => closing_clearConsumer
  | some (.sink y) => exact closing_haltWorker.bind fun _ => closing_settleStopped
  | some (.stage z) =>
    exact Routine.always_modify fun _ =>
      .passes _ (BlockCore.passes_settle (by decide) (by decide))
  | none => exact Routine.always_pure ()

theorem closing_halt : Closing i (halt i : Operation ω γ π Unit) := by
  refine Routine.always_get (fun _ => .looks) fun state => ?_
  cases state with
  | running =>
    refine closing_stop.bind fun r => ?_
    cases r with
    | error e => exact closing_shutdown
    | ok _ => exact Routine.always_pure _
  | error => exact closing_shutdown
  | _ => exact Routine.always_pure _

end Network

end FrameGraph
