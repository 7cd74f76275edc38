import FrameGraph.Proofs.Network.Effects
import FrameGraph.Proofs.Sink.Tally

/-!
# The references that a sink has

A sink has a reference to each frame that was offered and not answered, to each frame in its queue,
and to the one in the hands of its worker. What a step does with them is a permutation, once the
references that come or go with the step are counted.
-/

namespace FrameGraph.SinkEngine

variable {e e' : SinkEngine} {o : Offer} {f : Frame}

/-- The references to frames that a sink has. -/
def refs (e : SinkEngine) : List Frame := e.pending.map (·.frame) ++ (e.queue ++ e.worker.held)

lemma refs_of_pending (h : e'.pending.Perm e.pending) (hqueue : e'.queue = e.queue)
    (hheld : e'.worker.held = e.worker.held) : e'.refs.Perm e.refs := by
  rw [refs, refs, hqueue, hheld]
  exact (h.map _).append_right _

/-! ### Producers -/

lemma refs_approach (e : SinkEngine) (o : Offer) : (e.approach o).refs.Perm (o.frame :: e.refs) :=
  ((e.pending_approach o).map _).append_right _

lemma Picks.refs {i : Nat} {m : Move} (h : e.Picks i m o e') :
    e.refs.Perm (o.frame :: e'.refs) := by
  have hrest : e'.queue = e.queue ∧ e'.worker = e.worker := by
    cases h <;> exact ⟨rfl, rfl⟩
  rw [SinkEngine.refs, SinkEngine.refs, hrest.1, hrest.2]
  exact (h.pending.map _).append_right _

/-- The references that are released when a producer has looked at the queue. -/
def Admission.released (o : Offer) : Admission → List Frame
  | .accepted evicted => evicted
  | .refused _ => [o.frame]
  | .waits => []

lemma refs_push (e : SinkEngine) (f : Frame) : (e.push f).refs.Perm (f :: e.refs) := by
  have hpending : (e.push f).pending = e.pending := by
    rw [push, pending_wakeWorker]
    rfl
  have hheld : (e.push f).worker.held = e.worker.held := by
    rw [push, held_wakeWorker]
  have hqueue : (e.push f).queue = e.queue ++ [f] := by simp [push]
  rw [refs, refs, hpending, hheld, hqueue, List.append_assoc, List.singleton_append]
  exact (List.perm_middle.append_left _).trans List.perm_middle

/-- A frame that is offered is taken in or goes back, and frames that it displaces go. -/
theorem refs_consider : ((e.consider o).1.released o ++ (e.consider o).2.refs).Perm
    (o.frame :: e.refs) := by
  by_cases hstop : e.stopping = true
  · rw [consider_of_stopping hstop]
    exact .refl _
  rw [Bool.not_eq_true] at hstop
  by_cases hroom : e.queue.length < e.maxDepth
  · rw [consider_of_room hstop hroom]
    exact refs_push e o.frame
  cases hpolicy : e.policy with
  | block =>
    rw [consider_of_block hstop hroom hpolicy]
    have hpending : ({ e with waiting := e.waiting ++ [o] } : SinkEngine).pending
        = e.pending ++ [o] := by simp [pending]
    rw [Admission.released, List.nil_append, refs, hpending, List.map_append, List.append_assoc]
    exact List.perm_middle
  | dropOldest =>
    rw [consider_of_dropOldest hstop hroom hpolicy]
    refine ((refs_push _ o.frame).append_left _).trans ?_
    refine List.perm_middle.trans (.cons _ ?_)
    -- the evicted frames and those that are left make up the queue
    have hqueue := makeRoom_append e.maxDepth e.queue
    have hrefs : e.refs = e.pending.map (·.frame) ++ ((makeRoom e.maxDepth e.queue).1 ++
        ((makeRoom e.maxDepth e.queue).2 ++ e.worker.held)) := by
      rw [refs, ← List.append_assoc (makeRoom _ _).1, hqueue]
    rw [hrefs]
    exact List.perm_append_comm_assoc ..

/-! ### The worker -/

lemma refs_seek (h : e.worker = .seeking) : e.seek.refs.Perm e.refs := by
  by_cases hstop : e.stopping = true
  · rw [seek_of_stopping hstop]
    exact refs_of_pending (.refl _) rfl (by rw [h]; rfl)
  rw [Bool.not_eq_true] at hstop
  cases hqueue : e.queue with
  | nil =>
    rw [seek_of_empty hstop hqueue]
    exact refs_of_pending (.refl _) rfl (by rw [h]; rfl)
  | cons f rest =>
    rw [seek_of_cons hstop hqueue, refs, pending_notifyProducer, notifyProducer_queue,
      notifyProducer_worker, refs, hqueue, h]
    refine .append_left _ ?_
    simp only [Worker.held_holding, Worker.held_seeking, List.append_nil]
    exact List.perm_append_singleton f rest

/-- The worker has nothing in its hands any more. -/
lemma refs_of_held {core : BlockCore} {worker : Worker} (h : e.worker.held = [f])
    (hworker : worker.held = []) :
    (f :: ({ e with core, worker } : SinkEngine).refs).Perm e.refs := by
  have hpending : ({ e with core, worker } : SinkEngine).pending = e.pending := rfl
  rw [refs, refs, hpending, h, hworker, List.append_nil, ← List.append_assoc]
  exact (List.perm_append_singleton f _).symm

/-- A frame that the worker took is dropped, or it keeps it. -/
lemma refs_begin (h : e.worker = .holding f) :
    ((e.begin f).1.toList ++ (e.begin f).2.refs).Perm e.refs := by
  have hheld : e.worker.held = [f] := by rw [h]; rfl
  unfold begin
  split
  · exact refs_of_held hheld rfl
  · exact refs_of_pending (.refl _) rfl hheld.symm

/-- The worker has done with a frame. -/
lemma refs_finish (h : e.worker = .processing f) (outcome : Result Unit) (now : Nat) :
    (f :: (e.finish f outcome now).2.refs).Perm e.refs := by
  have hheld : e.worker.held = [f] := by rw [h]; rfl
  match outcome with
  | .ok () =>
    simp only [finish]
    split <;> exact refs_of_held hheld rfl
  | .error (.error _) => exact refs_of_held hheld rfl
  | .error (.panic _) => exact refs_of_held hheld rfl

end FrameGraph.SinkEngine
