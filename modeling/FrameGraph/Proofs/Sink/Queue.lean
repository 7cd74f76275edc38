import FrameGraph.Sink.Engine
import Mathlib.Tactic.Common

/-!
# The queue of a sink

What a look at the queue comes to, case by case, and what eviction leaves.
-/

namespace FrameGraph

def Worker.held : Worker → List Frame
  | .holding f | .processing f => [f]
  | _ => []

namespace Worker

@[simp] lemma held_holding (f : Frame) : (holding f).held = [f] := rfl

@[simp] lemma held_processing (f : Frame) : (processing f).held = [f] := rfl

@[simp] lemma held_seeking : seeking.held = [] := rfl

@[simp] lemma held_absent : absent.held = [] := rfl

@[simp] lemma held_ended : ended.held = [] := rfl

lemma held_length_le (w : Worker) : w.held.length ≤ 1 := by
  cases w <;> simp [held]

end Worker

namespace SinkEngine

variable {e : SinkEngine} {o : Offer}

/-! ### Waking the worker -/

/-- A worker that has ended, or was never there, is not woken. -/
lemma wakeWorker_of_ne (h : e.worker ≠ .sleeping) : e.wakeWorker = e := if_neg h

@[simp] lemma wakeWorker_core (e : SinkEngine) : e.wakeWorker.core = e.core := by
  simp only [wakeWorker]
  split <;> rfl

@[simp] lemma wakeWorker_queue (e : SinkEngine) : e.wakeWorker.queue = e.queue := by
  simp only [wakeWorker]
  split <;> rfl

@[simp] lemma wakeWorker_stopping (e : SinkEngine) : e.wakeWorker.stopping = e.stopping := by
  simp only [wakeWorker]
  split <;> rfl

@[simp] lemma wakeWorker_maxDepth (e : SinkEngine) : e.wakeWorker.maxDepth = e.maxDepth := by
  simp only [wakeWorker]
  split <;> rfl

@[simp] lemma wakeWorker_policy (e : SinkEngine) : e.wakeWorker.policy = e.policy := by
  simp only [wakeWorker]
  split <;> rfl

@[simp] lemma wakeWorker_waiting (e : SinkEngine) : e.wakeWorker.waiting = e.waiting := by
  simp only [wakeWorker]
  split <;> rfl

@[simp] lemma wakeWorker_woken (e : SinkEngine) : e.wakeWorker.woken = e.woken := by
  simp only [wakeWorker]
  split <;> rfl

lemma wakeWorker_ne_sleeping (e : SinkEngine) : e.wakeWorker.worker ≠ .sleeping := by
  by_cases hworker : e.worker = .sleeping
  · simp [wakeWorker, hworker]
  · rwa [wakeWorker_of_ne hworker]

lemma absent_wakeWorker (e : SinkEngine) :
    e.wakeWorker.worker = .absent ↔ e.worker = .absent := by
  by_cases hworker : e.worker = .sleeping
  · rw [wakeWorker, if_pos hworker, hworker]
    simp
  · rw [wakeWorker_of_ne hworker]

lemma held_wakeWorker (e : SinkEngine) : e.wakeWorker.worker.held = e.worker.held := by
  by_cases hworker : e.worker = .sleeping
  · rw [wakeWorker, if_pos hworker, hworker]
    rfl
  · rw [wakeWorker_of_ne hworker]

/-! ### Making room -/

lemma makeRoom_append (limit : Nat) (queue : List Frame) :
    (makeRoom limit queue).1 ++ (makeRoom limit queue).2 = queue := by
  induction queue with
  | nil => rfl
  | cons f rest ih =>
    simp only [makeRoom]
    split
    · rfl
    · rw [List.cons_append, ih]

lemma length_makeRoom {limit : Nat} (h : 1 ≤ limit) (queue : List Frame) :
    (makeRoom limit queue).2.length < limit := by
  induction queue with
  | nil => exact h
  | cons f rest ih =>
    simp only [makeRoom]
    split
    · assumption
    · exact ih

/-! ### Looking at the queue -/

lemma consider_of_stopping (h : e.stopping = true) :
    e.consider o = (.refused (.rejected "sink is stopping"), e) := by
  simp [consider, h]

lemma consider_of_room (h : e.stopping = false) (hroom : e.queue.length < e.maxDepth) :
    e.consider o = (.accepted [], e.push o.frame) := by
  simp [consider, h, hroom]

lemma consider_of_block (h : e.stopping = false) (hfull : ¬e.queue.length < e.maxDepth)
    (hpolicy : e.policy = .block) :
    e.consider o = (.waits, { e with waiting := e.waiting ++ [o] }) := by
  simp [consider, h, hfull, hpolicy]

lemma consider_of_dropOldest (h : e.stopping = false) (hfull : ¬e.queue.length < e.maxDepth)
    (hpolicy : e.policy = .dropOldest) :
    e.consider o = (.accepted (makeRoom e.maxDepth e.queue).1,
      { e with
        queue := (makeRoom e.maxDepth e.queue).2
        core := e.core.recordDrops (makeRoom e.maxDepth e.queue).1.length }.push o.frame) := by
  simp [consider, h, hfull, hpolicy]

/-- An offer that is not accepted leaves the queue and the counters alone. -/
theorem consider_of_not_accepted (h : ∀ evicted, (e.consider o).1 ≠ .accepted evicted) :
    (e.consider o).2.queue = e.queue ∧ (e.consider o).2.core = e.core := by
  by_cases hstop : e.stopping = true
  · rw [consider_of_stopping hstop]
    exact ⟨rfl, rfl⟩
  rw [Bool.not_eq_true] at hstop
  by_cases hroom : e.queue.length < e.maxDepth
  · exact absurd (congrArg Prod.fst (consider_of_room hstop hroom)) (h _)
  cases hpolicy : e.policy with
  | block =>
    rw [consider_of_block hstop hroom hpolicy]
    exact ⟨rfl, rfl⟩
  | dropOldest =>
    exact absurd (congrArg Prod.fst (consider_of_dropOldest hstop hroom hpolicy)) (h _)

/-! ### Seeking a frame -/

lemma seek_of_stopping (h : e.stopping = true) : e.seek = { e with worker := .ended } := by
  simp [seek, h]

lemma seek_of_empty (h : e.stopping = false) (hqueue : e.queue = []) :
    e.seek = { e with worker := .sleeping } := by
  simp [seek, h, hqueue]

lemma seek_of_cons {f : Frame} {rest : List Frame} (h : e.stopping = false)
    (hqueue : e.queue = f :: rest) :
    e.seek = { e with
      queue := rest
      core := e.core.setQueueDepth rest.length
      worker := .holding f }.notifyProducer := by
  simp [seek, h, hqueue]

@[simp] lemma notifyProducer_core (e : SinkEngine) : e.notifyProducer.core = e.core := by
  simp only [notifyProducer]
  split <;> rfl

@[simp] lemma notifyProducer_queue (e : SinkEngine) : e.notifyProducer.queue = e.queue := by
  simp only [notifyProducer]
  split <;> rfl

@[simp] lemma notifyProducer_worker (e : SinkEngine) : e.notifyProducer.worker = e.worker := by
  simp only [notifyProducer]
  split <;> rfl

@[simp] lemma notifyProducer_stopping (e : SinkEngine) :
    e.notifyProducer.stopping = e.stopping := by
  simp only [notifyProducer]
  split <;> rfl

@[simp] lemma notifyProducer_maxDepth (e : SinkEngine) :
    e.notifyProducer.maxDepth = e.maxDepth := by
  simp only [notifyProducer]
  split <;> rfl

@[simp] lemma notifyProducer_policy (e : SinkEngine) : e.notifyProducer.policy = e.policy := by
  simp only [notifyProducer]
  split <;> rfl

end SinkEngine

end FrameGraph
