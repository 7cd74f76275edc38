import FrameGraph.Proofs.Counters
import FrameGraph.Proofs.Network.Configure
import Mathlib.Data.List.Perm.Basic

/-!
# The tally of a sink

The intake of a sink is what it processed, what it dropped, and what it has in its queue and in the
hands of its worker. Only an offer that is accepted changes it, by one. A sink that is at rest has
an empty queue, and its intake is what it processed and dropped.
-/

namespace FrameGraph.SinkEngine

variable {e e' e'' : SinkEngine} {o : Offer}

/-- The number of frames that were taken in. -/
def intake (e : SinkEngine) : Nat :=
  e.core.stats.processed + e.core.stats.dropped + e.queue.length + e.worker.held.length

/-- The offers that have not got their answer. -/
def pending (e : SinkEngine) : List Offer := e.approaching ++ (e.woken ++ e.waiting)

/-- Before its worker is started and after it was stopped, a sink has an empty queue. -/
def Rested (e : SinkEngine) : Prop :=
  e.core.state ∈ [.uninitialized, .initialized, .starting, .stopped] → e.queue = []

/-- No frame was taken in and no offer was answered. -/
structure Tallies (e e' : SinkEngine) : Prop where
  intake : e'.intake = e.intake
  pending : e'.pending.Perm e.pending
  rested : e.Rested → e'.Rested

lemma Tallies.refl (e : SinkEngine) : e.Tallies e := ⟨rfl, .refl _, id⟩

lemma intake_of_rested (h : e.Rested) (hworker : e.worker = .absent)
    (hstate : e.core.state ∈ [.uninitialized, .initialized, .starting, .stopped]) :
    e.intake = e.core.stats.processed + e.core.stats.dropped := by
  simp [intake, h hstate, hworker]

/-! ### Notifying producers -/

lemma pending_notifyProducer (e : SinkEngine) : e.notifyProducer.pending = e.pending := by
  simp only [notifyProducer]
  split
  · rfl
  · rename_i o rest h
    simp [pending, h]

lemma pending_notifyProducers (e : SinkEngine) : e.notifyProducers.pending = e.pending := by
  simp [notifyProducers, pending]

@[simp] lemma pending_wakeWorker (e : SinkEngine) : e.wakeWorker.pending = e.pending := by
  simp only [wakeWorker]
  split <;> rfl

lemma intake_wakeWorker (e : SinkEngine) : e.wakeWorker.intake = e.intake := by
  simp only [intake, wakeWorker_core, wakeWorker_queue, held_wakeWorker]

lemma pending_setMaxDepth (e : SinkEngine) (depth : Nat) :
    (e.setMaxDepth depth).2.pending = e.pending := by
  unfold setMaxDepth
  split
  · exact pending_notifyProducers _
  · rfl

lemma pending_setPolicy (e : SinkEngine) (policy : Backpressure) :
    (e.setPolicy policy).pending = e.pending := pending_notifyProducers _

/-! ### Steps of the worker -/

lemma seek_tallies (h : e.worker = .seeking) : e.Tallies e.seek := by
  by_cases hstop : e.stopping = true
  · rw [seek_of_stopping hstop]
    exact ⟨by simp [intake, h], .refl _, id⟩
  rw [Bool.not_eq_true] at hstop
  cases hqueue : e.queue with
  | nil =>
    rw [seek_of_empty hstop hqueue]
    exact ⟨by simp [intake, h, Worker.held], .refl _, id⟩
  | cons f rest =>
    rw [seek_of_cons hstop hqueue]
    constructor
    · simp [intake, h, hqueue]
      omega
    · rw [pending_notifyProducer]
      exact .refl _
    · intro hrested hstate
      simp only [notifyProducer_core] at hstate
      simp [hrested hstate] at hqueue

lemma begin_tallies {f : Frame} (h : e.worker = .holding f) : e.Tallies (e.begin f).2 := by
  simp only [begin]
  split
  · refine ⟨?_, .refl _, id⟩
    simp [intake, h]
    omega
  · exact ⟨by simp [intake, h], .refl _, id⟩

lemma finish_tallies {f : Frame} (h : e.worker = .processing f) (outcome : Result Unit)
    (now : Nat) : e.Tallies (e.finish f outcome now).2 := by
  have hprocessed {core : BlockCore} {worker : Worker}
      (hcore : (e.core.recordProcessed f.buffer.size (latency f now)).2 = core)
      (hworker : worker.held = []) : e.Tallies { e with core, worker } := by
    subst hcore
    refine ⟨?_, .refl _, id⟩
    simp [intake, h, hworker]
    omega
  match outcome with
  | .ok () =>
    simp only [finish]
    split
    · rename_i core hcore
      exact hprocessed (congrArg Prod.snd hcore) rfl
    · rename_i core hcore
      exact hprocessed (congrArg Prod.snd hcore) rfl
  | .error (.error _) =>
    refine ⟨?_, .refl _, id⟩
    simp [finish, intake, h]
    omega
  | .error (.panic p) =>
    refine ⟨?_, .refl _, ?_⟩
    · simp [finish, intake, h, BlockCore.fail]
      omega
    · intro _ hstate
      simp [finish, BlockCore.fail] at hstate

/-! ### Steps of calls -/

lemma Opens.tallies (h : e.Opens e') : e.Tallies e' := by
  cases h with
  | starts hstate hworker =>
    refine ⟨rfl, .refl _, fun hrested _ => hrested ?_⟩
    rcases List.mem_pair.1 hstate with h | h <;> simp [h]
  | arms hworker => exact ⟨rfl, .refl _, id⟩
  | spawns hworker => exact ⟨by simp [intake, hworker], .refl _, id⟩
  | runs hstate hstop => exact ⟨rfl, .refl _, fun _ hstate => by simp at hstate⟩
  | returns h hstate hworker =>
    exact ⟨rfl, .refl _, fun hrested _ => hrested (by simp [hstate])⟩

lemma Closes.tallies (h : e.Closes e') : e.Tallies e' := by
  cases h with
  | stops hstate => exact ⟨rfl, .refl _, fun _ hstate => by simp at hstate⟩
  | halts =>
    constructor
    · exact intake_wakeWorker { e with stopping := true }
    · rw [halt, pending_notifyProducers, pending_wakeWorker]
      exact .refl _
    · intro hrested hstate
      simp only [halt, notifyProducers, wakeWorker_core, wakeWorker_queue] at hstate ⊢
      exact hrested hstate
  | forgets hworker =>
    refine ⟨?_, .refl _, id⟩
    rcases hworker with h | h <;> simp [intake, h]
  | discards hstop hworker =>
    refine ⟨?_, .refl _, fun _ _ => rfl⟩
    simp [discard, intake]
    omega
  | rests hworker hstop hqueue => exact ⟨rfl, .refl _, fun _ _ => hqueue⟩

/-! ### Looking at the queue -/

lemma Picks.pending {i : Nat} {m : Move} (h : e.Picks i m o e') :
    e.pending.Perm (o :: e'.pending) := by
  cases h with
  | arrives k h =>
    obtain ⟨hk, rfl⟩ := List.getElem?_eq_some_iff.1 h
    exact ((List.getElem_cons_eraseIdx_perm hk).symm).append_right _
  | returns k h =>
    obtain ⟨hk, rfl⟩ := List.getElem?_eq_some_iff.1 h
    apply ((((List.getElem_cons_eraseIdx_perm hk).symm).append_right _).append_left _).trans
    exact List.perm_middle

lemma Picks.intake {i : Nat} {m : Move} (h : e.Picks i m o e') : e'.intake = e.intake := by
  cases h <;> rfl

lemma pending_approach (e : SinkEngine) (o : Offer) :
    (e.approach o).pending.Perm (o :: e.pending) := by
  rw [approach, pending, pending, List.append_assoc, List.singleton_append]
  exact List.perm_middle

lemma intake_push (e : SinkEngine) (f : Frame) : (e.push f).intake = e.intake + 1 := by
  rw [push, intake_wakeWorker]
  simp [intake]
  omega

lemma consider_of_waits (h : (e.consider o).1 = .waits) :
    (e.consider o).2 = { e with waiting := e.waiting ++ [o] } := by
  by_cases hstop : e.stopping = true
  · simp [consider_of_stopping hstop] at h
  rw [Bool.not_eq_true] at hstop
  by_cases hroom : e.queue.length < e.maxDepth
  · simp [consider_of_room hstop hroom] at h
  cases hpolicy : e.policy with
  | block =>
    rw [consider_of_block hstop hroom hpolicy]
    simp only [hpolicy]
  | dropOldest => simp [consider_of_dropOldest hstop hroom hpolicy] at h

lemma Picks.waits_tallies {i : Nat} {m : Move} (h : e.Picks i m o e')
    (hwaits : (e'.consider o).1 = .waits) : e.Tallies (e'.consider o).2 := by
  rw [consider_of_waits hwaits]
  refine ⟨h.intake, ?_, ?_⟩
  · refine .trans ?_ h.pending.symm
    have hlast : e'.approaching ++ (e'.woken ++ (e'.waiting ++ [o])) = e'.pending ++ [o] := by
      simp [SinkEngine.pending]
    exact (List.Perm.of_eq hlast).trans (List.perm_append_singleton o _)
  · intro hrested hstate
    cases h <;> exact hrested hstate

/-- An answer of a sink that is not to stop means that the frame was taken in. -/
lemma consider_of_answer (hstop : e.stopping = false) (h : (e.consider o).1 ≠ .waits) :
    (e.consider o).2.intake = e.intake + 1 ∧ (e.consider o).2.pending = e.pending ∧
      (e.consider o).2.core.state = e.core.state := by
  have hpush (e : SinkEngine) : (e.push o.frame).pending = e.pending := by
    rw [push, pending_wakeWorker]
    rfl
  by_cases hroom : e.queue.length < e.maxDepth
  · rw [consider_of_room hstop hroom]
    exact ⟨intake_push e _, hpush e, by simp [push]⟩
  cases hpolicy : e.policy with
  | block => simp [consider_of_block hstop hroom hpolicy] at h
  | dropOldest =>
    rw [consider_of_dropOldest hstop hroom hpolicy]
    refine ⟨?_, hpush _, by simp [push]⟩
    have hlength := congrArg List.length (makeRoom_append e.maxDepth e.queue)
    rw [List.length_append] at hlength
    rw [intake_push]
    simp only [intake, BlockCore.processed_recordDrops, BlockCore.dropped_recordDrops]
    omega

/-- An offer that was answered waits no more. -/
lemma pending_of_answer (h : (e.consider o).1 ≠ .waits) :
    (e.consider o).2.pending = e.pending := by
  cases hstop : e.stopping with
  | true => rw [consider_of_stopping hstop]
  | false => exact (consider_of_answer hstop h).2.1

end FrameGraph.SinkEngine
