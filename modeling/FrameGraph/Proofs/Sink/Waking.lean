import FrameGraph.Proofs.Sink.Turns

/-!
# Waking the threads of a sink

A producer that waits for room, and a worker that waits for a frame, go on only when somebody
notifies them. No thread waits in vain: whenever there is room that nobody has been notified of, no
producer waits, and whenever there is a frame to take, the worker is awake.
-/

namespace FrameGraph

/-! ### Threads that wait -/

/-- No thread of a sink waits in vain, if besides the producers that were notified another `n` are
about to look at the queue. -/
structure SinkEngine.Alert (n : Nat) (e : SinkEngine) : Prop where
  released : e.stopping = true ∨ e.policy = .dropOldest → e.waiting = []
  room : e.waiting ≠ [] → e.maxDepth - e.queue.length ≤ e.woken.length + n
  worker : e.queue ≠ [] ∨ e.stopping = true → e.worker ≠ .sleeping

namespace SinkEngine

variable {e e' : SinkEngine} {o : Offer} {n : Nat}

/-- Nobody waits, so nobody waits in vain. -/
lemma alert_of_awake (hwaiting : e.waiting = []) (hworker : e.worker ≠ .sleeping) : e.Alert n where
  released _ := hwaiting
  room hne := absurd hwaiting hne
  worker _ := hworker

/-- What the worker does while it is awake, and what is counted, does not matter. -/
lemma Alert.set (h : e.Alert n) (core : BlockCore) {worker : Worker}
    (hworker : worker ≠ .sleeping) :
    ({ e with core, worker } : SinkEngine).Alert n where
  released := h.released
  room := h.room
  worker _ := hworker

/-- Nobody is left waiting by a notification of all. -/
lemma Alert.notifyProducers (h : e.Alert n) (depth : Nat) (policy : Backpressure) :
    ({ e with maxDepth := depth, policy } : SinkEngine).notifyProducers.Alert n where
  released _ := rfl
  room hne := absurd rfl hne
  worker := h.worker

/-! ### Producers -/

/-- Of the producers that were notified, one comes back at a time. -/
lemma Picks.alert {i : Nat} {m : Move} (h : e.Picks i m o e') (he : e.Alert 0) : e'.Alert 1 := by
  cases h with
  | arrives k h => exact ⟨he.released, fun hne => Nat.le_succ_of_le (he.room hne), he.worker⟩
  | returns k h =>
    have hk : k < e.woken.length := (List.getElem?_eq_some_iff.1 h).1
    refine ⟨he.released, fun hne => ?_, he.worker⟩
    have hroom := he.room hne
    simp only [List.length_eraseIdx_of_lt hk]
    omega

/-- A push takes up the room of one producer, and wakes the worker. -/
lemma Alert.push (hreleased : e.stopping = true ∨ e.policy = .dropOldest → e.waiting = [])
    (hroom : e.waiting ≠ [] → e.maxDepth - e.queue.length ≤ e.woken.length + 1) (f : Frame) :
    (e.push f).Alert 0 where
  released := by simpa [SinkEngine.push] using hreleased
  room := by
    intro hne
    simp only [SinkEngine.push, wakeWorker_waiting] at hne
    have hlength := hroom hne
    simp only [SinkEngine.push, wakeWorker_maxDepth, wakeWorker_queue, wakeWorker_woken,
      List.length_append, List.length_singleton]
    omega
  worker _ := wakeWorker_ne_sleeping _

/-- A producer that looks at the queue makes up for the room that it was notified of: it takes the
room, or there is none. -/
theorem Alert.consider (h : e.Alert 1) : (e.consider o).2.Alert 0 := by
  by_cases hstop : e.stopping = true
  · rw [consider_of_stopping hstop]
    exact ⟨h.released, fun hne => absurd (h.released (.inl hstop)) hne, h.worker⟩
  rw [Bool.not_eq_true] at hstop
  by_cases hroom : e.queue.length < e.maxDepth
  · rw [consider_of_room hstop hroom]
    exact .push h.released h.room _
  cases hpolicy : e.policy with
  | block =>
    rw [consider_of_block hstop hroom hpolicy]
    refine ⟨by simp [hstop, hpolicy], fun _ => ?_, h.worker⟩
    rw [Nat.sub_eq_zero_of_le (Nat.not_lt.1 hroom)]
    exact Nat.zero_le _
  | dropOldest =>
    rw [consider_of_dropOldest hstop hroom hpolicy]
    have hwaiting : e.waiting = [] := h.released (.inr hpolicy)
    exact alert_of_awake (by simpa [SinkEngine.push] using hwaiting) (wakeWorker_ne_sleeping _)

/-! ### The worker -/

/-- The worker notifies one producer of the room that it makes by taking a frame. -/
lemma Alert.notifyProducer (hreleased : e.stopping = true ∨ e.policy = .dropOldest → e.waiting = [])
    (hroom : e.waiting ≠ [] → e.maxDepth - e.queue.length ≤ e.woken.length + 1)
    (hworker : e.worker ≠ .sleeping) : e.notifyProducer.Alert 0 := by
  cases hwaiting : e.waiting with
  | nil => exact alert_of_awake (by simp [SinkEngine.notifyProducer, hwaiting]) (by simpa)
  | cons o rest =>
    have hnotified : e.notifyProducer = { e with waiting := rest, woken := e.woken ++ [o] } := by
      simp [SinkEngine.notifyProducer, hwaiting]
    rw [hnotified]
    constructor
    · intro hreason
      simp [hreleased hreason] at hwaiting
    · intro _
      simpa [hwaiting] using hroom
    · exact fun _ => hworker

theorem Alert.seek (h : e.Alert 0) : e.seek.Alert 0 := by
  by_cases hstop : e.stopping = true
  · rw [seek_of_stopping hstop]
    exact h.set e.core (by simp)
  rw [Bool.not_eq_true] at hstop
  cases hqueue : e.queue with
  | nil =>
    rw [seek_of_empty hstop hqueue]
    exact ⟨h.released, h.room, by simp [hqueue, hstop]⟩
  | cons f rest =>
    rw [seek_of_cons hstop hqueue]
    refine .notifyProducer h.released (fun hne => ?_) (by simp)
    have hroom := h.room hne
    simp only [hqueue, List.length_cons] at hroom
    dsimp only
    omega

lemma Alert.begin (h : e.Alert n) (f : Frame) : (e.begin f).2.Alert n := by
  simp only [SinkEngine.begin]
  split
  · exact h.set _ (by simp)
  · exact h.set _ (by simp)

lemma Alert.finish (h : e.Alert n) (f : Frame) (outcome : Result Unit) (now : Nat) :
    (e.finish f outcome now).2.Alert n := by
  match outcome with
  | .ok () =>
    simp only [SinkEngine.finish]
    split
    · exact h.set _ (by simp)
    · exact h.set _ (by simp)
  | .error (.error _) => exact h.set _ (by simp)
  | .error (.panic _) => exact h.set _ (by simp)

/-! ### Control -/

lemma Alert.opens (h : e.Alert n) (hopens : e.Opens e') : e'.Alert n := by
  cases hopens with
  | starts _ _ => exact ⟨h.released, h.room, h.worker⟩
  | arms hworker =>
    refine ⟨fun hreason => h.released ?_, h.room, fun _ => ?_⟩
    · exact .inr (by simpa [arm] using hreason)
    · simp [arm, hworker]
  | spawns _ => exact h.set e.core (by simp)
  | runs _ _ => exact ⟨h.released, h.room, h.worker⟩
  | returns _ _ _ => exact ⟨h.released, h.room, h.worker⟩

lemma Alert.closes (h : e.Alert n) (hcloses : e.Closes e') : e'.Alert n := by
  cases hcloses with
  | stops _ => exact ⟨h.released, h.room, h.worker⟩
  | halts => exact alert_of_awake rfl (wakeWorker_ne_sleeping _)
  | forgets _ => exact h.set e.core (by simp)
  | discards hstop hworker =>
    exact alert_of_awake (h.released (.inl hstop)) (by simp [discard, hworker])
  | rests _ _ _ => exact ⟨h.released, h.room, h.worker⟩

/-- Whatever turn a sink takes, no thread comes to wait in vain. -/
theorem Turn.alert (hturn : e.Turn e') (h : e.Alert 0) : e'.Alert 0 := by
  cases hturn with
  | rests => exact h
  | approaches o => exact ⟨h.released, h.room, h.worker⟩
  | looks hpick => exact (hpick.alert h).consider
  | seeks _ => exact h.seek
  | begins _ => exact h.begin _
  | finishes _ outcome now => exact h.finish _ outcome now
  | setMaxDepth depth =>
    simp only [SinkEngine.setMaxDepth]
    split
    · exact h.notifyProducers depth e.policy
    · exact h
  | setPolicy policy => exact h.notifyProducers e.maxDepth policy
  | fails message => exact ⟨h.released, h.room, h.worker⟩
  | unheard => exact ⟨h.released, h.room, h.worker⟩
  | opens hopens => exact h.opens hopens
  | closes hcloses => exact h.closes hcloses

end SinkEngine

namespace Network

variable {ω γ π : Type} [Generator γ] [Processor ω π] {i : Nat} {x : Scene (Network ω γ π)}

lemma QueueRun.alert (h : QueueRun i x) : ∃ y, x.state.sink? i = some y ∧ y.engine.Alert 0 :=
  h.keeps (fun _ _ => SinkEngine.Turn.alert) fun _ hunused hwaiting =>
    SinkEngine.alert_of_awake hwaiting (by simp [hunused.worker])

/-- No wake-up is lost. Along each run of a sink, no producer waits if the stop flag is set or if
frames are evicted; if one waits, then no more places are free than there are producers that were
notified and have not yet looked again; and the worker does not wait if there is a frame to take or
if the stop flag is set. -/
theorem no_wakeup_lost (h : QueueRun i x) :
    ∃ y, x.state.sink? i = some y ∧
      (y.engine.stopping = true ∨ y.engine.policy = .dropOldest → y.engine.waiting = []) ∧
      (y.engine.waiting ≠ [] →
        y.engine.maxDepth - y.engine.queue.length ≤ y.engine.woken.length) ∧
      (y.engine.queue ≠ [] ∨ y.engine.stopping = true → y.engine.worker ≠ .sleeping) := by
  obtain ⟨y, hy, halert⟩ := h.alert
  exact ⟨y, hy, halert.released, halert.room, halert.worker⟩

/-- A sink with room for one frame that lets producers wait. -/
def narrow : Network FileTree TestPattern Output where
  world := {}
  blocks := [.sink {
    engine := { core := { typeName := "NullSink", state := .initialized }, maxDepth := 1 }
    processor := .discard {} }]

/-- The same sink at work: the worker has a frame, another one fills the queue, and the producer of
a third one waits. -/
def crowded : Network FileTree TestPattern Output where
  world := {}
  storage := { next := 3, counts := [(2, 1), (1, 1), (0, 1)] }
  blocks := [.sink {
    engine := {
      core := { typeName := "NullSink", state := .running, stats := { queueDepth := 1 } }
      queue := [⟨1, speck 2⟩]
      maxDepth := 1
      waiting := [⟨.caller 2, ⟨2, speck 3⟩⟩]
      worker := .holding ⟨0, speck 1⟩ }
    processor := .discard {} }]
  answers := [some (.ok ()), some (.ok ()), none]

lemma queueRun_crowded : QueueRun 0 ⟨crowded, none⟩ := by
  have hnew : SinkLeads 0 ⟨narrow, none⟩ ⟨narrow, none⟩ := .refl
  have hcall := ((hnew.tail (.call .start)).tail .act).tail .act
  have hstarted := (((hcall.tail .act).tail .act).tail .act).tail .ret
  have hfirst := (hstarted.tail (sinkStep_intervention (.offer 0 (speck 1)))).tail
    (sinkStep_move (.arrive 0 0) rfl)
  have htaken := hfirst.tail (sinkStep_move (.worker 0) rfl)
  have hsecond := (htaken.tail (sinkStep_intervention (.offer 0 (speck 2)))).tail
    (sinkStep_move (.arrive 0 0) rfl)
  have hthird := (hsecond.tail (sinkStep_intervention (.offer 0 (speck 3)))).tail
    (sinkStep_move (.arrive 0 0) rfl)
  exact ⟨narrow, _, rfl, ⟨rfl, rfl, rfl, by decide⟩, rfl, hthird⟩

/-- Two producers wait until the worker takes a frame: one of them is notified of the room. -/
theorem no_wakeup_lost_crowded : ∃ (x : Scene (Network FileTree TestPattern Output)) (y : _),
    QueueRun 0 x ∧ x.state.sink? 0 = some y ∧ y.engine.waiting.length = 1 ∧
      y.engine.maxDepth - y.engine.queue.length = 1 ∧ 1 ≤ y.engine.woken.length := by
  have hcrowded : SinkLeads 0 ⟨crowded, none⟩ ⟨crowded, none⟩ := .refl
  have hwaits := (hcrowded.tail (sinkStep_intervention (.offer 0 (speck 4)))).tail
    (sinkStep_move (.arrive 0 0) rfl)
  have hprocessed := (hwaits.tail (sinkStep_move (.worker 0) rfl)).tail
    (sinkStep_move (.worker 0) rfl)
  have hrun := queueRun_crowded.leads (hprocessed.tail (sinkStep_move (.worker 0) rfl))
  obtain ⟨y, hy, -, hroom, -⟩ := no_wakeup_lost hrun
  refine ⟨_, y, hrun, hy, ?_⟩
  cases hy
  exact ⟨rfl, rfl, hroom (by decide)⟩

end Network

end FrameGraph
