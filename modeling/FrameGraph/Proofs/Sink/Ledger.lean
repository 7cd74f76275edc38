import FrameGraph.Proofs.Counters
import FrameGraph.Proofs.Network.Control
import Mathlib.Algebra.GroupWithZero.Nat

/-!
# The ledger of a sink

Whoever watches the queue of a sink can keep a ledger: of the frames that were pushed, of those that
left the queue and why, of those on which the processor was run, and of those that it accepted. The
ledger is written from what is seen of each step alone. `Ledger.Fits` says how it agrees with the
queue, the worker and the counters, and every step of a sink keeps it so.
-/

namespace FrameGraph

/-! ### Entries -/

/-- A frame was pushed: how long the queue was then, and which depth was in force. -/
structure Push where
  frame : Frame
  length : Nat
  limit : Nat
  deriving DecidableEq, Repr

/-- Why a frame left the queue. -/
inductive Departure
  /-- The worker took it. -/
  | taken
  /-- A producer evicted it, having found a queue of this length under this depth and policy. -/
  | evicted (found limit : Nat) (policy : Backpressure)
  /-- It was dropped by a step of a call, with the stop flag as it was then. -/
  | discarded (stopping : Bool)
  deriving DecidableEq, Repr

/-- A departure as it should be. -/
def Departure.Justified : Departure → Prop
  | .taken => True
  | .evicted found limit policy => limit ≤ found ∧ policy = .dropOldest
  | .discarded stopping => stopping = true

/-- What was seen of a queue, in the order in which it happened. -/
structure Ledger where
  pushes : List Push := []
  departures : List (Frame × Departure) := []
  /-- The frames on which the processor was run, and those of them that it accepted. -/
  seen : List Frame := []
  processed : List Frame := []
  deriving DecidableEq, Repr

namespace Ledger

variable (L : Ledger) (e e' : SinkEngine)

def accepted : List Frame := L.pushes.map (·.frame)

/-- The frames that left the queue, in this order. -/
def departed : List Frame := L.departures.map (·.1)

/-- The frames that the worker took. -/
def taken : List Frame := (L.departures.filter (·.2 = .taken)).map (·.1)

/-- The size of some frames together. -/
def bytes (fs : List Frame) : Nat := (fs.map (·.buffer.size)).sum

/-! ### Keeping the ledger -/

/-- Frames evicted from a queue, the first of them at the length `found`. -/
def evictions (limit : Nat) (policy : Backpressure) : (found : Nat) → List Frame →
    List (Frame × Departure)
  | _, [] => []
  | found, f :: rest => (f, .evicted found limit policy) :: evictions limit policy (found - 1) rest

def enter (p : Push) : Ledger := { L with pushes := L.pushes ++ [p] }

/-- Enter departures. -/
def strike (ds : List (Frame × Departure)) : Ledger :=
  { L with departures := L.departures ++ ds }

/-- A producer looked at the queue. -/
def looked (o : Offer) : Ledger :=
  match (e.consider o).1 with
  | .accepted evicted =>
    (L.strike (evictions e.maxDepth e.policy e.queue.length evicted)).enter
      ⟨o.frame, (e.consider o).2.queue.length, e.maxDepth⟩
  | _ => L

/-- The worker looked at the queue. -/
def sought : Ledger :=
  if e.stopping then L
  else match e.queue with
    | [] => L
    | f :: _ => L.strike [(f, .taken)]

/-- The processor was run on a frame. -/
def finished (f : Frame) (outcome : Result Unit) : Ledger :=
  match outcome with
  | .ok () => { L with seen := L.seen ++ [f], processed := L.processed ++ [f] }
  | .error _ => { L with seen := L.seen ++ [f] }

/-- A step of a call shortened the queue. -/
def shortened : Ledger :=
  L.strike ((e.queue.take (e.queue.length - e'.queue.length)).map (·, .discarded e.stopping))

/-! ### Agreement -/

/-- The ledger agrees with the queue, the worker and the counters. -/
structure Fits (L : Ledger) (e : SinkEngine) : Prop where
  order : L.accepted = L.departed ++ e.queue
  count : L.departures.length
    = e.core.stats.processed + e.core.stats.dropped + e.worker.held.length
  processed : L.processed.length = e.core.stats.processed
  bytes : Ledger.bytes L.processed < Checked.word64 →
    e.core.stats.bytes = Ledger.bytes L.processed
  seen : (L.seen ++ e.worker.held).Sublist L.taken
  gauge : e.core.stats.queueDepth = e.queue.length
  depth : 1 ≤ e.maxDepth ∧ e.maxDepth ≤ SinkEngine.depthLimit
  length : e.queue.length ≤ SinkEngine.depthLimit
  pushes : ∀ p ∈ L.pushes, p.length ≤ p.limit
  justified : ∀ d ∈ L.departures, d.2.Justified

variable {L e e'}

/-- Every accepted frame is processed, dropped, waiting, or in the hands of the worker. -/
lemma Fits.accounts (h : L.Fits e) : L.accepted.length
    = e.core.stats.processed + e.core.stats.dropped + e.queue.length + e.worker.held.length := by
  have hlength := congrArg List.length h.order
  rw [List.length_append, departed, List.length_map, h.count] at hlength
  omega

/-- What the processor saw, it saw in the order of acceptance, and nothing twice. -/
lemma Fits.seen_sublist (h : L.Fits e) : L.seen.Sublist L.accepted := by
  have htaken : L.taken.Sublist L.departed := List.filter_sublist.map _
  rw [h.order]
  exact (List.sublist_append_left _ _).trans
    (h.seen.trans (htaken.trans (List.sublist_append_left _ _)))

/-- A step that leaves the queue, the counters and the hands of the worker alone. -/
lemma Fits.congr (h : L.Fits e) (hqueue : e'.queue = e.queue)
    (hstats : e'.core.stats = e.core.stats) (hheld : e'.worker.held = e.worker.held)
    (hdepth : 1 ≤ e'.maxDepth ∧ e'.maxDepth ≤ SinkEngine.depthLimit) : L.Fits e' where
  order := by rw [hqueue, h.order]
  count := by rw [hstats, hheld, h.count]
  processed := by rw [hstats, h.processed]
  bytes := by rw [hstats]; exact h.bytes
  seen := by rw [hheld]; exact h.seen
  gauge := by rw [hstats, hqueue, h.gauge]
  depth := hdepth
  length := by rw [hqueue]; exact h.length
  pushes := h.pushes
  justified := h.justified

/-! ### Evictions -/

@[simp] lemma map_evictions (limit : Nat) (policy : Backpressure) (found : Nat)
    (evicted : List Frame) : (evictions limit policy found evicted).map (·.1) = evicted := by
  induction evicted generalizing found with
  | nil => rfl
  | cons f rest ih => simp [evictions, ih]

@[simp] lemma length_evictions (limit : Nat) (policy : Backpressure) (found : Nat)
    (evicted : List Frame) : (evictions limit policy found evicted).length = evicted.length := by
  rw [← List.length_map (·.1), map_evictions]

lemma taken_evictions (limit : Nat) (policy : Backpressure) (found : Nat) (evicted : List Frame) :
    (evictions limit policy found evicted).filter (·.2 = .taken) = [] := by
  induction evicted generalizing found with
  | nil => rfl
  | cons f rest ih => simp [evictions, ih]

/-- Each frame is evicted from a queue that is full at that moment. -/
lemma justified_evictions (limit : Nat) (queue : List Frame) :
    ∀ d ∈ evictions limit .dropOldest queue.length (SinkEngine.makeRoom limit queue).1,
      d.2.Justified := by
  induction queue with
  | nil => simp [SinkEngine.makeRoom, evictions]
  | cons f rest ih =>
    simp only [SinkEngine.makeRoom]
    split
    · simp [evictions]
    · rename_i hfull
      intro d hd
      rcases List.mem_cons.1 hd with rfl | hd
      · exact ⟨Nat.le_of_not_lt hfull, rfl⟩
      · exact ih d hd

/-! ### Steps of producers -/

/-- A frame is pushed onto a queue that is not full. -/
lemma Fits.pushed (h : L.Fits e) (f : Frame) (hroom : e.queue.length < e.maxDepth) :
    (L.enter ⟨f, (e.push f).queue.length, e.maxDepth⟩).Fits (e.push f) := by
  have hqueue : (e.push f).queue = e.queue ++ [f] := by simp [SinkEngine.push]
  have hcore : (e.push f).core = e.core.setQueueDepth (e.queue ++ [f]).length := by
    simp [SinkEngine.push]
  have hheld : (e.push f).worker.held = e.worker.held := SinkEngine.held_wakeWorker _
  have hdepth : (e.push f).maxDepth = e.maxDepth := by simp [SinkEngine.push]
  have hlength : (e.queue ++ [f]).length ≤ e.maxDepth := by
    rw [List.length_append, List.length_singleton]
    exact hroom
  have hlimit := h.depth.2
  refine ⟨?_, ?_, ?_, ?_, ?_, ?_, ?_, ?_, ?_, h.justified⟩
  · have horder : L.accepted = L.departed ++ e.queue := h.order
    simp only [accepted] at horder
    simp only [accepted, enter, List.map_append, horder, hqueue]
    exact List.append_assoc ..
  · rw [hcore, hheld]
    exact h.count
  · rw [hcore]
    exact h.processed
  · rw [hcore]
    exact h.bytes
  · rw [hheld]
    exact h.seen
  · rw [hcore, hqueue]
    simp only [BlockCore.queueDepth_setQueueDepth, Statistics.maxQueueDepth]
    unfold SinkEngine.depthLimit at hlimit
    omega
  · rw [hdepth]
    exact h.depth
  · rw [hqueue]
    omega
  · intro p hp
    rcases List.mem_append.1 hp with hp | hp
    · exact h.pushes p hp
    · rw [List.mem_singleton.1 hp, hqueue]
      exact hlength

lemma Fits.evicted (h : L.Fits e) (hpolicy : e.policy = .dropOldest) :
    (L.strike (evictions e.maxDepth e.policy e.queue.length
      (SinkEngine.makeRoom e.maxDepth e.queue).1)).Fits
      { e with
        queue := (SinkEngine.makeRoom e.maxDepth e.queue).2
        core := (e.core.recordDrops (SinkEngine.makeRoom e.maxDepth e.queue).1.length).setQueueDepth
          (SinkEngine.makeRoom e.maxDepth e.queue).2.length } := by
  have happend := SinkEngine.makeRoom_append e.maxDepth e.queue
  have hlength := SinkEngine.length_makeRoom h.depth.1 e.queue
  have hlimit := h.depth.2
  refine ⟨?_, ?_, h.processed, h.bytes, ?_, ?_, h.depth, ?_, h.pushes, ?_⟩
  · have horder : L.accepted = L.departed ++ e.queue := h.order
    simp only [departed, strike, List.map_append, map_evictions, List.append_assoc, happend]
    exact horder
  · have hcount := h.count
    simp only [strike, List.length_append, length_evictions, BlockCore.processed_setQueueDepth,
      BlockCore.dropped_setQueueDepth, BlockCore.processed_recordDrops,
      BlockCore.dropped_recordDrops, hcount]
    omega
  · simp only [taken, strike, List.filter_append, taken_evictions, List.append_nil]
    exact h.seen
  · simp only [BlockCore.queueDepth_setQueueDepth, Statistics.maxQueueDepth]
    unfold SinkEngine.depthLimit at hlimit
    omega
  · exact Nat.le_trans (Nat.le_of_lt hlength) hlimit
  · intro d hd
    rcases List.mem_append.1 hd with hd | hd
    · exact h.justified d hd
    · rw [hpolicy] at hd
      exact justified_evictions _ _ d hd

lemma Fits.looked (h : L.Fits e) (o : Offer) : (L.looked e o).Fits (e.consider o).2 := by
  by_cases hstop : e.stopping = true
  · simp only [Ledger.looked, SinkEngine.consider_of_stopping hstop]
    exact h
  rw [Bool.not_eq_true] at hstop
  by_cases hroom : e.queue.length < e.maxDepth
  · simp only [Ledger.looked, SinkEngine.consider_of_room hstop hroom, evictions, strike,
      List.append_nil]
    exact h.pushed o.frame hroom
  cases hpolicy : e.policy with
  | block =>
    simp only [Ledger.looked, SinkEngine.consider_of_block hstop hroom hpolicy]
    exact h.congr rfl rfl rfl h.depth
  | dropOldest =>
    simp only [Ledger.looked, SinkEngine.consider_of_dropOldest hstop hroom hpolicy]
    exact (h.evicted hpolicy).pushed o.frame (SinkEngine.length_makeRoom h.depth.1 e.queue)

/-! ### Steps of the worker -/

lemma Fits.took (h : L.Fits e) (hworker : e.worker = .seeking) {f : Frame} {rest : List Frame}
    (hqueue : e.queue = f :: rest) :
    (L.strike [(f, .taken)]).Fits
      { e with queue := rest, core := e.core.setQueueDepth rest.length, worker := .holding f } := by
  have horder := h.order
  have hcount := h.count
  have hseen := h.seen
  have hlength := h.length
  rw [hqueue] at horder hlength
  rw [hworker] at hcount hseen
  refine ⟨?_, ?_, h.processed, h.bytes, ?_, ?_, h.depth, ?_, h.pushes, ?_⟩
  · simpa [strike, departed, Ledger.accepted] using horder
  · simpa [strike] using hcount
  · simpa [strike, taken] using hseen
  · simp only [BlockCore.queueDepth_setQueueDepth, Statistics.maxQueueDepth]
    simp only [SinkEngine.depthLimit, List.length_cons] at hlength
    omega
  · exact Nat.le_of_succ_le hlength
  · intro d hd
    rcases List.mem_append.1 hd with hd | hd
    · exact h.justified d hd
    · rw [List.mem_singleton.1 hd]
      trivial

lemma Fits.sought (h : L.Fits e) (hworker : e.worker = .seeking) : (L.sought e).Fits e.seek := by
  by_cases hstop : e.stopping = true
  · simp only [Ledger.sought, hstop, SinkEngine.seek_of_stopping hstop]
    exact h.congr rfl rfl (by rw [hworker]; rfl) h.depth
  rw [Bool.not_eq_true] at hstop
  cases hqueue : e.queue with
  | nil =>
    simp only [Ledger.sought, hstop, hqueue, SinkEngine.seek_of_empty hstop hqueue]
    exact h.congr hqueue.symm rfl (by rw [hworker]; rfl) h.depth
  | cons f rest =>
    simp only [Ledger.sought, hstop, hqueue, SinkEngine.seek_of_cons hstop hqueue]
    exact (h.took hworker hqueue).congr (by simp) (by simp) (by simp) (by simpa using h.depth)

/-- The worker turns to the frame that it took, or drops it. -/
lemma Fits.begun (h : L.Fits e) {f : Frame} (hworker : e.worker = .holding f) :
    L.Fits (e.begin f).2 := by
  by_cases herror : e.core.state = .error
  · simp only [SinkEngine.begin, if_pos herror]
    have hcount := h.count
    have hseen := h.seen
    rw [hworker] at hcount hseen
    refine ⟨h.order, ?_, h.processed, h.bytes, ?_, h.gauge, h.depth, h.length, h.pushes,
      h.justified⟩
    · simpa [Nat.add_assoc] using hcount
    · simpa using (List.sublist_append_left _ _).trans hseen
  · simp only [SinkEngine.begin, if_neg herror]
    exact h.congr rfl rfl (by rw [hworker]; rfl) h.depth

@[simp] lemma bytes_append_singleton (fs : List Frame) (f : Frame) :
    bytes (fs ++ [f]) = bytes fs + f.buffer.size := by
  simp [bytes]

/-- The processor accepted a frame; the counter of bytes may have left its word. -/
lemma Fits.accepted (h : L.Fits e) {f : Frame} (hworker : e.worker = .processing f) (nanos : Nat)
    (worker : Worker) (hheld : worker.held = []) :
    (L.finished f (.ok ())).Fits
      { e with core := (e.core.recordProcessed f.buffer.size nanos).2, worker } := by
  have hcount := h.count
  have hprocessed := h.processed
  have hseen := h.seen
  rw [hworker] at hcount hseen
  refine ⟨h.order, ?_, ?_, ?_, ?_, ?_, h.depth, h.length, h.pushes, h.justified⟩
  · simp only [finished, BlockCore.processed_recordProcessed, BlockCore.dropped_recordProcessed,
      hheld, hcount, Worker.held_processing, List.length_cons, List.length_nil]
    omega
  · simp [finished, hprocessed]
  · intro hbytes
    simp only [finished, bytes_append_singleton] at hbytes ⊢
    have hbefore := h.bytes (by omega)
    rw [BlockCore.bytes_recordProcessed _ _ _ (by omega), hbefore]
  · simpa [finished, hheld, taken] using hseen
  · simpa using h.gauge

/-- The processor refused a frame, or was aborted: the frame is dropped. -/
lemma Fits.refused (h : L.Fits e) {f : Frame} (hworker : e.worker = .processing f) (x : Fault)
    (core : BlockCore) (hcore : core.stats = e.core.recordDropped.stats) :
    (L.finished f (.error x)).Fits { e with core, worker := .seeking } := by
  have hcount := h.count
  have hprocessed := h.processed
  have hseen := h.seen
  rw [hworker] at hcount hseen
  refine ⟨h.order, ?_, ?_, ?_, ?_, ?_, h.depth, h.length, h.pushes, h.justified⟩
  · simp only [hcore, finished, hcount, Worker.held_processing, Worker.held_seeking,
      BlockCore.processed_recordDropped, BlockCore.dropped_recordDropped, List.length_cons,
      List.length_nil]
    omega
  · simpa [hcore, finished] using hprocessed
  · simpa [hcore, finished] using h.bytes
  · simpa [finished, taken] using hseen
  · simpa [hcore] using h.gauge

lemma Fits.finished (h : L.Fits e) {f : Frame} (hworker : e.worker = .processing f)
    (outcome : Result Unit) (now : Nat) :
    (L.finished f outcome).Fits (e.finish f outcome now).2 := by
  match outcome with
  | .ok () =>
    simp only [SinkEngine.finish]
    split
    · rename_i core hcore
      obtain rfl := congrArg Prod.snd hcore
      exact h.accepted hworker _ .seeking rfl
    · rename_i core hcore
      obtain rfl := congrArg Prod.snd hcore
      exact h.accepted hworker _ .ended rfl
  | .error (.error x) => exact h.refused hworker _ _ rfl
  | .error (.panic x) => exact h.refused hworker _ _ rfl

/-! ### Steps of calls -/

/-- A step that leaves the queue alone drops nothing. -/
lemma Fits.unshortened (h : L.Fits e) (hqueue : e'.queue = e.queue)
    (hstats : e'.core.stats = e.core.stats) (hheld : e'.worker.held = e.worker.held)
    (hdepth : e'.maxDepth = e.maxDepth) : (L.shortened e e').Fits e' := by
  have hL : L.shortened e e' = L := by simp [shortened, strike, hqueue]
  rw [hL]
  exact h.congr hqueue hstats hheld (by rw [hdepth]; exact h.depth)

lemma Fits.discarded (h : L.Fits e) (hstop : e.stopping = true) :
    (L.shortened e e.discard.2).Fits e.discard.2 := by
  have hL : L.shortened e e.discard.2 = L.strike (e.queue.map (·, .discarded true)) := by
    simp [shortened, SinkEngine.discard, hstop]
  have hcount := h.count
  rw [hL]
  refine ⟨?_, ?_, h.processed, h.bytes, ?_, rfl, h.depth, Nat.zero_le _, h.pushes, ?_⟩
  · have horder : L.accepted = L.departed ++ e.queue := h.order
    simpa [strike, departed, SinkEngine.discard, Ledger.accepted, Function.comp_def] using horder
  · simp only [strike, SinkEngine.discard, List.length_append, List.length_map, hcount,
      BlockCore.processed_recordDrops, BlockCore.dropped_recordDrops,
      BlockCore.processed_setQueueDepth, BlockCore.dropped_setQueueDepth]
    omega
  · have htaken : (L.strike (e.queue.map (·, .discarded true))).taken = L.taken := by
      simp [strike, taken, List.filter_map, Function.comp_def]
    rw [htaken]
    exact h.seen
  · intro d hd
    rcases List.mem_append.1 hd with hd | hd
    · exact h.justified d hd
    · obtain ⟨f, -, rfl⟩ := List.mem_map.1 hd
      rfl

lemma Fits.opened (h : L.Fits e) (hopens : e.Opens e') : (L.shortened e e').Fits e' := by
  cases hopens with
  | starts hstate hworker => exact h.unshortened rfl rfl rfl rfl
  | arms hworker => exact h.unshortened rfl rfl rfl rfl
  | spawns hworker => exact h.unshortened rfl rfl (by rw [hworker]; rfl) rfl
  | runs hstate hstop => exact h.unshortened rfl rfl rfl rfl
  | returns hsource hstate hworker => exact h.unshortened rfl rfl rfl rfl

lemma Fits.closed (h : L.Fits e) (hcloses : e.Closes e') : (L.shortened e e').Fits e' := by
  cases hcloses with
  | stops hstate => exact h.unshortened rfl rfl rfl rfl
  | halts =>
    refine h.unshortened ?_ ?_ (SinkEngine.held_wakeWorker _) ?_
    all_goals simp [SinkEngine.halt, SinkEngine.notifyProducers]
  | forgets hworker =>
    refine h.unshortened rfl rfl ?_ rfl
    rcases hworker with hworker | hworker
    · rw [hworker, Worker.held_absent]
    · rw [hworker, Worker.held_absent, Worker.held_ended]
  | discards hstop hworker => exact h.discarded hstop
  | rests hworker hstop hqueue => exact h.unshortened rfl rfl rfl rfl

end Ledger

end FrameGraph
