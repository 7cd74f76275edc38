import FrameGraph.Proofs.Sink.Runs
import FrameGraph.Proofs.Sink.Tally
import Mathlib.Data.List.DropRight

/-!
# Keeping the newest frames

A sink that runs and evicts the oldest frames takes every frame at once. While its worker takes
none, the queue is a window on the frames that were submitted: it ends with the last one, and is as
long as the depth at that time allows. A smaller depth closes the window with the next frame only.
-/

namespace FrameGraph

/-! ### Calls and what they should lead to -/

/-- A call from outside on a sink. -/
inductive SinkCall
  /-- A new frame is submitted. -/
  | submit (b : FrameBuffer)
  /-- A reference to a frame is submitted, and the caller keeps its own. -/
  | pass (f : Frame)
  | setMaxDepth (depth : Nat)

/-- A frame that is submitted is not empty, and a depth is accepted. -/
def SinkCall.Fair : SinkCall → Prop
  | submit b => b.isValid = true ∧ b.size ≠ 0
  | pass f => f.buffer.isValid = true ∧ f.buffer.size ≠ 0
  | setMaxDepth depth => 1 ≤ depth ∧ depth ≤ SinkEngine.depthLimit

/-- The frames that are submitted by some calls. -/
def SinkCall.submitted (calls : List SinkCall) : List FrameBuffer :=
  calls.filterMap fun
    | submit b => some b
    | pass f => some f.buffer
    | setMaxDepth _ => none

/-- What is to be seen of a queue. -/
structure Window where
  frames : List FrameBuffer
  depth : Nat
  dropped : Nat

namespace Window

/-- The newest frames are kept, as many as there may be, and the others are dropped. -/
def enter (w : Window) (b : FrameBuffer) : Window :=
  let kept := min (w.frames.length + 1) w.depth
  { w with
    frames := (w.frames ++ [b]).rtake kept
    dropped := w.dropped + (w.frames.length + 1 - kept) }

def after (w : Window) : SinkCall → Window
  | .submit b => w.enter b
  | .pass f => w.enter f.buffer
  | .setMaxDepth depth => { w with depth }

/-- A window that opens at a constant depth. -/
def upTo (depth dropped : Nat) (bs : List FrameBuffer) : Window where
  frames := bs.rtake (min bs.length depth)
  depth
  dropped := dropped + (bs.length - depth)

lemma enter_upTo (depth dropped : Nat) (bs : List FrameBuffer) (b : FrameBuffer) :
    (upTo depth dropped bs).enter b = upTo depth dropped (bs ++ [b]) := by
  have hlength : (bs.rtake (min bs.length depth)).length = min bs.length depth := by
    rw [List.rtake, List.length_drop]
    omega
  have hkept : min (min bs.length depth + 1) depth = min (bs.length + 1) depth := by omega
  have hframes : (bs.rtake (min bs.length depth) ++ [b]).rtake (min (bs.length + 1) depth) =
      (bs ++ [b]).rtake (min (bs.length + 1) depth) := by
    cases depth with
    | zero => simp
    | succ d =>
      -- the frame takes one of the places, and the newest of the others keep the rest
      have hle : min (min bs.length d) (min bs.length (d + 1)) = min bs.length d := by omega
      have hinner : (bs.rtake (min bs.length (d + 1))).rtake (min bs.length d) =
          bs.rtake (min bs.length d) := by
        simp only [List.rtake_eq_reverse_take_reverse, List.reverse_reverse, List.take_take, hle]
      rw [Nat.add_min_add_right, List.rtake_concat_succ, List.rtake_concat_succ, hinner]
  have hdropped : dropped + (bs.length - depth) + (min bs.length depth + 1 -
      min (bs.length + 1) depth) = dropped + (bs.length + 1 - depth) := by omega
  simp only [upTo, enter, hlength, hkept, hframes, hdropped, List.length_append,
    List.length_singleton]

lemma foldl_after_upTo {depth : Nat} (dropped : Nat) (bs : List FrameBuffer)
    {calls : List SinkCall} (h : ∀ d, .setMaxDepth d ∈ calls → d = depth) :
    calls.foldl after (upTo depth dropped bs) =
      upTo depth dropped (bs ++ SinkCall.submitted calls) := by
  induction calls generalizing bs with
  | nil => simp [SinkCall.submitted]
  | cons c calls ih =>
    have hcalls := fun d hd => h d (List.mem_cons_of_mem _ hd)
    cases c with
    | submit b =>
      rw [List.foldl_cons, after, enter_upTo, ih _ hcalls]
      simp [SinkCall.submitted]
    | pass f =>
      rw [List.foldl_cons, after, enter_upTo, ih _ hcalls]
      simp [SinkCall.submitted]
    | setMaxDepth d =>
      obtain rfl := h d List.mem_cons_self
      exact ih bs hcalls

end Window

namespace SinkEngine

variable {e : SinkEngine} {o : Offer}

def window (e : SinkEngine) : Window :=
  ⟨e.queue.map (·.buffer), e.maxDepth, e.core.stats.dropped⟩

/-- The sink runs, is not asked to stop, and evicts the oldest frames when its queue is full. -/
structure Evicting (e : SinkEngine) : Prop where
  state : e.core.state = .running
  stopping : e.stopping = false
  policy : e.policy = .dropOldest
  depth : 1 ≤ e.maxDepth

/-! ### One look at the queue -/

/-- Room is made for one frame. -/
lemma makeRoom_snd (limit : Nat) (queue : List Frame) :
    (makeRoom limit queue).2 = queue.drop (queue.length + 1 - limit) := by
  induction queue with
  | nil => simp [makeRoom]
  | cons f rest ih =>
    simp only [makeRoom]
    split
    · rename_i hroom
      rw [Nat.sub_eq_zero_of_le hroom, List.drop_zero]
    · rename_i hfull
      rw [List.length_cons, Nat.not_lt] at hfull
      rw [List.length_cons, Nat.succ_sub hfull, List.drop_succ_cons, ih]

lemma length_makeRoom_fst (limit : Nat) (hlimit : 1 ≤ limit) (queue : List Frame) :
    (makeRoom limit queue).1.length = queue.length + 1 - limit := by
  have hlength := congrArg List.length (makeRoom_append limit queue)
  rw [List.length_append, makeRoom_snd, List.length_drop] at hlength
  omega

lemma window_push (f : Frame) : (e.push f).window =
    { e.window with frames := e.window.frames ++ [f.buffer] } := by
  simp [window, push]

lemma Evicting.push (h : e.Evicting) (f : Frame) : (e.push f).Evicting where
  state := by simpa [SinkEngine.push] using h.state
  stopping := by simpa [SinkEngine.push] using h.stopping
  policy := by simpa [SinkEngine.push] using h.policy
  depth := by simpa [SinkEngine.push] using h.depth

/-- A frame is taken at once, and enters the window. -/
theorem Evicting.consider (h : e.Evicting) (o : Offer) :
    (∃ evicted, (e.consider o).1 = .accepted evicted) ∧ (e.consider o).2.Evicting ∧
      (e.consider o).2.window = e.window.enter o.frame.buffer := by
  have hlength : e.window.frames.length = e.queue.length := List.length_map ..
  by_cases hroom : e.queue.length < e.maxDepth
  · rw [consider_of_room h.stopping hroom]
    refine ⟨⟨_, rfl⟩, h.push _, ?_⟩
    have hkept : min (e.queue.length + 1) e.window.depth = e.queue.length + 1 :=
      Nat.min_eq_left hroom
    have hall : (e.window.frames ++ [o.frame.buffer]).rtake (e.queue.length + 1) =
        e.window.frames ++ [o.frame.buffer] := by simp [List.rtake, hlength]
    rw [window_push, Window.enter, hlength, hkept, hall, Nat.sub_self, Nat.add_zero]
  · rw [consider_of_dropOldest h.stopping hroom h.policy]
    refine ⟨⟨_, rfl⟩, ?_, ?_⟩
    · apply Evicting.push
      exact ⟨h.state, h.stopping, h.policy, h.depth⟩
    have hdepth := h.depth
    have hkept : min (e.queue.length + 1) e.window.depth = e.maxDepth :=
      Nat.min_eq_right (Nat.le_succ_of_le (Nat.not_lt.1 hroom))
    have hlast : (e.window.frames ++ [o.frame.buffer]).rtake e.maxDepth =
        e.window.frames.drop (e.queue.length + 1 - e.maxDepth) ++ [o.frame.buffer] := by
      have hle : e.queue.length + 1 - e.maxDepth ≤ e.window.frames.length := by omega
      rw [List.rtake, List.length_append, List.length_singleton, hlength,
        List.drop_append_of_le_length hle]
    rw [window_push, Window.enter, hlength, hkept, hlast]
    simp [window, makeRoom_snd, length_makeRoom_fst _ h.depth]

lemma Evicting.setMaxDepth (h : e.Evicting) {depth : Nat}
    (hdepth : 1 ≤ depth ∧ depth ≤ depthLimit) :
    (e.setMaxDepth depth).1 = .ok () ∧ (e.setMaxDepth depth).2.Evicting ∧
      (e.setMaxDepth depth).2.window = { e.window with depth } := by
  rw [SinkEngine.setMaxDepth, if_pos hdepth]
  exact ⟨rfl, ⟨h.state, h.stopping, h.policy, hdepth.1⟩, rfl⟩

lemma Evicting.precheck (h : e.Evicting) {f : Frame}
    (hf : f.buffer.isValid = true ∧ f.buffer.size ≠ 0) : e.precheck f = .ok () := by
  simp [SinkEngine.precheck, hf.1, hf.2, h.state]

end SinkEngine

namespace Network

variable {ω γ π : Type} [Generator γ] [Processor ω π] {s t : Network ω γ π} {i : Nat}
  {y : SinkBlock π}

/-! ### One call -/

/-- The caller whose offer came last looks at the queue; the result is the answer to its call, if it
has got one. -/
def lookLast (s : Network ω γ π) (i call : Nat) : Option (Except Error Unit) × Network ω γ π :=
  let last := (s.sink? i).elim 0 fun y => y.engine.approaching.length - 1
  match s.perform (.arrive i last) with
  | some t => (t.answers[call]?.join, t)
  | none => (none, s)

/-- Make a call that nobody else gets in the way of; the result is its answer, or none if the caller
waits. -/
def serve (i : Nat) (s : Network ω γ π) : SinkCall → Option (Except Error Unit) × Network ω γ π
  | .submit b =>
    match s.offer i b with
    | (.error e, s) => (some (.error e), s)
    | (.ok call, s) => s.lookLast i call
  | .pass f =>
    match s.offerFrame f i with
    | (none, s) => (none, s)
    | (some call, s) => s.lookLast i call
  | .setMaxDepth depth =>
    let (r, s) := s.setMaxDepth i depth
    (some r, s)

/-- Make one call after the other. -/
def serveAll (i : Nat) : Network ω γ π → List SinkCall →
    List (Option (Except Error Unit)) × Network ω γ π
  | s, [] => ([], s)
  | s, c :: calls =>
    let (answer, s) := s.serve i c
    let (answers, s) := serveAll i s calls
    (answer :: answers, s)

/-- The offer that came last is accepted at once. -/
lemma lookLast_of_evicting {f : Frame} {call : Nat} (h : y.engine.Evicting)
    (hs : s.sink? i = some { y with engine := y.engine.approach ⟨.caller call, f⟩ })
    (hcall : call < s.answers.length) :
    (s.lookLast i call).1 = some (.ok ()) ∧
      ∃ y', (s.lookLast i call).2.sink? i = some y' ∧
        y'.engine = (y.engine.consider ⟨.caller call, f⟩).2 := by
  obtain ⟨⟨evicted, hevicted⟩, -⟩ := h.consider ⟨.caller call, f⟩
  have hsink := block?_of_set_self (blocks_setSink
    { y with engine := (y.engine.consider ⟨.caller call, f⟩).2 }) (sink?_eq_some.1 hs)
  -- the offer stands behind those that came before it, and nobody else is passed over
  have herase (o : Offer) : (y.engine.approaching ++ [o]).eraseIdx y.engine.approaching.length =
      y.engine.approaching := by simp [List.eraseIdx_append_of_length_le]
  have hmove : s.perform (.arrive i y.engine.approaching.length) =
      some (((s.setSink i { y with engine := (y.engine.consider ⟨.caller call, f⟩).2 }).mapStorage
        (·.releaseAll evicted)).answer (.caller call) (.ok ())) := by
    simp [perform, moveArrival, hs, SinkEngine.approach, herase, look, hevicted]
  simp only [lookLast, hs, Option.elim_some, SinkEngine.approach, List.length_append,
    List.length_singleton, Nat.add_sub_cancel]
  rw [hmove]
  refine ⟨?_, _, sink?_eq_some.2 hsink, rfl⟩
  simp [answer, mapStorage, setSink, setBlock, hcall]

/-- One call is answered at once and moves the window. -/
theorem serve_of_evicting (hy : s.sink? i = some y) (h : y.engine.Evicting) {c : SinkCall}
    (hc : c.Fair) :
    (s.serve i c).1 = some (.ok ()) ∧ ∃ y', (s.serve i c).2.sink? i = some y' ∧
      y'.engine.Evicting ∧ y'.engine.pending = y.engine.pending ∧
      y'.engine.window = y.engine.window.after c := by
  have haccepted {t : Network ω γ π} {f : Frame} (hf : f.buffer.isValid = true ∧ f.buffer.size ≠ 0)
      (ht : t.sink? i = some { y with
        engine := y.engine.approach ⟨.caller s.answers.length, f⟩ })
      (hanswers : t.answers = s.answers ++ [none]) :
      (t.lookLast i s.answers.length).1 = some (.ok ()) ∧
        ∃ y', (t.lookLast i s.answers.length).2.sink? i = some y' ∧ y'.engine.Evicting ∧
          y'.engine.pending = y.engine.pending ∧
          y'.engine.window = y.engine.window.enter f.buffer := by
    obtain ⟨hanswer, y', hy', hengine⟩ := lookLast_of_evicting h ht (by simp [hanswers])
    obtain ⟨⟨evicted, hevicted⟩, hevicting, hwindow⟩ :=
      h.consider ⟨.caller s.answers.length, f⟩
    refine ⟨hanswer, y', hy', hengine ▸ hevicting, ?_, hengine ▸ hwindow⟩
    rw [hengine]
    exact SinkEngine.pending_of_answer (by simp [hevicted])
  have hset (t : Network ω γ π) (ht : t.blocks = s.blocks) (z : SinkBlock π) :
      (t.setSink i z).sink? i = some z := by
    have hb := (block?_of_blocks_eq ht i).trans (sink?_eq_some.1 hy)
    exact sink?_eq_some.2 (block?_of_set_self (blocks_setSink z) hb)
  cases c with
  | submit b =>
    have hcheck : y.engine.precheck ⟨s.storage.next, b⟩ = .ok () := h.precheck hc
    simp only [serve, offer, hy, Storage.share, hcheck]
    exact haccepted (f := ⟨s.storage.next, b⟩) hc (hset _ rfl _) rfl
  | pass f =>
    simp only [serve, offerFrame, hy, h.precheck hc]
    exact haccepted hc (hset _ rfl _) rfl
  | setMaxDepth depth =>
    obtain ⟨hanswer, hevicting, hwindow⟩ := h.setMaxDepth hc
    simp only [serve, setMaxDepth, hy]
    exact ⟨by rw [hanswer], _, hset s rfl _, hevicting, y.engine.pending_setMaxDepth depth, hwindow⟩

/-! ### All calls -/

lemma serveAll_of_evicting (hy : s.sink? i = some y) (h : y.engine.Evicting)
    {calls : List SinkCall} (hcalls : ∀ c ∈ calls, c.Fair) :
    (s.serveAll i calls).1 = calls.map (fun _ => some (.ok ())) ∧
      ∃ y', (s.serveAll i calls).2.sink? i = some y' ∧
        y'.engine.Evicting ∧ y'.engine.pending = y.engine.pending ∧
        y'.engine.window = calls.foldl Window.after y.engine.window := by
  induction calls generalizing s y with
  | nil => exact ⟨rfl, y, hy, h, rfl, rfl⟩
  | cons c calls ih =>
    obtain ⟨hc, hcalls⟩ := List.forall_mem_cons.1 hcalls
    obtain ⟨hanswer, y', hy', hevicting, hpending, hwindow⟩ := serve_of_evicting hy h hc
    obtain ⟨hanswers, z, hz, hevicting', hpending', hwindow'⟩ := ih hy' hevicting hcalls
    refine ⟨?_, z, hz, hevicting', hpending'.trans hpending, ?_⟩
    · simp only [serveAll, List.map_cons, hanswer, hanswers]
    · rw [List.foldl_cons, ← hwindow, hwindow']

/-- The newest frames are kept. A sink that runs and evicts the oldest frames takes every frame at
once and every depth at once, and leaves nobody waiting that did not wait before. Each frame that is
submitted enters the window on the queue, and a new depth alone removes nothing. So at a constant
depth a queue that was empty holds the last frames that were submitted, as many as the depth allows,
and the others were dropped. -/
theorem newest_kept (hy : s.sink? i = some y) (h : y.engine.Evicting) {calls : List SinkCall}
    (hcalls : ∀ c ∈ calls, c.Fair) :
    (s.serveAll i calls).1 = calls.map (fun _ => some (.ok ())) ∧
      ∃ y', (s.serveAll i calls).2.sink? i = some y' ∧
        y'.engine.pending = y.engine.pending ∧
        y'.engine.window = calls.foldl Window.after y.engine.window ∧
        (y.engine.queue = [] → (∀ depth, .setMaxDepth depth ∈ calls → depth = y.engine.maxDepth) →
          y'.engine.window = Window.upTo y.engine.maxDepth y.core.stats.dropped
            (SinkCall.submitted calls)) := by
  obtain ⟨hanswers, y', hy', -, hpending, hwindow⟩ := serveAll_of_evicting hy h hcalls
  refine ⟨hanswers, y', hy', hpending, hwindow, fun hempty hconstant => ?_⟩
  have hstart : y.engine.window = Window.upTo y.engine.maxDepth y.core.stats.dropped [] := by
    simp [SinkEngine.window, Window.upTo, SinkBlock.core, hempty]
  rw [hwindow, hstart, Window.foldl_after_upTo _ _ hconstant, List.nil_append]

/-- A sink that runs and may hold four frames. -/
def roomy : Network FileTree TestPattern Output where
  world := {}
  blocks := [.sink {
    engine := {
      core := { typeName := "NullSink", state := .running }
      maxDepth := 4
      policy := .dropOldest }
    processor := .discard {} }]

/-- A smaller depth shows with the next frame. -/
theorem newest_kept_roomy :
    let calls : List SinkCall :=
      [1, 2, 3, 4].map (.submit <| speck ·) ++ [.setMaxDepth 2, .submit (speck 5)]
    (roomy.serveAll 0 calls).1 = List.replicate 6 (some (.ok ())) ∧
      ∃ y, (roomy.serveAll 0 calls).2.sink? 0 = some y ∧
        y.engine.window = ⟨[speck 4, speck 5], 2, 3⟩ := by
  intro calls
  have hspeck (byte : UInt8) : (SinkCall.submit (speck byte)).Fair := ⟨rfl, by simp [speck]⟩
  have hdepth : (SinkCall.setMaxDepth 2).Fair := ⟨by decide, by decide⟩
  have hcalls : ∀ c ∈ calls, c.Fair := by simp [calls, hspeck, hdepth]
  obtain ⟨hanswers, y, hy, -, hwindow, -⟩ :=
    newest_kept (s := roomy) (i := 0) (y := _) rfl (by exact ⟨rfl, rfl, rfl, by decide⟩) hcalls
  exact ⟨hanswers, y, hy, hwindow⟩

/-- A sink runs, evicts the oldest frames and has no worker at work, and refuses a frame at once. -/
def TurnsAway (s : Network ω γ π) (i : Nat) (b : FrameBuffer) : Prop :=
  ∃ y, s.sink? i = some y ∧ y.engine.core.state = .running ∧ y.engine.policy = .dropOldest ∧
    1 ≤ y.engine.maxDepth ∧ y.engine.worker ∈ [.absent, .ended] ∧
    (SinkCall.submit b).Fair ∧
    (s.serve i (.submit b)).1 = some (.error (.rejected "sink is stopping"))

/-- A sink that was asked to stop refuses every frame, also while it still runs: before a shutdown
comes to its end, and when its state is set back after it was stopped. -/
theorem halted_refuses :
    (∃ (x : Scene (Network FileTree TestPattern Output)) (L : Ledger), SinkRun 0 x L ∧
      x.state.TurnsAway 0 (speck 1)) ∧
    ∃ (x : Scene (Network FileTree TestPattern Output)) (L : Ledger), SinkRun 0 x L ∧
      (x.state.mapCore 0 fun c => { c with state := .running }).TurnsAway 0 (speck 1) := by
  have hnew : SinkRun 0 ⟨lone, none⟩ {} := .unused rfl ⟨rfl, rfl, rfl, by decide⟩
  have hstarted := (hnew.call .start).act.act.act.act.act.ret
  have hclosing := (hstarted.call .shutdown).act.act.move (.worker 0) rfl
  have hhalted := ((hstarted.call .stop).act.act.act.move (.worker 0) rfl).await rfl
  have hstopped := hhalted.act.act.act.ret
  constructor
  · exact ⟨_, _, hclosing, _, rfl, rfl, rfl, by decide, by decide, ⟨rfl, by decide⟩, rfl⟩
  · exact ⟨_, _, hstopped, _, rfl, rfl, rfl, by decide, by decide, ⟨rfl, by decide⟩, rfl⟩

end Network

end FrameGraph
