import FrameGraph.Proofs.Counters
import FrameGraph.Proofs.Network.Blocks

/-!
# What a move does

Each move is one of a few kinds: time passes, a source goes on by itself, a source hands a frame to
a sink, a worker goes on, or a producer looks at a queue. `perform_effect` says which kind a move
is, and what becomes of the blocks. Everything that is shown of all moves rests on it.
-/

namespace FrameGraph

/-! ### Sources -/

/-- Whether the thread is in its loop and has not handed a frame over. -/
def SourceThread.isLooping : SourceThread → Bool
  | .checking | .sleeping _ | .offering _ => true
  | _ => false

/-- A generator can come to make this buffer. -/
def Generator.Makes (γ : Type) [Generator γ] (buffer : FrameBuffer) : Prop :=
  ∃ (g : γ) (format : FrameInfo) (pool : BufferPool),
    (Generator.generate g format pool).outcome = .ok (some buffer)

/-- What the thread of a source does without a sink. -/
inductive SourceBlock.Turn {γ : Type} [Generator γ] (b : SourceBlock γ) : SourceBlock γ → Prop
  /-- It goes on in its loop, or leaves it. A buffer that it is about to emit has just been made. -/
  | loops {b'} (hb : b.thread.isLooping = true)
    (hthread : b'.thread.isLooping = true ∨ b'.thread = .ended)
    (hmade : ∀ buffer, b'.thread = .offering buffer → Generator.Makes γ buffer)
    (hstate : b'.core.state = b.core.state ∨ b'.core.state = .error)
    (hconsumer : b'.engine.consumer = b.engine.consumer)
    (hstats : b'.core.stats.processed = b.core.stats.processed) : Turn b b'
  /-- It begins to hand a frame to sinks. -/
  | begins {b' buffer f targets} (now : Nat) (hb : b.thread = .offering buffer)
    (hconsumer : b.engine.consumer = some (.fanOut targets))
    (hf : f.buffer = buffer.stamp now (b.engine.sequence + 1))
    (hthread : b'.thread = .delivering f targets) (hcore : b'.core = b.core)
    (hconsumer' : b'.engine.consumer = b.engine.consumer) : Turn b b'
  /-- It shows a frame to a tap. -/
  | taps {b' buffer tap tap'} (hb : b.thread = .offering buffer)
    (hconsumer : b.engine.consumer = some (.tap tap))
    (hthread : b'.thread = .checking ∨ b'.thread = .ended)
    (hstate : b'.core.state = b.core.state ∨ b'.core.state = .error)
    (hconsumer' : b'.engine.consumer = some (.tap tap')) : Turn b b'
  /-- It counts a frame that all sinks were offered. -/
  | counts {b' f} (hb : b.thread = .delivering f [])
    (hthread : b'.thread = .checking ∨ b'.thread = .ended)
    (hstate : b'.core.state = b.core.state)
    (hconsumer : b'.engine.consumer = b.engine.consumer)
    (hstats : b'.core.stats.processed = b.core.stats.processed + 1) : Turn b b'

namespace SourceEngine

variable {e : SourceEngine} {b : FrameBuffer} {c : Consumer} {now : Nat}

lemma begin_of_unheard (hc : e.consumer = none) : e.begin b now = (.unheard, e) := by
  simp [begin, hc]

lemma begin_of_early (hc : e.consumer = some c) (h : ¬e.admits now = true) :
    e.begin b now = (.early, { e with core := e.core.recordDropped }) := by
  simp [begin, hc, h]

lemma begin_of_admits (hc : e.consumer = some c) (h : e.admits now = true) :
    e.begin b now = (.admitted c (b.stamp now (e.sequence + 1)),
      { e with sequence := e.sequence + 1, lastEmit := some now }) := by
  simp [begin, hc, h]

end SourceEngine

/-! ### Sinks -/

/-- A producer comes to the queue of the sink `i` with an offer, or comes back to it. -/
inductive SinkEngine.Picks (e : SinkEngine) (i : Nat) : Move → Offer → SinkEngine → Prop
  | arrives {o} (k : Nat) (h : e.approaching[k]? = some o) :
    Picks e i (.arrive i k) o { e with approaching := e.approaching.eraseIdx k }
  | returns {o} (k : Nat) (h : e.woken[k]? = some o) :
    Picks e i (.retry i k) o { e with woken := e.woken.eraseIdx k }

namespace Network

variable {ω γ π : Type}

/-! ### Turns of sources -/

section Turns

variable {s : Network ω γ π} {i : Nat} {x : SourceBlock γ}

lemma blocks_setSource_fail (hx : s.block? i = some (.source x)) (x' : SourceBlock γ)
    (message : String) :
    ((s.setSource i x').fail i message).blocks =
      s.blocks.set i (.source (x'.mapCore fun c => (c.fail message).1)) := by
  have h : (s.setSource i x').block? i = some (.source x') :=
    block?_of_set_self (blocks_setSource _) hx
  rw [blocks_fail h, blocks_setSource, List.set_set]
  rfl

lemma takeGenerated_turn [Generator γ] (hx : s.block? i = some (.source x))
    (hb : x.thread = .checking) (g : γ) {outcome : Result (Option FrameBuffer)}
    (hmade : ∀ buffer, outcome = .ok (some buffer) → Generator.Makes γ buffer) :
    ∃ x', x.Turn x' ∧ (s.takeGenerated i { x with generator := g } outcome).blocks
      = s.blocks.set i (.source x') := by
  have hloop : x.thread.isLooping = true := by rw [hb]; rfl
  match outcome with
  | .ok (some buffer) =>
    refine ⟨{ x with generator := g, thread := .offering buffer }, ?_, rfl⟩
    refine .loops hloop (.inl rfl) ?_ (.inl rfl) rfl rfl
    intro buffer' h
    cases h
    exact hmade buffer rfl
  | .ok none =>
    exact ⟨{ x with
      generator := g, thread := .sleeping (s.clock + x.engine.interval / 4) },
      .loops hloop (.inl rfl) (by simp) (.inl rfl) rfl rfl, rfl⟩
  | .error (.panic p) =>
    refine ⟨_, ?_, blocks_setSource_fail hx _ _⟩
    exact .loops hloop (.inr rfl) (by simp [SourceBlock.mapCore]) (.inr rfl) rfl rfl
  | .error (.error e) =>
    simp only [takeGenerated]
    split
    · refine ⟨_, ?_, blocks_setSource_fail hx _ _⟩
      exact .loops hloop (.inr rfl) (by simp [SourceBlock.mapCore]) (.inr rfl) rfl rfl
    · refine ⟨_, ?_, rfl⟩
      exact .loops hloop (.inl rfl) (by simp) (.inl rfl) rfl rfl

lemma check_turn [Generator γ] (hx : s.block? i = some (.source x)) (hb : x.thread = .checking) :
    ∃ x', x.Turn x' ∧ (s.check i x).blocks = s.blocks.set i (.source x') := by
  have hloop : x.thread.isLooping = true := by rw [hb]; rfl
  unfold check
  split
  · exact ⟨{ x with thread := .ended },
      .loops hloop (.inr rfl) (by simp) (.inl rfl) rfl rfl, rfl⟩
  split
  · exact ⟨{ x with thread := .sleeping x.engine.due },
      .loops hloop (.inl rfl) (by simp) (.inl rfl) rfl rfl, rfl⟩
  split
  · exact ⟨{ x with thread := .ended },
      .loops hloop (.inr rfl) (by simp) (.inl rfl) rfl rfl, rfl⟩
  · rename_i pool _
    exact takeGenerated_turn (s := s.mapStorage _) hx hb _
      fun buffer hbuffer => ⟨x.generator, x.format, pool, hbuffer⟩

/-- A frame that nobody took, or that came too early. -/
lemma pauseAfter_turn [Generator γ] {buffer : FrameBuffer} (hb : x.thread = .offering buffer)
    {engine : SourceEngine} (hstate : engine.core.state = x.core.state)
    (hconsumer : engine.consumer = x.engine.consumer)
    (hstats : engine.core.stats.processed = x.core.stats.processed) :
    ∃ x', x.Turn x' ∧ (s.pauseAfter i { x with engine }).blocks = s.blocks.set i (.source x') := by
  have hloop : x.thread.isLooping = true := by rw [hb]; rfl
  refine ⟨_, ?_, rfl⟩
  by_cases h : engine.core.state = .error
  · refine .loops hloop (.inr ?_) ?_ (.inl hstate) hconsumer hstats
    · simp [SourceBlock.core, h]
    · simp [SourceBlock.core, h]
  · refine .loops hloop (.inl ?_) ?_ (.inl hstate) hconsumer hstats
    · simp [SourceBlock.core, h, SourceThread.isLooping]
    · simp [SourceBlock.core, h]

/-- Counting a frame changes nothing else that others look at. -/
lemma blocks_countDelivered (x : SourceBlock γ) (bytes : Nat) :
    ∃ x', (s.countDelivered i x bytes).blocks = s.blocks.set i (.source x') ∧
      (x'.thread = .checking ∨ x'.thread = .ended) ∧ x'.core.state = x.core.state ∧
      x'.engine.consumer = x.engine.consumer ∧
      x'.core.stats.processed = x.core.stats.processed + 1 := by
  have hprocessed : (x.engine.delivered bytes).2.core.stats.processed
      = x.core.stats.processed + 1 := BlockCore.processed_recordProcessed ..
  unfold countDelivered
  split
  · rename_i engine h
    obtain rfl : (x.engine.delivered bytes).2 = engine := congrArg Prod.snd h
    exact ⟨_, rfl, .inl rfl, rfl, rfl, hprocessed⟩
  · rename_i engine h
    obtain rfl : (x.engine.delivered bytes).2 = engine := congrArg Prod.snd h
    exact ⟨_, rfl, .inr rfl, rfl, rfl, hprocessed⟩

lemma emitTo_turn [Generator γ] {buffer : FrameBuffer} {c : Consumer}
    (hb : x.thread = .offering buffer)
    (hc : x.engine.consumer = some c) (engine : SourceEngine)
    (hcore : engine.core = x.engine.core) (hconsumer : engine.consumer = x.engine.consumer)
    (now : Nat) :
    ∃ x', x.Turn x' ∧ (s.emitTo i { x with engine } c
      (buffer.stamp now (x.engine.sequence + 1))).blocks = s.blocks.set i (.source x') := by
  match c with
  | .fanOut [] =>
    exact ⟨{ x with engine, thread := .delivering _ [] },
      .begins now hb hc rfl rfl hcore hconsumer, rfl⟩
  | .fanOut (k :: rest) =>
    exact ⟨{ x with engine, thread := .delivering _ (k :: rest) },
      .begins now hb hc rfl rfl hcore hconsumer, rfl⟩
  | .tap tap =>
    simp only [emitTo]
    generalize hg : Network.tapFrame _ tap _ = noted
    have hnoted : noted.2.blocks = s.blocks := by rw [← hg, blocks_tapFrame]
    split
    · obtain ⟨x', hblocks, hthread, hstate, hx', -⟩ := blocks_countDelivered (s := noted.2) (i := i)
        { x with engine := { engine with consumer := some (.tap noted.1.2) } } buffer.size
      refine ⟨x', .taps hb hc hthread (.inl (hstate.trans ?_)) hx', ?_⟩
      · exact congrArg BlockCore.state hcore
      · rw [← hnoted]
        exact hblocks
    · refine ⟨{ x with
        engine := (SourceEngine.undelivered
          { engine with consumer := some (.tap noted.1.2) } tapAbort).2
        thread := .ended }, .taps hb hc (.inr rfl) (.inr rfl) rfl, ?_⟩
      rw [blocks_hear, blocks_setSource, hnoted]

lemma emit_turn [Generator γ] {buffer : FrameBuffer} (hb : x.thread = .offering buffer) :
    ∃ x', x.Turn x' ∧ (s.emit i x buffer).blocks = s.blocks.set i (.source x') := by
  unfold emit
  cases hc : x.engine.consumer with
  | none =>
    rw [SourceEngine.begin_of_unheard hc]
    exact pauseAfter_turn (s := s.mapStorage _) hb rfl rfl rfl
  | some c =>
    by_cases hadmits : x.engine.admits s.clock = true
    · rw [SourceEngine.begin_of_admits hc hadmits]
      exact emitTo_turn hb hc { x.engine with
        sequence := x.engine.sequence + 1, lastEmit := some s.clock } rfl rfl s.clock
    · rw [SourceEngine.begin_of_early hc hadmits]
      exact pauseAfter_turn (s := s.mapStorage _) hb rfl rfl rfl

end Turns

/-! ### Moves -/

variable [Generator γ] [Processor ω π]

/-- What a move does to the blocks of a network. -/
inductive Effect (s : Network ω γ π) : Move → Network ω γ π → Prop
  | tick {t} (span : Nat) (ht : t.blocks = s.blocks) : Effect s (.tick span) t
  | deny {t} (reason : Option String) (ht : t.blocks = s.blocks) : Effect s (.deny reason) t
  /-- A source goes on without a sink. -/
  | source {t i x x'} (hx : s.block? i = some (.source x)) (hturn : x.Turn x')
    (ht : t.blocks = s.blocks.set i (.source x')) : Effect s (.source i) t
  /-- A source leaves out a target that refuses the frame at once. -/
  | skips {t i x f k rest} (hx : s.block? i = some (.source x))
    (hthread : x.thread = .delivering f (k :: rest))
    (hk : ∀ y, s.block? k = some (.sink y) → ∃ e, y.engine.precheck f = .error e)
    (ht : t.blocks = s.blocks.set i (.source { x with thread := .delivering f rest })) :
    Effect s (.source i) t
  /-- A source goes to the queue of a sink. -/
  | hands {t i x f k rest y} (hx : s.block? i = some (.source x))
    (hthread : x.thread = .delivering f (k :: rest)) (hy : s.block? k = some (.sink y))
    (hcheck : y.engine.precheck f = .ok ())
    (ht : t.blocks =
      (s.blocks.set k (.sink { y with engine := y.engine.approach ⟨.source i, f⟩ })).set i
        (.source { x with thread := .submitting f rest })) : Effect s (.source i) t
  /-- A worker looks at its queue. -/
  | seeks {t i y} (hy : s.block? i = some (.sink y)) (hworker : y.engine.worker = .seeking)
    (ht : t.blocks = s.blocks.set i (.sink { y with engine := y.engine.seek })) :
    Effect s (.worker i) t
  /-- A worker turns to the frame that it took. -/
  | begins {t i y f} (hy : s.block? i = some (.sink y)) (hworker : y.engine.worker = .holding f)
    (ht : t.blocks = s.blocks.set i (.sink { y with engine := (y.engine.begin f).2 })) :
    Effect s (.worker i) t
  /-- A worker runs the processor on a frame. -/
  | finishes {t m i y f} (hm : m = .worker i ∨ m = .letThrough i)
    (hy : s.block? i = some (.sink y)) (hworker : y.engine.worker = .processing f)
    (ht : t.blocks = s.blocks.set i (.sink { y with
      processor := (Processor.process y.processor f.buffer s.world).2.1
      engine := (y.engine.finish f (Processor.process y.processor f.buffer s.world).1
        s.clock).2 })) : Effect s m t
  /-- A producer looks at a queue and has to wait. -/
  | waits {t m i y o e} (hy : s.block? i = some (.sink y)) (hpick : y.engine.Picks i m o e)
    (hconsider : (e.consider o).1 = .waits)
    (ht : t.blocks = s.blocks.set i (.sink { y with engine := (e.consider o).2 })) : Effect s m t
  /-- A producer looks at a queue and gets its answer. -/
  | answers {t m i y o e} (r : Except Error Unit) (hy : s.block? i = some (.sink y))
    (hpick : y.engine.Picks i m o e) (hconsider : (e.consider o).1 ≠ .waits)
    (ht : t.blocks =
      ((s.setSink i { y with engine := (e.consider o).2 }).answer o.producer r).blocks) :
    Effect s m t

/-! ### Moves of sources -/

variable {s t : Network ω γ π} {i : Nat} {x : SourceBlock γ} {y : SinkBlock π}

lemma deliver_effect {f : Frame} {k : Nat} {rest : List Nat} (hx : s.block? i = some (.source x))
    (hthread : x.thread = .delivering f (k :: rest)) :
    s.Effect (.source i) (s.deliver i x f k rest) := by
  unfold deliver
  dsimp only
  generalize hr : (if rest.isEmpty = true then s else s.mapStorage (·.retain f)) = r
  have hblocks : r.blocks = s.blocks := by
    rw [← hr]
    split <;> rfl
  have hsink : r.sink? k = s.sink? k := by
    rw [sink?, sink?, block?_of_blocks_eq hblocks]
  rw [hsink]
  cases hk : s.sink? k with
  | none =>
    refine .skips hx hthread (fun y hy => ?_) (by rw [blocks_setSource, blocks_release, hblocks])
    rw [sink?_eq_some.2 hy] at hk
    cases hk
  | some y =>
    dsimp only
    cases hcheck : y.engine.precheck f with
    | error e =>
      refine .skips hx hthread (fun y' hy' => ?_)
        (by rw [blocks_setSource, blocks_release, hblocks])
      rw [sink?_eq_some.2 hy'] at hk
      cases hk
      exact ⟨e, hcheck⟩
    | ok u =>
      exact .hands hx hthread (sink?_eq_some.1 hk) hcheck
        (by rw [blocks_setSource, blocks_setSink, hblocks])

lemma moveSource_effect (h : s.moveSource i = some t) : s.Effect (.source i) t := by
  unfold moveSource at h
  split at h
  · cases h
  rename_i x hx
  rw [source?_eq_some] at hx
  split at h
  case h_1 | h_2 | h_3 => cases h
  case h_4 hb =>
    cases h
    obtain ⟨x', hturn, ht⟩ := check_turn hx hb
    exact .source hx hturn ht
  case h_5 wake hb =>
    split at h
    · cases h
      have hloop : x.thread.isLooping = true := by rw [hb]; rfl
      have hturn : x.Turn { x with thread := .checking } :=
        .loops hloop (.inl rfl) (by simp) (.inl rfl) rfl rfl
      exact .source hx hturn rfl
    · cases h
  case h_6 buffer hb =>
    cases h
    obtain ⟨x', hturn, ht⟩ := emit_turn hb
    exact .source hx hturn ht
  case h_7 f hb =>
    cases h
    obtain ⟨x', ht, hthread, hstate, hconsumer, hstats⟩ := blocks_countDelivered x f.buffer.size
    exact .source hx (.counts hb hthread hstate hconsumer hstats) ht
  case h_8 f k rest hb =>
    cases h
    exact deliver_effect hx hb

/-! ### Moves of workers -/

lemma process_effect {m : Move} {f : Frame} (hm : m = .worker i ∨ m = .letThrough i)
    (hy : s.block? i = some (.sink y)) (hworker : y.engine.worker = .processing f) :
    s.Effect m (s.process i y f) :=
  .finishes hm hy hworker (by simp [process])

lemma moveWorker_effect (h : s.moveWorker i = some t) : s.Effect (.worker i) t := by
  unfold moveWorker at h
  split at h
  · cases h
  rename_i y hy
  rw [sink?_eq_some] at hy
  split at h
  case h_1 | h_2 | h_3 => cases h
  case h_4 hworker =>
    cases h
    exact .seeks hy hworker rfl
  case h_5 f hworker =>
    cases h
    exact .begins hy hworker (blocks_elim_release ..)
  case h_6 f hworker =>
    split at h
    · cases h
      exact process_effect (.inl rfl) hy hworker
    · cases h

lemma moveThrough_effect (h : s.moveThrough i = some t) : s.Effect (.letThrough i) t := by
  unfold moveThrough at h
  split at h
  · cases h
  rename_i y hy
  rw [sink?_eq_some] at hy
  split at h
  · cases h
    exact process_effect (.inr rfl) hy (by assumption)
  · cases h

/-! ### Moves of producers -/

lemma look_effect {m : Move} {o : Offer} {e : SinkEngine} (hy : s.block? i = some (.sink y))
    (hpick : y.engine.Picks i m o e) : s.Effect m (s.look i { y with engine := e } o) := by
  unfold look
  dsimp only
  cases hadmission : (e.consider o).1 with
  | accepted evicted =>
    dsimp only
    refine .answers (.ok ()) hy hpick (by simp [hadmission]) ?_
    exact blocks_answer_of_eq (blocks_mapStorage _) _ _
  | refused e' =>
    dsimp only
    refine .answers (.error e') hy hpick (by simp [hadmission]) ?_
    exact blocks_answer_of_eq (blocks_release _) _ _
  | waits => exact .waits hy hpick hadmission rfl

lemma moveArrival_effect {k : Nat} (h : s.moveArrival i k = some t) :
    s.Effect (.arrive i k) t := by
  unfold moveArrival at h
  split at h
  · cases h
  rename_i y hy
  split at h
  · cases h
  rename_i o ho
  cases h
  exact look_effect (sink?_eq_some.1 hy) (.arrives k ho)

lemma moveRetry_effect {k : Nat} (h : s.moveRetry i k = some t) : s.Effect (.retry i k) t := by
  unfold moveRetry at h
  split at h
  · cases h
  rename_i y hy
  split at h
  · cases h
  rename_i o ho
  cases h
  exact look_effect (sink?_eq_some.1 hy) (.returns k ho)

/-! ### All moves -/

theorem perform_effect {m : Move} (h : s.perform m = some t) : s.Effect m t := by
  cases m with
  | tick span =>
    cases h
    exact .tick span rfl
  | deny reason =>
    cases h
    exact .deny reason rfl
  | source i => exact moveSource_effect h
  | worker i => exact moveWorker_effect h
  | letThrough i => exact moveThrough_effect h
  | arrive i k => exact moveArrival_effect h
  | retry i k => exact moveRetry_effect h

end Network

end FrameGraph
