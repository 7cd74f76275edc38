import FrameGraph.Proofs.Network.Drift

/-!
# What a block retains

Threads, producers and callers from outside do not change who listens to the failures of a block,
and give no consumer to a source that has none. As long as a sink is asked to stop, nobody comes to
wait for room in its queue, and its gauge stays where it is.
-/

namespace FrameGraph

/-- What a source retains, whatever happens to it. -/
structure SourceBlock.Retains {γ : Type} (x x' : SourceBlock γ) : Prop where
  listener : x'.core.listener = x.core.listener
  stop : x'.stop = x.stop
  consumer : x.engine.consumer = none → x'.engine.consumer = none

/-- What a sink retains, whatever happens to it. -/
structure SinkEngine.Retains (e e' : SinkEngine) : Prop where
  listener : e'.core.listener = e.core.listener
  stopping : e'.stopping = e.stopping
  waiting : e.stopping = true → e.waiting = [] → e'.waiting = []
  gauge : e.stopping = true → e'.core.stats.queueDepth = e.core.stats.queueDepth

/-- What a block retains, whatever happens to it. -/
inductive Block.Retains {γ π : Type} : Block γ π → Block γ π → Prop
  | source {x x'} (h : SourceBlock.Retains x x') : Retains (.source x) (.source x')
  | sink {y y'} (h : SinkEngine.Retains y.engine y'.engine) : Retains (.sink y) (.sink y')
  | stage {z z'} (h : z'.core.listener = z.core.listener) : Retains (.stage z) (.stage z')

/-! ### Sinks -/

namespace SinkEngine

variable {e e' e'' : SinkEngine} {o : Offer} {f : Frame}

lemma Retains.refl (e : SinkEngine) : e.Retains e := ⟨rfl, rfl, fun _ => id, fun _ => rfl⟩

lemma Retains.trans (h : e.Retains e') (h' : e'.Retains e'') : e.Retains e'' where
  listener := h'.listener.trans h.listener
  stopping := h'.stopping.trans h.stopping
  waiting hstop hwaiting := h'.waiting (h.stopping.trans hstop) (h.waiting hstop hwaiting)
  gauge hstop := (h'.gauge (h.stopping.trans hstop)).trans (h.gauge hstop)

/-- A sink that is not asked to stop may change its queue. -/
lemma Retains.of_running (h : e.stopping = false) (hlistener : e'.core.listener = e.core.listener)
    (hstopping : e'.stopping = e.stopping) : e.Retains e' :=
  ⟨hlistener, hstopping, by simp [h], by simp [h]⟩

lemma retains_consider : e.Retains (e.consider o).2 := by
  by_cases hstop : e.stopping = true
  · rw [consider_of_stopping hstop]
    exact .refl e
  rw [Bool.not_eq_true] at hstop
  by_cases hroom : e.queue.length < e.maxDepth
  · rw [consider_of_room hstop hroom]
    exact .of_running hstop (by simp [push, BlockCore.setQueueDepth]) (by simp [push])
  cases hpolicy : e.policy with
  | block =>
    rw [consider_of_block hstop hroom hpolicy]
    exact .of_running hstop rfl rfl
  | dropOldest =>
    rw [consider_of_dropOldest hstop hroom hpolicy]
    exact .of_running hstop (by simp [push, BlockCore.setQueueDepth, BlockCore.recordDrops])
      (by simp [push])

lemma Picks.retains {i : Nat} {m : Move} (h : e.Picks i m o e') : e.Retains e' := by
  cases h <;> exact ⟨rfl, rfl, fun _ => id, fun _ => rfl⟩

lemma retains_seek : e.Retains e.seek := by
  by_cases hstop : e.stopping = true
  · rw [seek_of_stopping hstop]
    exact ⟨rfl, rfl, fun _ => id, fun _ => rfl⟩
  rw [Bool.not_eq_true] at hstop
  cases hqueue : e.queue with
  | nil =>
    rw [seek_of_empty hstop hqueue]
    exact .of_running hstop rfl rfl
  | cons f rest =>
    rw [seek_of_cons hstop hqueue]
    exact .of_running hstop (by simp [BlockCore.setQueueDepth]) (by simp)

lemma retains_begin : e.Retains (e.begin f).2 := by
  unfold begin
  split <;> exact ⟨rfl, rfl, fun _ => id, fun _ => rfl⟩

lemma queueDepth_recordProcessed (c : BlockCore) (bytes nanos : Nat) :
    (c.recordProcessed bytes nanos).2.stats.queueDepth = c.stats.queueDepth := by
  simp only [BlockCore.recordProcessed, Statistics.recordProcessed]
  split <;> rfl

lemma retains_finish (outcome : Result Unit) (now : Nat) :
    e.Retains (e.finish f outcome now).2 := by
  match outcome with
  | .ok () =>
    have hgauge := queueDepth_recordProcessed e.core f.buffer.size (latency f now)
    simp only [finish]
    split
    all_goals
      rename_i core hcore
      obtain rfl := congrArg Prod.snd hcore
      exact ⟨rfl, rfl, fun _ => id, fun _ => hgauge⟩
  | .error (.error _) => exact ⟨rfl, rfl, fun _ => id, fun _ => rfl⟩
  | .error (.panic _) => exact ⟨rfl, rfl, fun _ => id, fun _ => rfl⟩

lemma retains_setMaxDepth (depth : Nat) : e.Retains (e.setMaxDepth depth).2 := by
  unfold setMaxDepth
  split
  · exact ⟨rfl, rfl, fun _ _ => rfl, fun _ => rfl⟩
  · exact .refl e

end SinkEngine

/-! ### Sources -/

namespace SourceBlock

variable {γ : Type} {x x' x'' : SourceBlock γ}

lemma Retains.refl (x : SourceBlock γ) : x.Retains x := ⟨rfl, rfl, id⟩

lemma Retains.trans (h : x.Retains x') (h' : x'.Retains x'') : x.Retains x'' :=
  ⟨h'.listener.trans h.listener, h'.stop.trans h.stop, h'.consumer ∘ h.consumer⟩

end SourceBlock

/-! ### Blocks -/

namespace Block

variable {γ π : Type} {b b' b'' : Block γ π}

lemma Retains.refl (b : Block γ π) : b.Retains b := by
  cases b with
  | source x => exact .source (.refl x)
  | sink y => exact .sink (.refl y.engine)
  | stage z => exact .stage rfl

lemma Retains.trans (h : b.Retains b') (h' : b'.Retains b'') : b.Retains b'' := by
  cases h with
  | source h =>
    cases h' with
    | source h' => exact .source (h.trans h')
  | sink h =>
    cases h' with
    | sink h' => exact .sink (h.trans h')
  | stage h =>
    cases h' with
    | stage h' => exact .stage (h'.trans h)

end Block

namespace Network

variable {ω γ π : Type} {s t u : Network ω γ π} {i : Nat} {b b' : Block γ π} {x : SourceBlock γ}

/-- What the blocks of a network retain, whatever happens to them. -/
def Retains (s t : Network ω γ π) : Prop := s.Each (fun _ => Block.Retains) t

lemma Retains.refl (s : Network ω γ π) : s.Retains s := Each.refl (fun _ => .refl) s

lemma Retains.trans (h : s.Retains t) (h' : t.Retains u) : s.Retains u :=
  Each.trans h h' fun _ _ _ _ => .trans

lemma retains_of_blocks_eq (h : t.blocks = s.blocks) : s.Retains t :=
  each_of_blocks_eq h fun _ => .refl

lemma retains_of_set (hb : s.block? i = some b) (ht : t.blocks = s.blocks.set i b')
    (h : b.Retains b') : s.Retains t :=
  each_of_set ht hb h fun _ => .refl

lemma retains_fail (s : Network ω γ π) (i : Nat) (message : String) :
    s.Retains (s.fail i message) := by
  cases hb : s.block? i with
  | none =>
    rw [fail, hb]
    exact .refl s
  | some b =>
    refine retains_of_set hb (blocks_fail hb message) ?_
    cases b with
    | source x => exact .source ⟨rfl, rfl, id⟩
    | sink y => exact .sink ⟨rfl, rfl, fun _ => id, fun _ => rfl⟩
    | stage z => exact .stage rfl

lemma retains_sink {y : SinkBlock π} {e : SinkEngine} {processor : π}
    (hy : s.block? i = some (.sink y))
    (ht : t.blocks = s.blocks.set i (.sink { y with engine := e, processor }))
    (h : y.engine.Retains e) : s.Retains t :=
  retains_of_set hy ht (.sink h)

/-! ### Turns of sources -/

section Turns

variable {x' : SourceBlock γ} (hx : s.block? i = some (.source x))

include hx

lemma retains_setSource (ht : t.blocks = s.blocks) (h : x.Retains x') :
    s.Retains (t.setSource i x') :=
  retains_of_set hx (by rw [blocks_setSource, ht]) (.source h)

lemma retains_takeGenerated (ht : t.blocks = s.blocks) (g : γ)
    (outcome : Result (Option FrameBuffer)) :
    s.Retains (t.takeGenerated i { x with generator := g } outcome) := by
  have hfails (x' : SourceBlock γ) (message : String) (h : x.Retains x') :
      s.Retains ((t.setSource i x').fail i message) :=
    (retains_setSource hx ht h).trans (retains_fail _ _ _)
  match outcome with
  | .ok (some buffer) => exact retains_setSource hx ht ⟨rfl, rfl, id⟩
  | .ok none => exact retains_setSource hx ht ⟨rfl, rfl, id⟩
  | .error (.panic p) => exact hfails _ _ ⟨rfl, rfl, id⟩
  | .error (.error e) =>
    simp only [takeGenerated]
    split
    · exact hfails _ _ ⟨rfl, rfl, id⟩
    · exact retains_setSource hx ht ⟨rfl, rfl, id⟩

lemma retains_check [Generator γ] : s.Retains (s.check i x) := by
  unfold check
  split
  · exact retains_setSource hx rfl ⟨rfl, rfl, id⟩
  split
  · exact retains_setSource hx rfl ⟨rfl, rfl, id⟩
  split
  · exact retains_setSource hx rfl ⟨rfl, rfl, id⟩
  · exact retains_takeGenerated hx (blocks_mapStorage _) _ _

lemma retains_countDelivered (ht : t.blocks = s.blocks) (h : x.Retains x') (bytes : Nat) :
    s.Retains (t.countDelivered i x' bytes) := by
  unfold countDelivered
  split
  all_goals
    rename_i engine hengine
    obtain rfl : (x'.engine.delivered bytes).2 = engine := congrArg Prod.snd hengine
    exact retains_setSource hx ht (h.trans ⟨rfl, rfl, id⟩)

/-- A source that has a consumer may get another one. -/
lemma retains_emitTo {engine : SourceEngine} (hcore : engine.core = x.core)
    (hconsumer : x.engine.consumer ≠ none) (c : Consumer) (buffer : FrameBuffer) :
    s.Retains (s.emitTo i { x with engine } c buffer) := by
  have hengine (e : SourceEngine) (thread : SourceThread)
      (hlistener : e.core.listener = engine.core.listener) :
      x.Retains { x with engine := e, thread } :=
    ⟨hlistener.trans (congrArg BlockCore.listener hcore), rfl, fun h => absurd h hconsumer⟩
  match c with
  | .fanOut [] => exact retains_setSource hx rfl (hengine _ _ rfl)
  | .fanOut (k :: rest) => exact retains_setSource hx rfl (hengine _ _ rfl)
  | .tap tap =>
    simp only [emitTo]
    generalize hg : Network.tapFrame _ tap _ = noted
    have hnoted : noted.2.blocks = s.blocks := by rw [← hg, blocks_tapFrame]
    split
    · exact retains_countDelivered hx hnoted
        (hengine { engine with consumer := some (.tap noted.1.2) } x.thread rfl) _
    · refine Retains.trans ?_ (retains_of_blocks_eq (blocks_hear _))
      exact retains_setSource hx hnoted (hengine _ _ rfl)

lemma retains_emit (buffer : FrameBuffer) : s.Retains (s.emit i x buffer) := by
  unfold emit
  cases hc : x.engine.consumer with
  | none =>
    rw [SourceEngine.begin_of_unheard hc]
    exact retains_setSource hx rfl ⟨rfl, rfl, id⟩
  | some c =>
    by_cases hadmits : x.engine.admits s.clock = true
    · rw [SourceEngine.begin_of_admits hc hadmits]
      have hcore : SourceEngine.core { x.engine with
          sequence := x.engine.sequence + 1, lastEmit := some s.clock } = x.core := rfl
      exact retains_emitTo hx hcore (by simp [hc]) c _
    · rw [SourceEngine.begin_of_early hc hadmits]
      exact retains_setSource hx rfl ⟨rfl, rfl, id⟩

lemma retains_deliver (f : Frame) (k : Nat) (rest : List Nat) :
    s.Retains (s.deliver i x f k rest) := by
  have hthread (thread : SourceThread) : x.Retains { x with thread } := ⟨rfl, rfl, id⟩
  unfold deliver
  dsimp only
  generalize hr : (if rest.isEmpty = true then s else s.mapStorage (·.retain f)) = r
  have hblocks : r.blocks = s.blocks := by
    rw [← hr]
    split <;> rfl
  split
  · exact retains_setSource hx hblocks (hthread _)
  rename_i y hy
  split
  · exact retains_setSource hx hblocks (hthread _)
  · rw [sink?_eq_some, block?_of_blocks_eq hblocks] at hy
    have happroach : s.Retains (r.setSink k { y with
        engine := y.engine.approach ⟨.source i, f⟩ }) := by
      apply retains_sink hy
      · rw [blocks_setSink, hblocks]
      · exact ⟨rfl, rfl, fun _ => id, fun _ => rfl⟩
    refine happroach.trans (retains_setSource ?_ rfl (hthread _))
    rw [block?_of_set_ne (blocks_setSink _) (ne_of_source_of_sink hx hy).symm,
      block?_of_blocks_eq hblocks, hx]

lemma retains_moveSource [Generator γ] (h : s.moveSource i = some t) : s.Retains t := by
  simp only [moveSource, source?_eq_some.2 hx] at h
  split at h
  case h_1 | h_2 | h_3 => cases h
  case h_4 =>
    cases h
    exact retains_check hx
  case h_5 =>
    split at h
    · cases h
      exact retains_setSource hx rfl ⟨rfl, rfl, id⟩
    · cases h
  case h_6 =>
    cases h
    exact retains_emit hx _
  case h_7 =>
    cases h
    exact retains_countDelivered hx rfl (.refl x) _
  case h_8 f k rest hthread =>
    cases h
    exact retains_deliver hx f k rest

end Turns

/-! ### Whatever happens -/

lemma retains_answer (s : Network ω γ π) (p : Producer) (r : Except Error Unit) :
    s.Retains (s.answer p r) := by
  unfold answer
  split
  · exact retains_of_blocks_eq rfl
  split
  · rename_i x hx
    split
    · exact retains_setSource (source?_eq_some.1 hx) rfl ⟨rfl, rfl, id⟩
    · exact .refl s
  · exact .refl s

variable [Generator γ] [Processor ω π]

theorem Effect.retains {m : Move} (h : s.Effect m t) (hm : s.perform m = some t) :
    s.Retains t := by
  cases h with
  | tick _ ht => exact retains_of_blocks_eq ht
  | deny _ ht => exact retains_of_blocks_eq ht
  | source hx => exact retains_moveSource hx hm
  | skips hx => exact retains_moveSource hx hm
  | hands hx => exact retains_moveSource hx hm
  | seeks hy _ ht => exact retains_sink hy ht SinkEngine.retains_seek
  | begins hy _ ht => exact retains_sink hy ht SinkEngine.retains_begin
  | finishes _ hy _ ht => exact retains_sink hy ht (SinkEngine.retains_finish _ _)
  | waits hy hpick _ ht =>
    exact retains_sink hy ht (hpick.retains.trans SinkEngine.retains_consider)
  | answers r hy hpick _ ht =>
    refine Retains.trans ?_ ((retains_answer _ _ r).trans (retains_of_blocks_eq ht))
    exact retains_sink hy rfl (hpick.retains.trans SinkEngine.retains_consider)

omit [Generator γ] [Processor ω π] in
lemma Intervention.retains (h : s.Intervention t) : s.Retains t := by
  cases h with
  | offer i buffer =>
    unfold Network.offer
    split
    · exact retains_of_blocks_eq rfl
    · rename_i y hy
      dsimp only
      split
      · exact retains_of_blocks_eq rfl
      · exact retains_sink (sink?_eq_some.1 hy) rfl ⟨rfl, rfl, fun _ => id, fun _ => rfl⟩
  | offerFrame i f =>
    unfold Network.offerFrame
    split
    · exact .refl s
    · rename_i y hy
      split
      · exact .refl s
      · exact retains_sink (sink?_eq_some.1 hy) rfl ⟨rfl, rfl, fun _ => id, fun _ => rfl⟩
  | setMaxDepth i depth =>
    unfold Network.setMaxDepth
    split
    · exact .refl s
    · rename_i y hy
      exact retains_sink (sink?_eq_some.1 hy) rfl (SinkEngine.retains_setMaxDepth depth)
  | setPolicy i policy =>
    unfold Network.setPolicy
    split
    · exact .refl s
    · rename_i y hy
      exact retains_sink (sink?_eq_some.1 hy) rfl ⟨rfl, rfl, fun _ _ => rfl, fun _ => rfl⟩
  | fail i message => exact retains_fail s i message

/-- Whatever happens to a network, its blocks retain this. -/
theorem Happens.retains (h : s.Happens t) : s.Retains t := by
  rcases h with ⟨m, hm⟩ | h
  · exact (perform_effect hm).retains hm
  · exact h.retains

end Network

end FrameGraph
