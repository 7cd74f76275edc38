import FrameGraph.Proofs.Network.Control

/-!
# Starting and stopping blocks

Whatever happens to a block meanwhile: after a start it is up, or it is as if it had not been
started, and after a stop or a shutdown it has no thread and counts as active no more.
-/

namespace FrameGraph

namespace Block

variable {γ π : Type} {b b' : Block γ π}

lemma mapCore_congr {f g : BlockCore → BlockCore} (h : f b.core = g b.core) :
    b.mapCore f = b.mapCore g := by
  cases b <;> simp_all [mapCore, core, SourceBlock.mapCore, SinkBlock.mapCore]

lemma mapCore_self {f : BlockCore → BlockCore} (h : f b.core = b.core) : b.mapCore f = b := by
  cases b <;> simp_all [mapCore, core, SourceBlock.mapCore, SinkBlock.mapCore]

@[simp] lemma state_enter (state : BlockState) : (b.enter state).state = state := by
  cases b <;> rfl

@[simp] lemma hasThread_enter (state : BlockState) : (b.enter state).hasThread = b.hasThread := by
  cases b <;> rfl

/-- A block that was to start and did not stay in that state has failed. -/
lemma state_of_ne {state : BlockState} (h : b.state ∈ [state, .error]) (hne : b.state ≠ state) :
    b.state = .error := by
  simpa [hne] using h

/-- The thread has come to its end, or there is none. -/
def ThreadEnded : Block γ π → Prop
  | .source x => x.thread = .absent ∨ x.thread = .ended
  | .sink y => y.engine.worker = .absent ∨ y.engine.worker = .ended
  | .stage _ => True

/-- The block without the thread that has ended. -/
def forgetThread : Block γ π → Block γ π
  | .source x => .source { x with thread := .absent }
  | .sink y => .sink { y with engine := { y.engine with worker := .absent } }
  | .stage z => .stage z

def mapSource (g : SourceBlock γ → SourceBlock γ) : Block γ π → Block γ π
  | .source x => .source (g x)
  | .sink y => .sink y
  | .stage z => .stage z

lemma stable_threadEnded : Stable (ThreadEnded (γ := γ) (π := π)) := by
  intro b b' h hb
  cases h with
  | source h => exact hb.imp h.absent h.ended
  | sink h => exact hb.imp h.absent.2 h.ended
  | stage h => trivial

/-- A block that can be started has no thread. -/
def Ready (b : Block γ π) : Prop := b.state ∈ [.initialized, .stopped] → b.hasThread = false

lemma stable_ready : Stable (Ready (γ := γ) (π := π)) := by
  intro b b' h hb hstate
  rcases h.state with heq | heq
  · exact h.hasThread (hb (heq ▸ hstate))
  · simp [heq] at hstate

lemma Up.ready (h : b.Up) : b.Ready := by
  intro hstate
  have hup := h.state
  cases hb : b.state <;> simp_all

lemma Idle.ready (h : b.Idle) : b.Ready := fun _ => h.thread

end Block

/-! ### Phases of a sink -/

namespace SinkEngine

variable {S : BlockState → Prop} {e : SinkEngine}

/-- A sink without a worker. -/
structure Unmanned (S : BlockState → Prop) (e : SinkEngine) : Prop where
  state : S e.core.state
  worker : e.worker = .absent

/-- A sink with a worker that is not asked to end. -/
structure Open (S : BlockState → Prop) (e : SinkEngine) : Prop where
  state : S e.core.state
  stopping : e.stopping = false
  worker : e.worker ≠ .absent

/-- A sink that is ready for its worker. -/
structure Armed (S : BlockState → Prop) (e : SinkEngine) : Prop extends Unmanned S e where
  stopping : e.stopping = false

/-- A sink whose worker is to end. -/
structure Halting (S : BlockState → Prop) (e : SinkEngine) : Prop where
  state : S e.core.state
  stopping : e.stopping = true

/-- A sink whose worker has ended. -/
structure Deserted (S : BlockState → Prop) (e : SinkEngine) : Prop extends Halting S e where
  worker : e.worker = .absent

/-- A sink whose worker has ended and whose queue was emptied. -/
structure Halted (S : BlockState → Prop) (e : SinkEngine) : Prop extends Deserted S e where
  queue : e.queue = []

lemma stable_state (hS : S .error) : Stable fun e => S e.core.state := fun _ _ h he => h.keeps hS he

lemma stable_unmanned (hS : S .error) : Stable (Unmanned S) :=
  fun _ _ h he => ⟨h.keeps hS he.state, h.absent.2 he.worker⟩

lemma stable_open (hS : S .error) : Stable (Open S) :=
  fun _ _ h he => ⟨h.keeps hS he.state, h.stopping.trans he.stopping, mt h.absent.1 he.worker⟩

lemma stable_armed (hS : S .error) : Stable (Armed S) :=
  fun _ _ h he => ⟨stable_unmanned hS _ _ h he.toUnmanned, h.stopping.trans he.stopping⟩

lemma stable_halting (hS : S .error) : Stable (Halting S) :=
  fun _ _ h he => ⟨h.keeps hS he.state, h.stopping.trans he.stopping⟩

lemma stable_deserted (hS : S .error) : Stable (Deserted S) :=
  fun _ _ h he => ⟨stable_halting hS _ _ h he.toHalting, h.absent.2 he.worker⟩

lemma stable_halted (hS : S .error) : Stable (Halted S) :=
  fun _ _ h he => ⟨stable_deserted hS _ _ h he.toDeserted, h.drained he.stopping he.queue⟩

variable {γ π : Type} {y : SinkBlock π} {state : BlockState}

/-- A sink without a worker that has failed is idle. -/
lemma Unmanned.idle (h : y.engine.Unmanned S) (hstate : y.engine.core.state = .error) :
    (Block.sink y : Block γ π).Idle :=
  ⟨by simp [Block.hasThread, h.worker], by simp [Block.state, Block.core, hstate]⟩

/-- A sink without a worker is idle in a state from which it can be started. -/
lemma Unmanned.idle_enter (h : y.engine.Unmanned S) (hstate : state ∈ [.initialized, .stopped]) :
    ((Block.sink y : Block γ π).enter state).Idle := by
  refine ⟨(Block.hasThread_enter state).trans (by simp [Block.hasThread, h.worker]), ?_⟩
  rw [Block.state_enter]
  intro hactive
  cases state <;> simp at hstate hactive

end SinkEngine

/-! ### Phases of a source -/

namespace SourceBlock

variable {γ π : Type} {S : BlockState → Prop} {x : SourceBlock γ} {state : BlockState}

/-- A source without a thread. -/
structure Unmanned (S : BlockState → Prop) (x : SourceBlock γ) : Prop where
  state : S x.core.state
  thread : x.thread = .absent

lemma stable_state (hS : S .error) : Stable fun x : SourceBlock γ => S x.core.state :=
  fun _ _ h hx => h.keeps hS hx

lemma stable_unmanned (hS : S .error) : Stable (Unmanned (γ := γ) S) :=
  fun _ _ h hx => ⟨h.keeps hS hx.state, h.absent hx.thread⟩

/-- A source without a thread that has failed is idle. -/
lemma Unmanned.idle (h : x.Unmanned S) (hstate : x.core.state = .error) :
    (Block.source x : Block γ π).Idle :=
  ⟨by simp [Block.hasThread, h.thread], by
    rw [show (Block.source x : Block γ π).state = .error from hstate]
    simp⟩

/-- A source without a thread is idle in a state from which it can be started. -/
lemma Unmanned.idle_enter (h : x.Unmanned S) (hstate : state ∈ [.initialized, .stopped]) :
    ((Block.source x : Block γ π).enter state).Idle := by
  refine ⟨(Block.hasThread_enter state).trans (by simp [Block.hasThread, h.thread]), ?_⟩
  rw [Block.state_enter]
  intro hactive
  cases state <;> simp at hstate hactive

end SourceBlock

lemma BlockCore.settleStopped_eq (c : BlockCore) : c.settleStopped =
    if c.state ∈ [.starting, .running, .stopping] then { c with state := .stopped } else c := by
  rcases c with ⟨_, _, state, _, _, _, _⟩
  cases state <;> rfl

namespace Network

variable {ω γ π : Type} {s t : Network ω γ π} {i : Nat} {b : Block γ π}
  {P P' E : Block γ π → Prop} {G : Block γ π → Block γ π → Prop} {source target : BlockState}

/-! ### Single steps -/

/-- A step of a call replaces its block; what is known of it then stays known. -/
lemma control_step {b' : Block γ π} (hP : Block.Stable P) (hb : s.block? i = some b)
    (hset : t.blocks = s.blocks.set i b') (hcontrol : b' = b ∨ G b b') (hPb : P b') :
    StepAt G i s t ∧ ∀ u, DriftAt i t u → At i P u := by
  refine ⟨stepAt_of_set hb hcontrol hset, ?_⟩
  intro u hu
  have hat : At i P t := ⟨b', block?_of_set_self hset hb, hPb⟩
  exact hat.later hP hu

lemma meets_modifyAt (hP : Block.Stable P) (hP' : Block.Stable P') (hs : At i P s)
    {f : Network ω γ π → Network ω γ π} (g : Block γ π → Block γ π)
    (hf : ∀ t b, t.block? i = some b → P b → (f t).blocks = t.blocks.set i (g b))
    (hg : ∀ b, P b → (g b = b ∨ G b (g b)) ∧ P' (g b)) :
    (Routine.modify f).Meets (DriftAt i) (StepAt G i) (fun _ => At i P') s := by
  intro t ht
  obtain ⟨b, hb, hPb⟩ := hs.later hP ht
  obtain ⟨hcontrol, hPb'⟩ := hg b hPb
  exact control_step hP' hb (hf t b hb hPb) hcontrol hPb'

lemma settle_meets (hP : Block.Stable P) (hP' : Block.Stable P') (hs : At i P s)
    (hgo : ∀ b, P b → b.state = source → G b (b.enter target) ∧ P' (b.enter target))
    (hstay : ∀ b, P b → b.state ≠ source → P' b) :
    (settle i source target).Meets (DriftAt i) (StepAt G i) (fun _ => At i P') s := by
  apply meets_modifyAt hP hP' hs _ (fun t b hb _ => blocks_mapCore hb _)
  intro b hb
  by_cases hstate : b.state = source
  · obtain ⟨hcontrol, hPb'⟩ := hgo b hb hstate
    have h : b.mapCore (fun c => c.settle source target) = b.enter target :=
      Block.mapCore_congr (if_pos hstate)
    rw [h]
    exact ⟨.inr hcontrol, hPb'⟩
  · have h : b.mapCore (fun c => c.settle source target) = b :=
      Block.mapCore_self (if_neg hstate)
    rw [h]
    exact ⟨.inl rfl, hstay b hb hstate⟩

lemma settleStopped_meets (hP : Block.Stable P) (hs : At i P s)
    (hgo : ∀ b, P b → G b (b.enter .stopped) ∧ (b.enter .stopped).Idle)
    (hstay : ∀ b, P b → b.hasThread = false) :
    (settleStopped i).Meets (DriftAt i) (StepAt G i) (fun _ => At i Block.Idle) s := by
  refine meets_modifyAt hP Block.stable_idle hs _ (fun t b hb _ => blocks_mapCore hb _)
    ?_
  intro b hb
  by_cases hstate : b.state ∈ [.starting, .running, .stopping]
  · obtain ⟨hcontrol, hidle⟩ := hgo b hb
    have h : b.mapCore BlockCore.settleStopped = b.enter .stopped :=
      Block.mapCore_congr ((BlockCore.settleStopped_eq _).trans (if_pos hstate))
    rw [h]
    exact ⟨.inr hcontrol, hidle⟩
  · have h : b.mapCore BlockCore.settleStopped = b :=
      Block.mapCore_self ((BlockCore.settleStopped_eq _).trans (if_neg hstate))
    rw [h]
    exact ⟨.inl rfl, hstay b hb, hstate⟩

lemma transition_meets {operation : String} {sources : List BlockState} (hP : Block.Stable P)
    (hP' : Block.Stable P') (hE : Block.Stable E) (hs : At i P s)
    (hgo : ∀ b, P b → b.state ∈ sources →
      G b (b.enter target) ∧ P' (b.enter target))
    (hstay : ∀ b, P b → E b) :
    (transition i operation sources target).Meets (DriftAt i) (StepAt G i)
      (fun r t => match r with
        | .ok source => source ∈ sources ∧ At i P' t
        | .error _ => At i E t) s := by
  intro t ht
  obtain ⟨b, hb, hPb⟩ := hs.later hP ht
  simp only [hb]
  by_cases hstate : b.core.state ∈ sources
  · obtain ⟨hcontrol, hPb'⟩ := hgo b hPb hstate
    have hset : (t.setBlock i (b.mapCore fun _ =>
        (b.core.transition operation sources target).2)).blocks = t.blocks.set i (b.enter target) :=
      congrArg _ (Block.mapCore_congr (by simp [BlockCore.transition, hstate]))
    rw [show (b.core.transition operation sources target).1 = .ok b.core.state by
      simp [BlockCore.transition, hstate]]
    obtain ⟨hstep, hlater⟩ := control_step hP' hb hset (.inr hcontrol) hPb'
    exact ⟨hstep, fun u hu => ⟨hstate, hlater u hu⟩⟩
  · have hset : (t.setBlock i (b.mapCore fun _ =>
        (b.core.transition operation sources target).2)).blocks = t.blocks.set i b :=
      congrArg _ (Block.mapCore_self (by simp [BlockCore.transition, hstate]))
    rw [show (b.core.transition operation sources target).1 = .error _ by
      simp [BlockCore.transition, hstate]; rfl]
    exact control_step hE hb hset (.inl rfl) (hstay b hPb)

/-! ### Waiting for a thread -/

lemma threadEnded_iff (hb : s.block? i = some b) : threadEnded i s = true ↔ b.ThreadEnded := by
  cases b <;> simp [threadEnded, hb, Block.ThreadEnded]

lemma blocks_forgetThread (hb : s.block? i = some b) :
    (forgetThread i s).blocks = s.blocks.set i b.forgetThread := by
  cases b with
  | source x => simp [forgetThread, hb, Block.forgetThread]
  | sink y => simp [forgetThread, hb, Block.forgetThread]
  | stage z =>
    simp only [forgetThread, hb, Block.forgetThread]
    rw [← blocks_setBlock, setBlock_self hb]

lemma join_meets (hP : Block.Stable P) (hP' : Block.Stable P') (hs : At i P s)
    (h : ∀ b, P b → b.ThreadEnded → G b b.forgetThread ∧ P' b.forgetThread) :
    (join i).Meets (DriftAt i) (StepAt G i) (fun _ => At i P') s := by
  intro t ht hready
  obtain ⟨b, hb, hPb⟩ := hs.later hP ht
  have hat : At i (fun b => P b ∧ b.ThreadEnded) t := ⟨b, hb, hPb, (threadEnded_iff hb).1 hready⟩
  refine meets_modifyAt (hP.and Block.stable_threadEnded) hP' hat Block.forgetThread
    (fun t b hb _ => blocks_forgetThread hb) ?_
  intro b hb
  obtain ⟨hcontrol, hPb'⟩ := h b hb.1 hb.2
  exact ⟨.inr hcontrol, hPb'⟩

/-! ### Sinks -/

section Sinks

variable {S : BlockState → Prop} {F F' : SinkEngine → Prop} {y : SinkBlock π}

lemma meets_sinkStep (hF : SinkEngine.Stable F) (hF' : SinkEngine.Stable F')
    (hs : At i (Block.IsSink F) s) {f : Network ω γ π → Network ω γ π} (g : SinkEngine → SinkEngine)
    (hf : ∀ t y, t.block? i = some (.sink y) →
      (f t).blocks = t.blocks.set i (.sink { y with engine := g y.engine }))
    (hg : ∀ y : SinkBlock π, F y.engine →
      G (.sink y) (.sink { y with engine := g y.engine }) ∧ F' (g y.engine)) :
    (Routine.modify f).Meets (DriftAt i) (StepAt G i) (fun _ => At i (Block.IsSink F')) s := by
  intro t ht
  obtain ⟨b, hb, hFb⟩ := hs.later (Block.stable_isSink hF) ht
  obtain ⟨y, rfl, hFy⟩ := Block.isSink_iff.1 hFb
  obtain ⟨hcontrol, hFy'⟩ := hg y hFy
  exact control_step (Block.stable_isSink hF') hb (hf t y hb) (.inr hcontrol) hFy'

lemma blocks_mapEngine (hy : s.block? i = some (.sink y)) (g : SinkEngine → SinkEngine) :
    (s.mapEngine i g).blocks = s.blocks.set i (.sink { y with engine := g y.engine }) := by
  simp [mapEngine, sink?_eq_some.2 hy]

lemma blocks_discard (hy : s.block? i = some (.sink y)) :
    (discard i s).blocks = s.blocks.set i (.sink { y with engine := y.engine.discard.2 }) := by
  simp [discard, sink?_eq_some.2 hy]

/-- Ending the worker of a sink leaves an empty queue. -/
lemma haltWorker_meets (hS : S .error) (hs : At i (Block.IsSink fun e => S e.core.state) s) :
    (haltWorker i).Meets (DriftAt i) (StepAt Block.Closes i)
      (fun _ => At i (Block.IsSink (SinkEngine.Halted S))) s := by
  have hhalting := SinkEngine.stable_halting hS
  have hdeserted := SinkEngine.stable_deserted hS
  -- the worker is asked to end
  refine .bind (interference_driftAt i) ?_
  refine (meets_sinkStep (SinkEngine.stable_state hS) hhalting hs SinkEngine.halt
    (fun t y hy => blocks_mapEngine hy _) fun y hy => ⟨.sink .halts, ?_⟩).weaken fun _ t ht => ?_
  · exact ⟨by simpa [SinkEngine.halt, SinkEngine.notifyProducers] using hy,
      by simp [SinkEngine.halt, SinkEngine.notifyProducers]⟩
  -- it has ended
  refine .bind (interference_driftAt i) ?_
  refine (join_meets (Block.stable_isSink hhalting) (Block.stable_isSink hdeserted) ht
    fun b hb hended => ?_).weaken fun _ u hu => ?_
  · obtain ⟨y, rfl, hy⟩ := Block.isSink_iff.1 hb
    exact ⟨.sink (.forgets hended), ⟨hy.state, hy.stopping⟩, rfl⟩
  -- what it left is dropped
  refine meets_sinkStep hdeserted (SinkEngine.stable_halted hS) hu (fun e => e.discard.2)
    (fun t y hy => blocks_discard hy) ?_
  intro y hy
  exact ⟨.sink (.discards hy.stopping hy.worker), ⟨⟨hy.state, hy.stopping⟩, hy.worker⟩, rfl⟩

/-- Started, the worker goes to its queue; refused, the sink stays without one. -/
lemma spawnSink_meets (hS : S .error) (hs : At i (Block.IsSink (SinkEngine.Armed S)) s) :
    (Routine.modifyGet (spawnSink i)).Meets (DriftAt i) (StepAt Block.Opens i)
      (fun r t => match r with
        | .ok () => At i (Block.IsSink (SinkEngine.Open S)) t
        | .error _ => At i (Block.IsSink (SinkEngine.Unmanned S)) t) s := by
  have harmed := Block.stable_isSink (γ := γ) (π := π) (SinkEngine.stable_armed hS)
  intro t ht
  obtain ⟨b, hb, hFb⟩ := hs.later harmed ht
  obtain ⟨y, rfl, hy⟩ := Block.isSink_iff.1 hFb
  cases hdenial : t.denial with
  | some reason =>
    simp only [spawnSink, hdenial]
    have hat : At i (Block.IsSink (SinkEngine.Unmanned S)) t := ⟨_, hb, hy.toUnmanned⟩
    exact ⟨.inl rfl, fun u hu => hat.later (Block.stable_isSink (SinkEngine.stable_unmanned hS)) hu⟩
  | none =>
    simp only [spawnSink, hdenial]
    have hset := blocks_mapEngine hb fun e => { e with worker := .seeking }
    exact control_step (Block.stable_isSink (SinkEngine.stable_open hS)) hb hset
      (.inr (.sink (.spawns hy.worker))) ⟨hy.state, hy.stopping, by simp⟩

/-- Started, a sink is up; refused, it is idle or as it was. -/
theorem startSink_meets (hb : s.block? i = some (.sink y))
    (hready : (Block.sink y : Block γ π).Ready) :
    (startSink i).Meets (DriftAt i) (StepAt Block.Opens i)
      (fun r t => match r with
        | .ok () => At i Block.Up t
        | .error _ => At i (fun b => b.Idle ∨ (Block.sink y).Drift b) t) s := by
  have hS : BlockState.error ∈ [.starting, .error] := by simp
  have hunmanned := SinkEngine.stable_unmanned (S := (· ∈ [.starting, .error])) hS
  have hopen := SinkEngine.stable_open (S := (· ∈ [.starting, .error])) hS
  have hfound : At i (fun b => b.Ready ∧ (Block.sink y).Drift b) s := ⟨_, hb, hready, .refl _⟩
  have hstable := Block.stable_ready.and (Block.stable_drift (Block.sink y : Block γ π))
  have hend : Block.Stable fun b : Block γ π => b.Idle ∨ (Block.sink y).Drift b :=
    fun b b' h hb => hb.imp (Block.stable_idle b b' h) (·.trans h)
  -- the state is changed, or the start refused
  refine .bind (interference_driftAt i) ?_
  refine (transition_meets hstable (Block.stable_isSink hunmanned) hend hfound
    (fun b hb hstate => ?_) fun b hb => .inr hb.2).weaken fun r t ht => ?_
  · have hthread := hb.1 hstate
    cases hb.2 with
    | sink hdrift =>
      have hworker := by simpa [Block.hasThread] using hthread
      exact ⟨.sink (.starts hstate hworker), List.mem_cons_self, hworker⟩
  cases r with
  | error e => exact fun u hu => ht.later hend hu
  | ok source =>
    obtain ⟨hsource, ht⟩ := ht
    -- the queue may be used again
    refine .bind (interference_driftAt i) ?_
    refine (meets_sinkStep hunmanned (SinkEngine.stable_armed hS) ht SinkEngine.arm
      (fun t y hy => blocks_mapEngine hy _) fun y hy =>
        ⟨.sink (.arms hy.worker), ⟨hy.state, hy.worker⟩, rfl⟩).weaken ?_
    intro _ t ht
    -- the worker is started, or not
    refine .bind (interference_driftAt i) ((spawnSink_meets hS ht).weaken ?_)
    intro r t ht
    cases r with
    | error e =>
      refine .bind (interference_driftAt i) ?_
      refine (settle_meets (Block.stable_isSink hunmanned) hend ht ?_
        ?_).weaken fun _ t ht u hu => ht.later hend hu
      · intro b hb hstate
        obtain ⟨y, rfl, hy⟩ := Block.isSink_iff.1 hb
        exact ⟨.sink (.returns hsource hstate hy.worker), .inl (hy.idle_enter hsource)⟩
      · intro b hb hstate
        obtain ⟨y, rfl, hy⟩ := Block.isSink_iff.1 hb
        exact .inl (hy.idle (Block.state_of_ne hy.state hstate))
    | ok _ =>
      refine .bind (interference_driftAt i) ?_
      refine (settle_meets (Block.stable_isSink hopen) Block.stable_up ht
        ?_ ?_).weaken
          fun _ t ht u hu => ht.later Block.stable_up hu
      · intro b hb hstate
        obtain ⟨y, rfl, hy⟩ := Block.isSink_iff.1 hb
        exact ⟨.sink (.runs hstate hy.stopping), by simp, hy.stopping, hy.worker⟩
      · intro b hb hstate
        obtain ⟨y, rfl, hy⟩ := Block.isSink_iff.1 hb
        refine ⟨?_, hy.stopping, hy.worker⟩
        rw [Block.state_of_ne hy.state hstate]
        simp

/-- Stopped, a sink is idle; refused, it is as it was. -/
theorem stopSink_meets (hb : s.block? i = some (.sink y)) :
    (stopSink i).Meets (DriftAt i) (StepAt Block.Closes i)
      (fun r t => match r with
        | .ok () => At i Block.Idle t
        | .error _ => At i (Block.sink y).Drift t) s := by
  have hS : BlockState.error ∈ [.stopping, .error] := by simp
  have hstate := Block.stable_isSink (γ := γ) (π := π)
    (SinkEngine.stable_state (S := (· ∈ [.stopping, .error])) hS)
  have hhalted := SinkEngine.stable_halted (S := (· ∈ [.stopping, .error])) hS
  have hfound : At i (Block.sink y).Drift s := ⟨_, hb, .refl _⟩
  have hstable := Block.stable_drift (Block.sink y : Block γ π)
  refine .bind (interference_driftAt i) ?_
  refine (transition_meets hstable hstate hstable hfound (fun b hb hrunning => ?_)
    fun b hb => hb).weaken fun r t ht => ?_
  · cases hb with
    | sink hdrift => exact ⟨.sink (.stops (List.mem_singleton.1 hrunning)), List.mem_cons_self⟩
  cases r with
  | error e => exact fun u hu => ht.later hstable hu
  | ok source =>
    refine .bind (interference_driftAt i) ((haltWorker_meets hS ht.2).weaken ?_)
    intro _ t ht
    refine .bind (interference_driftAt i) ?_
    refine (settle_meets (Block.stable_isSink hhalted) Block.stable_idle ht
      ?_ ?_).weaken fun _ t ht u hu => ht.later Block.stable_idle hu
    · intro b hb _
      obtain ⟨y, rfl, hy⟩ := Block.isSink_iff.1 hb
      exact ⟨.sink (.rests hy.worker hy.stopping hy.queue),
        SinkEngine.Unmanned.idle_enter ⟨hy.state, hy.worker⟩ (by simp)⟩
    · intro b hb hne
      obtain ⟨y, rfl, hy⟩ := Block.isSink_iff.1 hb
      exact SinkEngine.Unmanned.idle ⟨hy.state, hy.worker⟩ (Block.state_of_ne hy.state hne)

/-- Shut down, a sink is idle. -/
theorem shutdownSink_meets (hb : s.block? i = some (.sink y)) :
    (shutdownSink i).Meets (DriftAt i) (StepAt Block.Closes i) (fun _ => At i Block.Idle) s := by
  have hfound : At i (Block.IsSink fun _ => True) s := ⟨_, hb, trivial⟩
  have hhalted := SinkEngine.stable_halted (S := fun _ => True) trivial
  refine .bind (interference_driftAt i)
    ((haltWorker_meets (S := fun _ => True) trivial hfound).weaken ?_)
  intro _ t ht
  refine settleStopped_meets (Block.stable_isSink hhalted) ht ?_ ?_
  · intro b hb
    obtain ⟨y, rfl, hy⟩ := Block.isSink_iff.1 hb
    exact ⟨.sink (.rests hy.worker hy.stopping hy.queue),
      SinkEngine.Unmanned.idle_enter (S := fun _ => True) ⟨trivial, hy.worker⟩ (by simp)⟩
  · intro b hb
    obtain ⟨y, rfl, hy⟩ := Block.isSink_iff.1 hb
    simp [Block.hasThread, hy.worker]

end Sinks

/-! ### Sources -/

section Sources

variable {S : BlockState → Prop} {F F' : SourceBlock γ → Prop} {x : SourceBlock γ}

lemma blocks_mapSource (hb : s.block? i = some b) (g : SourceBlock γ → SourceBlock γ) :
    (s.mapSource i g).blocks = s.blocks.set i (b.mapSource g) := by
  cases b with
  | source x => simp [mapSource, source?, hb, Block.mapSource]
  | sink y =>
    have h : s.mapSource i g = s := by simp [mapSource, source?, hb]
    rw [h, Block.mapSource, ← blocks_setBlock, setBlock_self hb]
  | stage z =>
    have h : s.mapSource i g = s := by simp [mapSource, source?, hb]
    rw [h, Block.mapSource, ← blocks_setBlock, setBlock_self hb]

lemma meets_sourceStep (hF : SourceBlock.Stable F) (hF' : SourceBlock.Stable F')
    (hs : At i (Block.IsSource F) s) (g : SourceBlock γ → SourceBlock γ)
    (hg : ∀ x, F x → G (.source x) (.source (g x)) ∧ F' (g x)) :
    (Routine.modify fun s => s.mapSource i g).Meets (DriftAt i) (StepAt G i)
      (fun _ => At i (Block.IsSource F') : Unit → Network ω γ π → Prop) s := by
  intro t ht
  obtain ⟨b, hb, hFb⟩ := hs.later (Block.stable_isSource hF) ht
  obtain ⟨x, rfl, hFx⟩ := Block.isSource_iff.1 hFb
  obtain ⟨hcontrol, hFx'⟩ := hg x hFx
  exact control_step (Block.stable_isSource hF') hb (blocks_mapSource hb g) (.inr hcontrol) hFx'

/-- A source is asked to stop, and its thread has ended. -/
lemma signalStop_join_meets (hS : S .error)
    (hs : At i (Block.IsSource fun x => S x.core.state) s) {β : Type} {k : Operation ω γ π β}
    {Q : β → Network ω γ π → Prop}
    (hk : ∀ t, At i (Block.IsSource (SourceBlock.Unmanned S)) t →
      k.Meets (DriftAt i) (StepAt Block.Closes i) Q t) :
    (signalStop i >>= fun _ => join i >>= fun _ => k).Meets (DriftAt i) (StepAt Block.Closes i)
      Q s := by
  have hstate := SourceBlock.stable_state (γ := γ) hS
  have hunmanned := SourceBlock.stable_unmanned (γ := γ) hS
  refine .bind (interference_driftAt i) ?_
  refine (meets_sourceStep hstate hstate hs (fun x => { x with stop := x.stop.stop })
    fun x hx => ⟨.source .signals, hx⟩).weaken ?_
  intro _ t ht
  refine .bind (interference_driftAt i) ?_
  refine (join_meets (Block.stable_isSource hstate) (Block.stable_isSource hunmanned) ht
    ?_).weaken fun _ u hu => hk u hu
  intro b hb hended
  obtain ⟨x, rfl, hx⟩ := Block.isSource_iff.1 hb
  exact ⟨.source (.forgets hended), hx, rfl⟩

/-- Started, the thread is in its loop; refused, the source stays without one. -/
lemma spawnSource_meets [Generator γ] (hS : S .error)
    (hs : At i (Block.IsSource (SourceBlock.Unmanned S)) s) :
    (Routine.modifyGet (spawnSource i)).Meets (DriftAt i) (StepAt Block.Opens i)
      (fun r t => match r with
        | .ok () => At i (Block.IsSource fun x => S x.core.state) t
        | .error _ => At i (Block.IsSource (SourceBlock.Unmanned S)) t) s := by
  have hunmanned := Block.stable_isSource (γ := γ) (π := π) (SourceBlock.stable_unmanned hS)
  intro t ht
  obtain ⟨b, hb, hFb⟩ := hs.later hunmanned ht
  obtain ⟨x, rfl, hx⟩ := Block.isSource_iff.1 hFb
  simp only [spawnSource, source?_eq_some.2 hb]
  split
  · have hat : At i (Block.IsSource (SourceBlock.Unmanned S)) t := ⟨_, hb, hx⟩
    exact ⟨.inl rfl, fun u hu => hat.later hunmanned hu⟩
  · rename_i lending storage _
    cases hdenial : t.denial with
    | some reason =>
      exact control_step hunmanned hb (blocks_setSource _) (.inr (.source (.readies hx.thread)))
        ⟨hx.state, hx.thread⟩
    | none =>
      have hcontrol := SourceBlock.Opens.spawns (Generator.opened x.generator) lending hx.thread
      exact control_step (Block.stable_isSource (SourceBlock.stable_state hS)) hb
        (blocks_setSource _) (.inr (.source hcontrol)) hx.state

/-- Started, a source is up; refused, it is idle or as it was. -/
theorem startSource_meets [Generator γ] (hb : s.block? i = some (.source x))
    (hready : (Block.source x : Block γ π).Ready) :
    (startSource i).Meets (DriftAt i) (StepAt Block.Opens i)
      (fun r t => match r with
        | .ok () => At i Block.Up t
        | .error _ => At i (fun b => b.Idle ∨ (Block.source x).Drift b) t) s := by
  have hS : BlockState.error ∈ [.starting, .error] := by simp
  have hstate := SourceBlock.stable_state (γ := γ) (S := (· ∈ [.starting, .error])) hS
  have hunmanned := SourceBlock.stable_unmanned (γ := γ) (S := (· ∈ [.starting, .error])) hS
  have hfound : At i (fun b => b.Ready ∧ (Block.source x).Drift b) s := ⟨_, hb, hready, .refl _⟩
  have hstable := Block.stable_ready.and (Block.stable_drift (Block.source x : Block γ π))
  have hend : Block.Stable fun b : Block γ π => b.Idle ∨ (Block.source x).Drift b :=
    fun b b' h hb => hb.imp (Block.stable_idle b b' h) (·.trans h)
  refine .bind (interference_driftAt i) ?_
  refine (transition_meets hstable (Block.stable_isSource hunmanned) hend hfound
    (fun b hb hstate => ?_) fun b hb => .inr hb.2).weaken fun r t ht => ?_
  · have hthread := hb.1 hstate
    cases hb.2 with
    | source hdrift =>
      have hthread := by simpa [Block.hasThread] using hthread
      exact ⟨.source (.starts hstate hthread), List.mem_cons_self, hthread⟩
  cases r with
  | error e => exact fun u hu => ht.later hend hu
  | ok source =>
    obtain ⟨hsource, ht⟩ := ht
    refine .bind (interference_driftAt i) ((spawnSource_meets hS ht).weaken ?_)
    intro r t ht
    cases r with
    | error e =>
      refine .bind (interference_driftAt i) ?_
      refine (settle_meets (Block.stable_isSource hunmanned) hend ht ?_
        ?_).weaken fun _ t ht u hu => ht.later hend hu
      · intro b hb hstate
        obtain ⟨x, rfl, hx⟩ := Block.isSource_iff.1 hb
        exact ⟨.source (.returns hsource hstate hx.thread), .inl (hx.idle_enter hsource)⟩
      · intro b hb hstate
        obtain ⟨x, rfl, hx⟩ := Block.isSource_iff.1 hb
        exact .inl (hx.idle (Block.state_of_ne hx.state hstate))
    | ok _ =>
      refine .bind (interference_driftAt i) ?_
      refine (settle_meets (Block.stable_isSource hstate) Block.stable_up ht
        ?_ ?_).weaken
          fun _ t ht u hu => ht.later Block.stable_up hu
      · intro b hb hstate
        obtain ⟨x, rfl, hx⟩ := Block.isSource_iff.1 hb
        exact ⟨.source (.runs hstate), by simp, trivial⟩
      · intro b hb hstate
        obtain ⟨x, rfl, hx⟩ := Block.isSource_iff.1 hb
        refine ⟨?_, trivial⟩
        rw [Block.state_of_ne hx hstate]
        simp

/-- Stopped, a source is idle; refused, it is as it was. -/
theorem stopSource_meets (hb : s.block? i = some (.source x)) :
    (stopSource i).Meets (DriftAt i) (StepAt Block.Closes i)
      (fun r t => match r with
        | .ok () => At i Block.Idle t
        | .error _ => At i (Block.source x).Drift t) s := by
  have hS : BlockState.error ∈ [.stopping, .error] := by simp
  have hstate := SourceBlock.stable_state (γ := γ) (S := (· ∈ [.stopping, .error])) hS
  have hunmanned := SourceBlock.stable_unmanned (γ := γ) (S := (· ∈ [.stopping, .error])) hS
  have hfound : At i (Block.source x).Drift s := ⟨_, hb, .refl _⟩
  have hstable := Block.stable_drift (Block.source x : Block γ π)
  refine .bind (interference_driftAt i) ?_
  refine (transition_meets hstable (Block.stable_isSource hstate) hstable hfound
    (fun b hb hrunning => ?_) fun b hb => hb).weaken fun r t ht => ?_
  · cases hb with
    | source hdrift => exact ⟨.source (.stops (List.mem_singleton.1 hrunning)), List.mem_cons_self⟩
  cases r with
  | error e => exact fun u hu => ht.later hstable hu
  | ok source =>
    refine signalStop_join_meets hS ht.2 fun t ht => .bind (interference_driftAt i) ?_
    refine (settle_meets (Block.stable_isSource hunmanned) Block.stable_idle ht
      ?_ ?_).weaken fun _ t ht u hu => ht.later Block.stable_idle hu
    · intro b hb _
      obtain ⟨x, rfl, hx⟩ := Block.isSource_iff.1 hb
      exact ⟨.source (.rests hx.thread), hx.idle_enter (by simp)⟩
    · intro b hb hne
      obtain ⟨x, rfl, hx⟩ := Block.isSource_iff.1 hb
      exact hx.idle (Block.state_of_ne hx.state hne)

/-- Taking the consumer of a source away leaves it idle. -/
lemma clearConsumer_meets (hs : At i Block.Idle s) :
    (clearConsumer i).Meets (DriftAt i) (StepAt Block.Closes i) (fun _ => At i Block.Idle) s := by
  refine meets_modifyAt Block.stable_idle Block.stable_idle hs _
    (fun t b hb _ => blocks_mapSource hb _) ?_
  intro b hb
  cases b with
  | source x => exact ⟨.inr (.source .clears), hb.thread, hb.state⟩
  | sink y => exact ⟨.inl rfl, hb⟩
  | stage z => exact ⟨.inl rfl, hb⟩

/-- Shut down, a source is idle. -/
theorem shutdownSource_meets (hb : s.block? i = some (.source x)) :
    (shutdownSource i).Meets (DriftAt i) (StepAt Block.Closes i) (fun _ => At i Block.Idle) s := by
  have hfound : At i (Block.IsSource fun _ => True) s := ⟨_, hb, trivial⟩
  have hunmanned := SourceBlock.stable_unmanned (γ := γ) (S := fun _ => True) trivial
  refine signalStop_join_meets (S := fun _ => True) trivial hfound fun t ht =>
    .bind (interference_driftAt i) ?_
  refine (settleStopped_meets (Block.stable_isSource hunmanned) ht ?_
    ?_).weaken fun _ t ht => clearConsumer_meets ht
  · intro b hb
    obtain ⟨x, rfl, hx⟩ := Block.isSource_iff.1 hb
    exact ⟨.source (.rests hx.thread), hx.idle_enter (by simp)⟩
  · intro b hb
    obtain ⟨x, rfl, hx⟩ := Block.isSource_iff.1 hb
    simp [Block.hasThread, hx.thread]

end Sources

/-! ### Blocks -/

/-- Started, a block is up; refused, it is idle or as it was. -/
theorem start_meets [Generator γ] (hb : s.block? i = some b) (hthreaded : b.Threaded)
    (hready : b.Ready) :
    (start i).Meets (DriftAt i) (StepAt Block.Opens i)
      (fun r t => match r with
        | .ok () => At i Block.Up t
        | .error _ => At i (fun b' => b'.Idle ∨ b.Drift b') t) s := by
  apply Routine.meets_get.2
  intro t ht
  obtain ⟨b', hb', hdrift⟩ := ht b hb
  refine ⟨.refl t, ?_⟩
  simp only [hb']
  have hready' := Block.stable_ready b b' hdrift hready
  cases b' with
  | source x =>
    apply (startSource_meets hb' hready').weaken
    intro r u hu
    cases r with
    | ok _ => exact hu
    | error _ => exact hu.mono fun b'' h => h.imp id hdrift.trans
  | sink y =>
    apply (startSink_meets hb' hready').weaken
    intro r u hu
    cases r with
    | ok _ => exact hu
    | error _ => exact hu.mono fun b'' h => h.imp id hdrift.trans
  | stage z => exact absurd (Block.stable_threaded _ _ hdrift hthreaded) id

/-- Stopped, a block is idle; refused, it is as it was. -/
theorem stop_meets (hb : s.block? i = some b) (hthreaded : b.Threaded) :
    (stop i).Meets (DriftAt i) (StepAt Block.Closes i)
      (fun r t => match r with
        | .ok () => At i Block.Idle t
        | .error _ => At i b.Drift t) s := by
  apply Routine.meets_get.2
  intro t ht
  obtain ⟨b', hb', hdrift⟩ := ht b hb
  refine ⟨.refl t, ?_⟩
  simp only [hb']
  cases b' with
  | source x =>
    apply (stopSource_meets hb').weaken
    intro r u hu
    cases r with
    | ok _ => exact hu
    | error _ => exact hu.mono fun b'' => hdrift.trans
  | sink y =>
    apply (stopSink_meets hb').weaken
    intro r u hu
    cases r with
    | ok _ => exact hu
    | error _ => exact hu.mono fun b'' => hdrift.trans
  | stage z => exact absurd (Block.stable_threaded _ _ hdrift hthreaded) id

/-- Shut down, a block is idle. -/
theorem shutdown_meets (hs : At i Block.Threaded s) :
    (shutdown i).Meets (DriftAt i) (StepAt Block.Closes i) (fun _ => At i Block.Idle) s := by
  apply Routine.meets_get.2
  intro t ht
  obtain ⟨b, hb, hthreaded⟩ := hs.later Block.stable_threaded ht
  refine ⟨.refl t, ?_⟩
  simp only [hb]
  cases b with
  | source x => exact shutdownSource_meets hb
  | sink y => exact shutdownSink_meets hb
  | stage z => exact absurd hthreaded id

/-- A block that was started, or is idle, is idle once it was halted. -/
theorem halt_meets (hs : At i (fun b => b.Threaded ∧ (b.Up ∨ b.Idle)) s) :
    (halt i).Meets (DriftAt i) (StepAt Block.Closes i) (fun _ => At i Block.Idle) s := by
  have hstable : Block.Stable fun b : Block γ π => b.Threaded ∧ (b.Up ∨ b.Idle) :=
    Block.stable_threaded.and fun b b' h hb =>
      hb.imp (Block.stable_up b b' h) (Block.stable_idle b b' h)
  apply Routine.meets_get.2
  intro t ht
  obtain ⟨b, hb, hthreaded, hphase⟩ := hs.later hstable ht
  refine ⟨.refl t, ?_⟩
  have hat : At i Block.Threaded t := ⟨b, hb, hthreaded⟩
  have hstate : t.stateOf i = b.state := by simp [stateOf, hb]
  have hdone (hidle : b.Idle) : (pure () : Operation ω γ π Unit).Meets (DriftAt i)
      (StepAt Block.Closes i) (fun _ => At i Block.Idle) t := by
    intro u hu
    exact At.later ⟨b, hb, hidle⟩ Block.stable_idle hu
  cases hphase with
  | inr hidle =>
    simp only [hstate]
    split
    · exact absurd hidle.state (by simp [*])
    · exact shutdown_meets hat
    · exact hdone hidle
  | inl hup =>
    simp only [hstate]
    split
    · refine .bind (interference_driftAt i) ((stop_meets hb hthreaded).weaken ?_)
      intro r u hu
      cases r with
      | ok _ => exact fun v hv => hu.later Block.stable_idle hv
      | error e =>
        exact shutdown_meets (hu.mono fun b' h => Block.stable_threaded _ _ h hthreaded)
    · exact shutdown_meets hat
    · have := hup.state
      simp_all

end Network

end FrameGraph
