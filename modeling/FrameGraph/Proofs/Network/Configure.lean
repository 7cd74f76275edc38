import FrameGraph.Proofs.Network.Control

/-!
# Configuring a block

Configuring a block takes one step. It may change the state of the block, and settings that neither
the thread of a source nor the worker of a sink has in hand.
-/

namespace FrameGraph

namespace Block

variable {γ π : Type} {b b' : Block γ π}

/-- What one step of a configuration does to its block. -/
inductive Configures : Block γ π → Block γ π → Prop
  | source {x x'} (hthread : x'.thread = x.thread)
    (hconsumer : x'.engine.consumer = x.engine.consumer) (hstats : x'.core.stats = x.core.stats)
    (hstate : x'.core.state = x.core.state ∨
      x.core.state ∈ [.uninitialized, .initialized] ∧ x'.core.state ∈ [.initialized, .error]) :
    Configures (.source x) (.source x')
  | sink {y y'} (hqueue : y'.engine.queue = y.engine.queue)
    (hworker : y'.engine.worker = y.engine.worker) (hstop : y'.engine.stopping = y.engine.stopping)
    (hstats : y'.core.stats = y.core.stats)
    (happroaching : y'.engine.approaching = y.engine.approaching)
    (hwaiting : y'.engine.woken ++ y'.engine.waiting = y.engine.woken ++ y.engine.waiting)
    (hstate : y'.core.state = y.core.state ∨
      y.core.state ∈ [.uninitialized, .initialized] ∧ y'.core.state ∈ [.initialized, .error]) :
    Configures (.sink y) (.sink y')

/-- Changes that keep the state and the statistics. -/
lemma Threaded.configures_mapCore (h : b.Threaded) {f : BlockCore → BlockCore}
    (hstate : ∀ c, (f c).state = c.state) (hstats : ∀ c, (f c).stats = c.stats) :
    b.Configures (b.mapCore f) := by
  cases b with
  | source x => exact .source rfl rfl (hstats _) (.inl (hstate _))
  | sink y => exact .sink rfl rfl rfl (hstats _) rfl rfl (.inl (hstate _))
  | stage z => exact absurd h id

lemma Configures.threaded (h : b.Configures b') : b'.Threaded := by
  cases h <;> trivial

lemma Configures.idle (h : b.Configures b') (hb : b.Idle) : b'.Idle := by
  cases h with
  | source hthread _ _ hstate =>
    refine ⟨by simpa [Block.hasThread, hthread] using hb.thread, ?_⟩
    have hstate' := hb.state
    simp only [Block.state, Block.core] at hstate' ⊢
    simp only [SourceBlock.core] at hstate
    rcases hstate with heq | ⟨-, hmem⟩
    · rwa [heq]
    · intro hactive
      simp only [List.mem_cons, List.not_mem_nil, or_false] at hmem hactive
      rcases hmem with heq | heq <;> simp [heq] at hactive
  | sink _ hworker _ _ _ _ hstate =>
    refine ⟨by simpa [Block.hasThread, hworker] using hb.thread, ?_⟩
    have hstate' := hb.state
    simp only [Block.state, Block.core] at hstate' ⊢
    simp only [SinkBlock.core] at hstate
    rcases hstate with heq | ⟨-, hmem⟩
    · rwa [heq]
    · intro hactive
      simp only [List.mem_cons, List.not_mem_nil, or_false] at hmem hactive
      rcases hmem with heq | heq <;> simp [heq] at hactive

end Block

/-! ### Settings -/

/-- What a source is configured from is not what its thread works with. -/
structure SourceBlock.Reads {γ : Type} (x x' : SourceBlock γ) : Prop where
  core : x'.core = x.core
  consumer : x'.engine.consumer = x.engine.consumer
  thread : x'.thread = x.thread

/-- What a sink is configured from is not what its worker works with. -/
structure SinkEngine.Reads (e e' : SinkEngine) : Prop where
  core : e'.core = e.core
  queue : e'.queue = e.queue
  worker : e'.worker = e.worker
  stopping : e'.stopping = e.stopping
  approaching : e'.approaching = e.approaching
  waiting : e'.woken ++ e'.waiting = e.woken ++ e.waiting

lemma SinkEngine.Reads.refl (e : SinkEngine) : e.Reads e := ⟨rfl, rfl, rfl, rfl, rfl, rfl⟩

lemma SinkEngine.Reads.trans {e e' e'' : SinkEngine} (h : e.Reads e') (h' : e'.Reads e'') :
    e.Reads e'' where
  core := h'.core.trans h.core
  queue := h'.queue.trans h.queue
  worker := h'.worker.trans h.worker
  stopping := h'.stopping.trans h.stopping
  approaching := h'.approaching.trans h.approaching
  waiting := h'.waiting.trans h.waiting

namespace SourceBlock

variable {γ : Type}

lemma Reads.refl (x : SourceBlock γ) : x.Reads x := ⟨rfl, rfl, rfl⟩

lemma applyRate_reads (x : SourceBlock γ) (fps : Option Float) : x.Reads (x.applyRate fps).2 := by
  cases fps with
  | none => exact .refl x
  | some fps =>
    simp only [applyRate, SourceEngine.setRate]
    split <;> exact ⟨rfl, rfl, rfl⟩

variable [Generator γ]

lemma applyParameters_reads (x : SourceBlock γ) (storage : Storage) :
    x.Reads (x.applyParameters storage).2.1 := by
  simp only [applyParameters]
  split
  · exact .refl x
  split
  · exact ⟨rfl, rfl, rfl⟩
  rename_i fps _ _ _ _ _ generator _
  have hreads := applyRate_reads { x with generator } fps
  split
  · rename_i h
    rw [h] at hreads
    exact ⟨hreads.core, hreads.consumer, hreads.thread⟩
  · rename_i h
    rw [h] at hreads
    exact ⟨hreads.core, hreads.consumer, hreads.thread⟩

lemma configures_configure {π : Type} (x : SourceBlock γ) (storage : Storage) :
    (Block.source x : Block γ π).Configures (.source (x.configure storage).2.1) := by
  have hreads := x.applyParameters_reads storage
  simp only [configure, BlockCore.require]
  by_cases hstate : x.core.state ∈ [.uninitialized, .initialized]
  · rw [if_pos hstate]
    dsimp only
    split
    · rename_i x' storage' h
      replace hreads : x.Reads x' := by simpa only [h] using hreads
      have hstats : x'.core.stats = x.core.stats := by rw [hreads.core]
      exact .source hreads.thread hreads.consumer hstats (.inr ⟨hstate, List.mem_cons_self⟩)
    · rename_i e x' storage' h
      replace hreads : x.Reads x' := by simpa only [h] using hreads
      have hstats : x'.core.stats = x.core.stats := by rw [hreads.core]
      have hfails : BlockState.error ∈ [.initialized, .error] := by simp
      exact .source hreads.thread hreads.consumer hstats (.inr ⟨hstate, hfails⟩)
    · rename_i x' storage' h
      replace hreads : x.Reads x' := by simpa only [h] using hreads
      exact .source hreads.thread hreads.consumer (by rw [hreads.core]) (.inl (by rw [hreads.core]))
  · rw [if_neg hstate]
    exact .source rfl rfl rfl (.inl rfl)

/-- Of the core of a source a configuration changes the state and the last error at most. -/
lemma core_configure (x : SourceBlock γ) (storage : Storage) :
    ∃ state lastError, (x.configure storage).2.1.core = { x.core with state, lastError } := by
  have hreads := x.applyParameters_reads storage
  simp only [configure, BlockCore.require]
  split
  · exact ⟨_, _, rfl⟩
  split
  all_goals
    rename_i x' _ heq
    rw [heq] at hreads
    have hcore : x'.core = x.core := hreads.core
    rw [← hcore]
    exact ⟨_, _, rfl⟩

end SourceBlock

namespace SinkBlock

variable {ω π : Type}

lemma reads_notifyProducers (e : SinkEngine) (maxDepth : Nat) (policy : Backpressure) :
    e.Reads { e with maxDepth, policy }.notifyProducers :=
  ⟨rfl, rfl, rfl, rfl, rfl, by simp [SinkEngine.notifyProducers]⟩

lemma apply_reads (y : SinkBlock π) (settings : Settings) :
    y.engine.Reads (y.apply settings).2.engine := by
  simp only [apply]
  split
  · exact .refl _
  · rename_i engine h
    have hdepth : y.engine.Reads engine := by
      simp only [SinkEngine.setMaxDepth] at h
      split at h
      · cases h
        exact reads_notifyProducers y.engine settings.depth y.engine.policy
      · cases h
    exact hdepth.trans (reads_notifyProducers engine engine.maxDepth settings.policy)

variable [Processor ω π]

lemma applyParameters_reads (y : SinkBlock π) (world : ω) :
    y.engine.Reads (y.applyParameters world).2.1.engine := by
  simp only [applyParameters]
  split
  · exact .refl _
  split
  · exact .refl _
  · rename_i settings _ _ processor world' _
    exact apply_reads { y with processor } settings

lemma configures_configure {γ : Type} (y : SinkBlock π) (world : ω) :
    (Block.sink y : Block γ π).Configures (.sink (y.configure world).2.1) := by
  have hreads := y.applyParameters_reads world
  simp only [configure, BlockCore.require]
  by_cases hstate : y.core.state ∈ [.uninitialized, .initialized]
  · rw [if_pos hstate]
    dsimp only
    split
    · rename_i y' world' h
      replace hreads : y.engine.Reads y'.engine := by simpa only [h] using hreads
      have hstats : y'.core.stats = y.core.stats := congrArg BlockCore.stats hreads.core
      exact .sink hreads.queue hreads.worker hreads.stopping hstats hreads.approaching
        hreads.waiting (.inr ⟨hstate, List.mem_cons_self⟩)
    · rename_i e y' world' h
      replace hreads : y.engine.Reads y'.engine := by simpa only [h] using hreads
      have hstats : y'.core.stats = y.core.stats := congrArg BlockCore.stats hreads.core
      have hfails : BlockState.error ∈ [.initialized, .error] := by simp
      exact .sink hreads.queue hreads.worker hreads.stopping hstats hreads.approaching
        hreads.waiting (.inr ⟨hstate, hfails⟩)
    · rename_i y' world' h
      replace hreads : y.engine.Reads y'.engine := by simpa only [h] using hreads
      exact .sink hreads.queue hreads.worker hreads.stopping (congrArg BlockCore.stats hreads.core)
        hreads.approaching hreads.waiting (.inl (congrArg BlockCore.state hreads.core))
  · rw [if_neg hstate]
    exact .sink rfl rfl rfl rfl rfl rfl (.inl rfl)

/-- Of the core of a sink a configuration changes the state and the last error at most. -/
lemma core_configure (y : SinkBlock π) (world : ω) :
    ∃ state lastError, (y.configure world).2.1.core = { y.core with state, lastError } := by
  have hreads := y.applyParameters_reads world
  simp only [configure, BlockCore.require]
  split
  · exact ⟨_, _, rfl⟩
  split
  all_goals
    rename_i y' _ heq
    rw [heq] at hreads
    have hcore : y'.core = y.core := hreads.core
    rw [← hcore]
    exact ⟨_, _, rfl⟩

end SinkBlock

namespace Network

variable {ω γ π : Type} [Generator γ] [Processor ω π] {s t : Network ω γ π} {i : Nat}

/-- Configuring is one step on a source or a sink. -/
lemma configureEngine_step (hs : At i Block.Threaded s) :
    StepAt Block.Configures i s (configureEngine i s).2 := by
  obtain ⟨b, hb, hthreaded⟩ := hs
  simp only [configureEngine, hb]
  cases b with
  | source x =>
    refine .inr ⟨_, _, hb, x.configures_configure s.storage, ?_⟩
    simp
  | sink y =>
    refine .inr ⟨_, _, hb, y.configures_configure s.world, ?_⟩
    simp
  | stage z => exact absurd hthreaded id

lemma configure_meets (hs : At i (fun b => b.Threaded ∧ b.Idle) s) :
    (configure i).Meets (DriftAt i) (StepAt Block.Configures i)
      (fun _ => At i Block.Idle : Result Unit → Network ω γ π → Prop) s := by
  have hstable := Block.stable_threaded.and (Block.stable_idle (γ := γ) (π := π))
  refine Routine.meets_get.2 fun t ht => ⟨.refl t, ?_⟩
  replace hs := hs.later hstable ht
  have hstep : (Routine.modifyGet (configureEngine i)).Meets (DriftAt i)
      (StepAt Block.Configures i) (fun _ => At i Block.Idle) t := by
    intro u hu
    replace hs := hs.later hstable hu
    have hstep := configureEngine_step (hs.mono fun _ hb => hb.1)
    refine ⟨hstep, ?_⟩
    intro v hv
    exact (hstep.keep (fun _ _ h hb => h.idle hb) (hs.mono fun _ hb => hb.2)).later
      Block.stable_idle hv
  obtain ⟨b, hb, hthreaded, -⟩ := hs
  simp only [hb]
  cases b with
  | source x => exact hstep
  | sink y => exact hstep
  | stage z => exact absurd hthreaded id

end Network

end FrameGraph
