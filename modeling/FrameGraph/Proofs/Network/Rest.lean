import FrameGraph.Proofs.Network.Legality
import FrameGraph.Proofs.Network.Retention

/-!
# Blocks that were shut down

A shutdown leaves nothing for another one to do: the thread is gone, the queue is empty, nobody
waits for room in it, and no frame is handed on. This lasts whatever happens until the block is
started again, and so a second shutdown changes nothing.
-/

namespace FrameGraph

/-! ### Phases of a shutdown -/

namespace SourceBlock

variable {γ : Type}

/-- What is known of a source is not lost, whatever happens to it. -/
def Lasts (F : SourceBlock γ → Prop) : Prop := ∀ x x', x.Drift x' → x.Retains x' → F x → F x'

/-- A source that is asked to stop. -/
structure Signalled (x : SourceBlock γ) : Prop where
  stop : x.stop.raised = true

/-- A source whose thread has ended. -/
structure Departed (x : SourceBlock γ) : Prop extends Signalled x where
  thread : x.thread = .absent

/-- A source that counts as active no more. -/
structure Settled (x : SourceBlock γ) : Prop extends Departed x where
  state : x.core.state ∉ [.starting, .running, .stopping]

/-- A source that was shut down. -/
structure Spent (x : SourceBlock γ) : Prop extends Settled x where
  consumer : x.engine.consumer = none

lemma lasts_signalled : Lasts (Signalled (γ := γ)) := fun _ _ _ hretains hx =>
  ⟨(congrArg StopSignal.raised hretains.stop).trans hx.stop⟩

lemma lasts_departed : Lasts (Departed (γ := γ)) := fun x x' hdrift hretains hx =>
  ⟨lasts_signalled x x' hdrift hretains hx.toSignalled, hdrift.absent hx.thread⟩

lemma lasts_settled : Lasts (Settled (γ := γ)) := fun x x' hdrift hretains hx =>
  ⟨lasts_departed x x' hdrift hretains hx.toDeparted,
    hdrift.keeps (S := (· ∉ [.starting, .running, .stopping])) (by simp) hx.state⟩

lemma lasts_spent : Lasts (Spent (γ := γ)) := fun x x' hdrift hretains hx =>
  ⟨lasts_settled x x' hdrift hretains hx.toSettled, hretains.consumer hx.consumer⟩

end SourceBlock

namespace SinkEngine

/-- What is known of a sink is not lost, whatever happens to it. -/
def Lasts (F : SinkEngine → Prop) : Prop := ∀ e e', e.Drift e' → e.Retains e' → F e → F e'

/-- A sink that is asked to stop and lets nobody wait. -/
structure Closing (e : SinkEngine) : Prop where
  stopping : e.stopping = true
  waiting : e.waiting = []

/-- A sink whose worker has ended. -/
structure Vacated (e : SinkEngine) : Prop extends Closing e where
  worker : e.worker = .absent

/-- A sink whose queue was emptied. -/
structure Cleared (e : SinkEngine) : Prop extends Vacated e where
  queue : e.queue = []
  gauge : e.core.stats.queueDepth = 0

/-- A sink that was shut down. -/
structure Spent (e : SinkEngine) : Prop extends Cleared e where
  state : e.core.state ∉ [.starting, .running, .stopping]

lemma lasts_true : Lasts fun _ => True := fun _ _ _ _ => id

lemma lasts_closing : Lasts Closing := fun _ _ hdrift hretains he =>
  ⟨hdrift.stopping.trans he.stopping, hretains.waiting he.stopping he.waiting⟩

lemma lasts_vacated : Lasts Vacated := fun e e' hdrift hretains he =>
  ⟨lasts_closing e e' hdrift hretains he.toClosing, hdrift.absent.2 he.worker⟩

lemma lasts_cleared : Lasts Cleared := fun e e' hdrift hretains he =>
  ⟨lasts_vacated e e' hdrift hretains he.toVacated, hdrift.drained he.stopping he.queue,
    (hretains.gauge he.stopping).trans he.gauge⟩

lemma lasts_spent : Lasts Spent := fun e e' hdrift hretains he =>
  ⟨lasts_cleared e e' hdrift hretains he.toCleared,
    hdrift.keeps (S := (· ∉ [.starting, .running, .stopping])) (by simp) he.state⟩

lemma Spent.halt {e : SinkEngine} (h : e.Spent) : e.halt = e := by
  rcases e with ⟨core, queue, maxDepth, policy, stopping, approaching, waiting, woken, worker⟩
  obtain ⟨⟨⟨⟨rfl, rfl⟩, rfl⟩, -, -⟩, -⟩ := h
  simp [SinkEngine.halt, wakeWorker, notifyProducers]

lemma Spent.discard {e : SinkEngine} (h : e.Spent) : e.discard = ([], e) := by
  rcases e with ⟨⟨type, name, state, params, stats, lastError, listener⟩, queue, maxDepth, policy,
    stopping, approaching, waiting, woken, worker⟩
  rcases stats with ⟨processed, dropped, bytes, latency, queueDepth⟩
  obtain ⟨⟨-, rfl, hgauge⟩, -⟩ := h
  cases hgauge
  simp [SinkEngine.discard, BlockCore.setQueueDepth, BlockCore.recordDrops,
    Statistics.setQueueDepth, Statistics.recordDrops]

end SinkEngine

namespace Block

variable {γ π : Type} {b b' : Block γ π} {P P' : Block γ π → Prop}

/-- A block that was shut down. -/
def Spent : Block γ π → Prop
  | .source x => x.Spent
  | .sink y => y.engine.Spent
  | .stage _ => False

/-- What is known of a block is not lost, whatever happens to it. -/
def Lasts (P : Block γ π → Prop) : Prop := ∀ b b', b.Drift b' → b.Retains b' → P b → P b'

lemma lasts_isSource {F : SourceBlock γ → Prop} (h : SourceBlock.Lasts F) :
    Lasts (IsSource F : Block γ π → Prop) := by
  intro b b' hdrift hretains hb
  obtain ⟨x, rfl, hx⟩ := isSource_iff.1 hb
  cases hdrift with
  | source hdrift =>
    cases hretains with
    | source hretains => exact h _ _ hdrift hretains hx

lemma lasts_isSink {F : SinkEngine → Prop} (h : SinkEngine.Lasts F) :
    Lasts (IsSink F : Block γ π → Prop) := by
  intro b b' hdrift hretains hb
  obtain ⟨y, rfl, hy⟩ := isSink_iff.1 hb
  cases hdrift with
  | sink hdrift =>
    cases hretains with
    | sink hretains => exact h _ _ hdrift hretains hy

lemma spent_iff : b.Spent ↔ b.IsSource SourceBlock.Spent ∨ b.IsSink SinkEngine.Spent := by
  cases b <;> simp [Spent, IsSource, IsSink]

lemma lasts_spent : Lasts (Spent (γ := γ) (π := π)) := by
  intro b b' hdrift hretains hb
  rw [spent_iff] at hb ⊢
  exact hb.imp (lasts_isSource SourceBlock.lasts_spent b b' hdrift hretains)
    (lasts_isSink SinkEngine.lasts_spent b b' hdrift hretains)

lemma Spent.idle (h : b.Spent) : b.Idle := by
  cases b with
  | source x => exact ⟨by simp [hasThread, h.thread], h.state⟩
  | sink y => exact ⟨by simp [hasThread, h.worker], h.state⟩
  | stage z => exact h.elim

end Block

lemma BlockCore.settleStopped_rests (c : BlockCore) :
    c.settleStopped.state ∉ [.starting, .running, .stopping] := by
  rw [settleStopped_eq]
  split
  · simp
  · assumption

lemma BlockCore.stats_settleStopped (c : BlockCore) : c.settleStopped.stats = c.stats := by
  rw [settleStopped_eq]
  split <;> rfl

namespace Network

variable {ω γ π : Type} {s t u : Network ω γ π} {i : Nat} {b : Block γ π}
  {P P' : Block γ π → Prop}

/-! ### What others do to a block -/

/-- What happens to one block of a network. -/
def UndergoesAt (i : Nat) (s t : Network ω γ π) : Prop :=
  ∀ b, s.block? i = some b → ∃ b', t.block? i = some b' ∧ b.Drift b' ∧ b.Retains b'

lemma UndergoesAt.drift (h : UndergoesAt i s t) : DriftAt i s t := fun b hb =>
  have ⟨b', hb', hdrift, _⟩ := h b hb
  ⟨b', hb', hdrift⟩

lemma interference_undergoesAt (i : Nat) :
    Routine.Interference (UndergoesAt (ω := ω) (γ := γ) (π := π) i) where
  refl _ b hb := ⟨b, hb, .refl b, .refl b⟩
  trans h h' b hb := by
    obtain ⟨b', hb', hdrift, hretains⟩ := h b hb
    obtain ⟨b'', hb'', hdrift', hretains'⟩ := h' b' hb'
    exact ⟨b'', hb'', hdrift.trans hdrift', hretains.trans hretains'⟩

lemma At.lasts (h : At i P s) (hP : Block.Lasts P) (hst : UndergoesAt i s t) : At i P t := by
  obtain ⟨b, hb, hPb⟩ := h
  obtain ⟨b', hb', hdrift, hretains⟩ := hst b hb
  exact ⟨b', hb', hP b b' hdrift hretains hPb⟩

/-! ### The first shutdown -/

/-- A step after which something lasts. -/
lemma meets_lasting (hP : Block.Lasts P) (hP' : Block.Lasts P') (hs : At i P s)
    {f : Network ω γ π → Network ω γ π} (g : Block γ π → Block γ π)
    (hf : ∀ t b, t.block? i = some b → P b → (f t).blocks = t.blocks.set i (g b))
    (hg : ∀ b, P b → P' (g b)) :
    (Routine.modify f).Meets (UndergoesAt i) (fun _ _ => True) (fun _ => At i P') s := by
  intro t ht
  obtain ⟨b, hb, hPb⟩ := hs.lasts hP ht
  refine ⟨trivial, fun u hu => ?_⟩
  have hat : At i P' (f t) := ⟨g b, block?_of_set_self (hf t b hb hPb) hb, hg b hPb⟩
  exact hat.lasts hP' hu

lemma join_lasting (hP : Block.Lasts P) (hP' : Block.Lasts P') (hs : At i P s)
    (hg : ∀ b, P b → P' b.forgetThread) :
    (join i).Meets (UndergoesAt i) (fun _ _ => True) (fun _ => At i P') s :=
  fun _ ht _ => meets_lasting hP hP' (hs.lasts hP ht) Block.forgetThread
    (fun _ _ hb _ => blocks_forgetThread hb) hg

lemma settleStopped_lasting (hP : Block.Lasts P) (hP' : Block.Lasts P') (hs : At i P s)
    (hg : ∀ b, P b → P' (b.mapCore BlockCore.settleStopped)) :
    (settleStopped i).Meets (UndergoesAt i) (fun _ _ => True) (fun _ => At i P') s :=
  meets_lasting hP hP' hs _ (fun _ _ hb _ => blocks_mapCore hb _) hg

section Sources

variable {F F' : SourceBlock γ → Prop}

lemma sourceStep_lasting (hF : SourceBlock.Lasts F) (hF' : SourceBlock.Lasts F')
    (hs : At i (Block.IsSource F) s) (g : SourceBlock γ → SourceBlock γ)
    (hg : ∀ x, F x → F' (g x)) :
    (Routine.modify fun s => s.mapSource i g).Meets (UndergoesAt i) (fun _ _ => True)
      (fun _ => At i (Block.IsSource F') : Unit → Network ω γ π → Prop) s := by
  refine meets_lasting (Block.lasts_isSource hF) (Block.lasts_isSource hF') hs _
    (fun _ _ hb _ => blocks_mapSource hb g) fun b hb => ?_
  obtain ⟨x, rfl, hx⟩ := Block.isSource_iff.1 hb
  exact hg x hx

/-- Shut down, a source is spent. -/
theorem shutdownSource_spends {x : SourceBlock γ} (hb : s.block? i = some (.source x)) :
    (shutdownSource i).Meets (UndergoesAt i) (fun _ _ => True) (fun _ => At i Block.Spent) s := by
  have hR := interference_undergoesAt (ω := ω) (γ := γ) (π := π) i
  have hfound : At i (Block.IsSource fun _ => True) s := ⟨_, hb, trivial⟩
  refine .bind hR ((sourceStep_lasting (fun _ _ _ _ => id) SourceBlock.lasts_signalled hfound _
    fun _ _ => ⟨rfl⟩).weaken fun _ t ht => ?_)
  refine .bind hR ((join_lasting (Block.lasts_isSource SourceBlock.lasts_signalled)
    (Block.lasts_isSource SourceBlock.lasts_departed) ht fun b hb => ?_).weaken fun _ t ht => ?_)
  · obtain ⟨x, rfl, hx⟩ := Block.isSource_iff.1 hb
    exact ⟨⟨hx.stop⟩, rfl⟩
  refine .bind hR ((settleStopped_lasting (Block.lasts_isSource SourceBlock.lasts_departed)
    (Block.lasts_isSource SourceBlock.lasts_settled) ht fun b hb => ?_).weaken fun _ t ht => ?_)
  · obtain ⟨x, rfl, hx⟩ := Block.isSource_iff.1 hb
    exact ⟨⟨⟨hx.stop⟩, hx.thread⟩, BlockCore.settleStopped_rests _⟩
  refine (sourceStep_lasting SourceBlock.lasts_settled SourceBlock.lasts_spent ht _
    fun x hx => ?_).weaken fun _ t ht => ht.mono fun _ hb => Block.spent_iff.2 (.inl hb)
  exact ⟨⟨⟨⟨hx.stop⟩, hx.thread⟩, hx.state⟩, rfl⟩

end Sources

section Sinks

variable {F F' : SinkEngine → Prop}

lemma sinkStep_lasting (hF : SinkEngine.Lasts F) (hF' : SinkEngine.Lasts F')
    (hs : At i (Block.IsSink F) s) {f : Network ω γ π → Network ω γ π} (g : SinkEngine → SinkEngine)
    (hf : ∀ t y, t.block? i = some (.sink y) →
      (f t).blocks = t.blocks.set i (.sink { y with engine := g y.engine }))
    (hg : ∀ e, F e → F' (g e)) :
    (Routine.modify f).Meets (UndergoesAt i) (fun _ _ => True)
      (fun _ => At i (Block.IsSink F')) s := by
  intro t ht
  obtain ⟨b, hb, hFb⟩ := hs.lasts (Block.lasts_isSink hF) ht
  obtain ⟨y, rfl, hy⟩ := Block.isSink_iff.1 hFb
  refine ⟨trivial, fun u hu => ?_⟩
  have hat : At i (Block.IsSink F') (f t) := ⟨_, block?_of_set_self (hf t y hb) hb, hg _ hy⟩
  exact hat.lasts (Block.lasts_isSink hF') hu

/-- Shut down, a sink is spent. -/
theorem shutdownSink_spends {y : SinkBlock π} (hb : s.block? i = some (.sink y)) :
    (shutdownSink i).Meets (UndergoesAt i) (fun _ _ => True) (fun _ => At i Block.Spent) s := by
  have hR := interference_undergoesAt (ω := ω) (γ := γ) (π := π) i
  have hfound : At i (Block.IsSink fun _ => True) s := ⟨_, hb, trivial⟩
  refine .bind hR (.bind hR ((sinkStep_lasting SinkEngine.lasts_true SinkEngine.lasts_closing hfound
    SinkEngine.halt (fun _ _ hy => blocks_mapEngine hy _) fun e _ => ?_).weaken fun _ t ht => ?_))
  · exact ⟨by simp [SinkEngine.halt, SinkEngine.notifyProducers], rfl⟩
  refine .bind hR ((join_lasting (Block.lasts_isSink SinkEngine.lasts_closing)
    (Block.lasts_isSink SinkEngine.lasts_vacated) ht fun b hb => ?_).weaken fun _ t ht => ?_)
  · obtain ⟨y, rfl, hy⟩ := Block.isSink_iff.1 hb
    exact ⟨⟨hy.stopping, hy.waiting⟩, rfl⟩
  refine (sinkStep_lasting SinkEngine.lasts_vacated SinkEngine.lasts_cleared ht
    (fun e => e.discard.2) (fun _ _ hy => blocks_discard hy) fun e he => ?_).weaken fun _ t ht => ?_
  · exact ⟨⟨⟨he.stopping, he.waiting⟩, he.worker⟩, rfl, rfl⟩
  refine (settleStopped_lasting (Block.lasts_isSink SinkEngine.lasts_cleared)
    (Block.lasts_isSink SinkEngine.lasts_spent) ht fun b hb => ?_).weaken
      fun _ t ht => ht.mono fun _ hb => Block.spent_iff.2 (.inr hb)
  obtain ⟨y, rfl, hy⟩ := Block.isSink_iff.1 hb
  have hgauge : y.engine.core.settleStopped.stats.queueDepth = 0 := by
    rw [BlockCore.stats_settleStopped, hy.gauge]
  exact ⟨⟨⟨⟨hy.stopping, hy.waiting⟩, hy.worker⟩, hy.queue, hgauge⟩,
    BlockCore.settleStopped_rests _⟩

end Sinks

/-- Shut down, a block is spent. -/
theorem shutdown_spends (hs : At i Block.Threaded s) :
    (shutdown i).Meets (UndergoesAt i) (fun _ _ => True) (fun _ => At i Block.Spent) s := by
  refine Routine.meets_get.2 fun t ht => ⟨trivial, ?_⟩
  obtain ⟨b, hb, hthreaded⟩ := hs.later Block.stable_threaded ht.drift
  simp only [hb]
  cases b with
  | source x => exact shutdownSource_spends hb
  | sink y => exact shutdownSink_spends hb
  | stage z => exact absurd hthreaded id

/-! ### The second shutdown -/

/-- A step that changes nothing where a block is spent. -/
lemma modify_idles {f : Network ω γ π → Network ω γ π}
    (hf : ∀ t, At i Block.Spent t → f t = t) (hs : At i Block.Spent s) :
    (Routine.modify f).Meets (UndergoesAt i) (fun s t => t = s) (fun _ => At i Block.Spent) s := by
  intro t ht
  have hat := hs.lasts Block.lasts_spent ht
  refine ⟨hf t hat, fun u hu => ?_⟩
  rw [hf t hat] at hu
  exact hat.lasts Block.lasts_spent hu

/-- What is replaced by itself is not changed. -/
lemma settleStopped_idle (hs : At i Block.Spent s) : s.mapCore i BlockCore.settleStopped = s := by
  obtain ⟨b, hb, hspent⟩ := hs
  have hcore : b.core.settleStopped = b.core :=
    (BlockCore.settleStopped_eq _).trans (if_neg hspent.idle.state)
  simp only [mapCore, hb, Block.mapCore_self hcore]
  exact setBlock_self hb

/-- A change of sources that changes none that were shut down. -/
lemma mapSource_idle {f : SourceBlock γ → SourceBlock γ} (hf : ∀ x, x.Spent → f x = x)
    (hs : At i Block.Spent s) : s.mapSource i f = s := by
  obtain ⟨b, hb, hspent⟩ := hs
  cases b with
  | source x =>
    simp only [mapSource, source?_eq_some.2 hb, hf x hspent]
    exact setBlock_self hb
  | _ => simp [mapSource, source?, hb]

lemma forgetThread_idle (hs : At i Block.Spent s) : forgetThread i s = s := by
  obtain ⟨b, hb, hspent⟩ := hs
  cases b with
  | source x =>
    have hx : { x with thread := .absent } = x := by rw [← hspent.thread]
    simp only [forgetThread, hb, hx]
    exact setBlock_self hb
  | sink y =>
    have hy : { y with engine := { y.engine with worker := .absent } } = y := by
      rw [← hspent.worker]
    simp only [forgetThread, hb, hy]
    exact setBlock_self hb
  | stage z => exact hspent.elim

lemma halt_idle (hs : At i Block.Spent s) : s.mapEngine i SinkEngine.halt = s := by
  obtain ⟨b, hb, hspent⟩ := hs
  cases b with
  | sink y =>
    have hhalt : y.engine.halt = y.engine := SinkEngine.Spent.halt hspent
    simp only [mapEngine, sink?_eq_some.2 hb, hhalt]
    exact setBlock_self hb
  | _ => simp [mapEngine, sink?, hb]

lemma discard_idle (hs : At i Block.Spent s) : discard i s = s := by
  obtain ⟨b, hb, hspent⟩ := hs
  cases b with
  | sink y =>
    have hdiscard : y.engine.discard = ([], y.engine) := SinkEngine.Spent.discard hspent
    simp only [discard, sink?_eq_some.2 hb, hdiscard]
    rw [setSink, setBlock_self hb]
    rfl
  | _ => simp [discard, sink?, hb]

/-- Nobody has to wait for a block that was shut down. -/
lemma threadEnded_of_spent (hs : At i Block.Spent s) : threadEnded i s = true := by
  obtain ⟨b, hb, hspent⟩ := hs
  cases b with
  | source x => simp [threadEnded, hb, hspent.thread]
  | sink y => simp [threadEnded, hb, hspent.worker]
  | stage z => exact hspent.elim

lemma signalStop_idle (hs : At i Block.Spent s) :
    (s.mapSource i fun x => { x with stop := x.stop.stop }) = s := by
  refine mapSource_idle (fun x hx => ?_) hs
  have hstop : x.stop.stop = x.stop := congrArg StopSignal.mk hx.stop.symm
  rw [hstop]

lemma clearConsumer_idle (hs : At i Block.Spent s) :
    (s.mapSource i fun x => { x with engine := { x.engine with consumer := none } }) = s := by
  refine mapSource_idle (fun x hx => ?_) hs
  rw [← hx.consumer]

/-- Shutting down again what was shut down before changes nothing. -/
theorem shutdown_idles (hs : At i Block.Spent s) :
    (shutdown i).Meets (UndergoesAt i) (fun s t => t = s) (fun _ => At i Block.Spent) s := by
  have hR := interference_undergoesAt (ω := ω) (γ := γ) (π := π) i
  have hjoin {t : Network ω γ π} (ht : At i Block.Spent t) :
      (join i).Meets (UndergoesAt i) (fun s t => t = s) (fun _ => At i Block.Spent) t :=
    fun u hu _ => modify_idles (fun _ => forgetThread_idle) (ht.lasts Block.lasts_spent hu)
  refine Routine.meets_get.2 fun t ht => ⟨rfl, ?_⟩
  obtain ⟨b, hb, hspent⟩ := hs.lasts Block.lasts_spent ht
  have hat : At i Block.Spent t := ⟨b, hb, hspent⟩
  simp only [hb]
  cases b with
  | source x =>
    refine .bind hR ((modify_idles (fun _ => signalStop_idle) hat).weaken fun _ u hu => ?_)
    refine .bind hR ((hjoin hu).weaken fun _ u hu => ?_)
    refine .bind hR ((modify_idles (fun _ => settleStopped_idle) hu).weaken fun _ u hu => ?_)
    exact modify_idles (fun _ => clearConsumer_idle) hu
  | sink y =>
    refine .bind hR (.bind hR ((modify_idles (fun _ => halt_idle) hat).weaken fun _ u hu => ?_))
    refine .bind hR ((hjoin hu).weaken fun _ u hu => ?_)
    refine (modify_idles (fun _ => discard_idle) hu).weaken fun _ u hu => ?_
    exact modify_idles (fun _ => settleStopped_idle) hu
  | stage z => exact hspent.elim

/-- Alone, a second shutdown comes to its end without waiting. -/
theorem run_shutdown_of_spent (hs : At i Block.Spent s)
    (progress : (Network ω γ π → Bool) → Network ω γ π → Network ω γ π)
    (hprogress : ∀ ready t, ready t = true → progress ready t = t) :
    (shutdown i).run progress s = ((), s) := by
  have hwait := hprogress _ s (threadEnded_of_spent hs)
  obtain ⟨b, hb, hspent⟩ := id hs
  cases b with
  | source x =>
    simp only [shutdown, shutdownSource, signalStop, join, settleStopped, clearConsumer, hb,
      Routine.run_bind, Routine.run_get, Routine.run_modify, Routine.run_waitFor, hwait,
      signalStop_idle hs, forgetThread_idle hs, settleStopped_idle hs, clearConsumer_idle hs]
  | sink y =>
    simp only [shutdown, shutdownSink, haltWorker, join, settleStopped, hb,
      Routine.run_bind, Routine.run_get, Routine.run_modify, Routine.run_waitFor, hwait,
      halt_idle hs, forgetThread_idle hs, discard_idle hs, settleStopped_idle hs]
  | stage z => exact hspent.elim

end Network

end FrameGraph
